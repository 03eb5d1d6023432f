import SliceContract.HostName.Mapping
import SliceContract.Unicode.Composition
import SliceContract.Unicode.Direction
import SliceContract.Unicode.Joining

/-!
# Labels of host names

What a label may look like: where hyphens and marks may stand, when characters without a width of
their own may stand between letters, and how directions may be mixed.
-/

namespace SliceContract

namespace HostName

/-- ASCII characters that labels may hold once capitals have been mapped. -/
def isLabelChar (c : Char) : Bool := 0x80 ≤ c.toNat || c.isLower || c.isDigit || c = '-'

/-- No hyphen stands first or last, and no two in third and fourth place. -/
def hasSoundHyphens (label : List Char) : Bool :=
  label.head? ≠ some '-' && label.getLast? ≠ some '-' && (label.drop 2).take 2 ≠ ['-', '-']

def isMark (c : Char) : Bool :=
  (Category.union [.nonspacingMark, .spacingMark, .enclosingMark]).contains c

/-- Whether the letters around a place join across it. `before` is reversed. -/
def joinsAcross (before after : List Char) : Bool :=
  let nearest (side : List Char) : Joining :=
    ((side.map Joining.of).find? fun j => j != .transparent).getD .none
  [.left, .dual].contains (nearest before) && [.right, .dual].contains (nearest after)

/-- A joiner stands after a mark that suppresses a vowel; one that keeps letters apart may stand
between letters that join, too. `before` is reversed. -/
def hasSoundJoiners (before : List Char) : List Char → Bool
  | [] => true
  | c :: rest =>
    let sound :=
      if c ≠ '\u200c' ∧ c ≠ '\u200d' then true
      else if before.head?.any fun b => CombiningClass.of b == CombiningClass.virama then true
      else c = '\u200c' && joinsAcross before rest
    sound && hasSoundJoiners (c :: before) rest

/-- A label of letters that are looked up as they are. -/
def isSound (label : List Char) : Bool :=
  hasSoundHyphens label && label.all isLabelChar && !label.head?.any isMark &&
    hasSoundJoiners [] label

/-- Whether a label holds a character that is written from right to left. -/
def isRightToLeft (label : List Char) : Bool :=
  label.any fun c => [.rightToLeft, .arabicLetter, .arabicNumber].contains (Direction.of c)

/-- Directions that a label of either kind may hold. -/
def neutralDirections : List Direction :=
  [.europeanNumber, .europeanSeparator, .commonSeparator, .europeanTerminator, .otherNeutral,
    .boundaryNeutral, .nonspacingMark]

/-- A label of a name in which some label is written from right to left begins with a letter, keeps
to the directions of its first letter, and ends with a letter or a number; one from right to left
does not mix two kinds of numbers. -/
def hasSoundDirections (label : List Char) : Bool :=
  let directions := label.map Direction.of
  let last := (directions.reverse.find? fun d => d != .nonspacingMark).getD .nonspacingMark
  match directions with
  | [] => true
  | .leftToRight :: _ =>
    (directions.all fun d => d == .leftToRight || neutralDirections.contains d) &&
      [.leftToRight, .europeanNumber].contains last
  | .rightToLeft :: _ | .arabicLetter :: _ =>
    (directions.all fun d =>
      [.rightToLeft, .arabicLetter, .arabicNumber].contains d || neutralDirections.contains d) &&
      [.rightToLeft, .arabicLetter, .europeanNumber, .arabicNumber].contains last &&
      !(directions.contains .europeanNumber && directions.contains .arabicNumber)
  | _ => false

end HostName

end SliceContract
