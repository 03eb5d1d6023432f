import SliceContract.Pattern.Grammar

/-!
# Patterns spelled out

A pattern that keeps to the grammar is spelled out before it is matched: its shorthands become
classes that list their characters, those of digits and words in ASCII only. A pattern that goes
beyond the grammar keeps its shorthands. In both, an escape for a control character becomes that
character where it is met.
-/

namespace SliceContract

namespace Pattern

/-- The blanks that a spelled out pattern lists. -/
def blankList : String :=
  " \\t\\n\\r\\u\x7bb\x7d\\u\x7bc\x7d\\u\x7ba0\x7d" ++
    "\\u\x7bfeff\x7d\\u\x7b2003\x7d\\u\x7b2029\x7d"

/-- What a shorthand lists between its brackets. -/
def Shorthand.list : Shorthand → String
  | digit => "0-9"
  | blank => blankList
  | word => "A-Za-z0-9_"

def Shorthand.spelling (kind : Shorthand) (negated : Bool) : String :=
  (if negated then "[^" else "[") ++ kind.list ++ "]"

/-- Spell out all shorthands. Every backslash that is not itself escaped begins an escape. -/
def spellOut : List Char → List Char
  | '\\' :: c :: rest =>
    match Shorthand.ofLetter? c with
    | some (kind, negated) => (kind.spelling negated).toList ++ spellOut rest
    | none => '\\' :: c :: spellOut rest
  | c :: rest => c :: spellOut rest
  | [] => []

/-- The control character that a letter stands for after `\c`. -/
def controlChar (letter : Char) : Char := Char.ofNat (letter.toNat % 32)

/-- Spell out a pattern that the grammar allows. An escape that it does not know must be that of a
control character. -/
def spell? (text : List Char) : Option (List Char) :=
  match Grammar.check text with
  | .ok _ => some (spellOut text)
  | .error .beyond => some text
  | .error .malformed => none
  | .error (.unknownEscape left) =>
    let before := text.length - left
    match _h : text.drop before with
    | '\\' :: 'c' :: letter :: rest =>
      if letter.isAlpha then spell? (text.take before ++ controlChar letter :: rest) else none
    | _ => none
termination_by text.length
decreasing_by
  have hlen := congrArg List.length _h
  simp only [List.length_drop, List.length_cons] at hlen
  simp only [List.length_append, List.length_take, List.length_cons]
  omega

end Pattern

end SliceContract
