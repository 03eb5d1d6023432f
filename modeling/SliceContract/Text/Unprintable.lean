import SliceContract.Unicode.Property

/-!
# Characters that are not written as themselves

Characters that a reader of a diagnostic text could not see, or could not tell from the character
before them.
-/

namespace SliceContract

namespace Unicode

/-- Characters without a glyph of their own: controls, formats, private use, code points that no
character is assigned to, separators, and what may be ignored in display. -/
def invisible : CharSet :=
  (Category.union [.control, .format, .privateUse, .unassigned, .lineSeparator,
    .paragraphSeparator, .spaceSeparator]).union CharProperty.defaultIgnorableCodePoint.members

/-- Characters that extend the one before them. The halfwidth sound marks do, and yet take a place
of their own. -/
def extending : CharSet :=
  CharProperty.graphemeExtend.members.diff (.ofTable "FF9E-FF9F")

def unprintable : CharSet := (invisible.union extending).diff (.single ' ')

/-- Whether a character can be written as itself in a diagnostic text. -/
def isPlain (c : Char) : Bool :=
  (32 ≤ c.toNat && c.toNat < 127) || !unprintable.contains c

end Unicode

end SliceContract
