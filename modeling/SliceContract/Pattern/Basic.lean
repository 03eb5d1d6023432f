import SliceContract.Pattern.Expression.Reader
import SliceContract.Pattern.Machine
import SliceContract.Pattern.Spelling

/-!
# Text patterns

Regular expressions with anchors, word boundaries, look-around and back-references. A text must keep
to the grammar of patterns; then it is spelled out, read as an expression, and laid out for the
kind of search that the expression needs.
-/

namespace SliceContract

inductive Pattern where
  /-- A regular expression. -/
  | regular (a : Pattern.Automaton)
  /-- An expression that takes backtracking. -/
  | backtracking (p : Pattern.Program)
  deriving Repr

namespace Pattern

/-- Whether a text keeps to the grammar of patterns. -/
def isSpelled (source : String) : Bool := (spell? source.toList).isSome

/-- The pattern that a text spells. A text can keep to the grammar and still spell no pattern that
can be matched. -/
def ofText? (source : String) : Option Pattern := do
  let spelled ← spell? source.toList
  let (e, groups, referred) ← Expression.read? spelled
  if e.isRegular referred then return .regular (← Automaton.ofExpression? e)
  else return .backtracking (← Program.ofExpression? referred groups e)

/-- Whether a text spells a pattern that can be matched. -/
def isUsable (source : String) : Bool := (ofText? source).isSome

/-- Look for the pattern in a text. -/
def search (pattern : Pattern) (text : String) : Outcome :=
  let chars := text.toList.toArray
  match pattern with
  | regular a => if a.occursIn chars then .found else .absent
  | backtracking p => Machine.search p chars

/-- Look in a text for the pattern that another text spells. -/
def searchFor (source text : String) : Outcome :=
  match ofText? source with
  | some pattern => pattern.search text
  | none => .absent

/-- Whether the pattern that `source` spells is found in a text. -/
def occurs (source text : String) : Bool := searchFor source text = .found

end Pattern

end SliceContract
