/-!
# Drafts

The published drafts of the schema language differ in which keywords exist and in what some of
them mean.
-/

namespace SliceContract

inductive Draft where
  | draft4
  | draft6
  | draft7
  | draft201909
  | draft202012
  deriving DecidableEq, Repr

namespace Draft

/-- Position in the order of publication. -/
def rank : Draft → Nat
  | draft4 => 0
  | draft6 => 1
  | draft7 => 2
  | draft201909 => 3
  | draft202012 => 4

def atLeast (d since : Draft) : Bool := since.rank ≤ d.rank

@[simp] theorem atLeast_self (d : Draft) : d.atLeast d = true := by simp [atLeast]

def name : Draft → String
  | draft4 => "Draft4"
  | draft6 => "Draft6"
  | draft7 => "Draft7"
  | draft201909 => "Draft201909"
  | draft202012 => "Draft202012"

end Draft

/-- What a schema document is compiled for: the draft it is read under, and whether its formats are
enforced. -/
structure Options where
  draft : Draft
  validateFormats : Bool
  deriving DecidableEq, Repr

/-- The latest draft, formats not enforced. -/
def Options.standard : Options := ⟨.draft202012, false⟩

end SliceContract
