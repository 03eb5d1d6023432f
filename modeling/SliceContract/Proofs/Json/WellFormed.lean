import Mathlib.Data.List.Basic
import SliceContract.Json.Basic

/-!
# Well-formed values

The values that stand for a document: at every depth the members of an object are in the order of
their keys, each key once.
-/

namespace SliceContract

namespace Json

/-- Whether the members of every object inside the value are in their order. -/
def WellFormed : Json → Prop
  | array xs => items xs
  | object ms => Entries.Ordered ms ∧ members ms
  | _ => True
where
  items : List Json → Prop
    | [] => True
    | x :: xs => WellFormed x ∧ items xs
  members : List (String × Json) → Prop
    | [] => True
    | (_, x) :: ms => WellFormed x ∧ members ms

@[simp] theorem wellFormed_null : null.WellFormed := trivial

@[simp] theorem wellFormed_string (s : String) : (string s).WellFormed := trivial

@[simp] theorem wellFormed_array (xs : List Json) :
    (array xs).WellFormed ↔ ∀ x ∈ xs, x.WellFormed := by
  have items : WellFormed.items xs ↔ ∀ x ∈ xs, x.WellFormed := by
    induction xs with
    | nil => simp [WellFormed.items]
    | cons x xs ih => rw [WellFormed.items, ih, List.forall_mem_cons]
  rw [← items]
  rfl

@[simp] theorem wellFormed_object (ms : Entries Json) :
    (object ms).WellFormed ↔ ms.Ordered ∧ ∀ m ∈ ms, m.2.WellFormed := by
  have members : WellFormed.members ms ↔ ∀ m ∈ ms, m.2.WellFormed := by
    induction ms with
    | nil => simp [WellFormed.members]
    | cons m ms ih => rw [WellFormed.members, ih, List.forall_mem_cons]
  rw [← members]
  rfl

end Json

end SliceContract
