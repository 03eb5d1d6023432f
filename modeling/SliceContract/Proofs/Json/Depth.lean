import SliceContract.Json.Basic

/-!
# Depth

The parts of a value are less deep than the value, so what holds of a value whenever it holds of its
parts holds of every value.
-/

namespace SliceContract

namespace Json

/-- An array is deeper than its elements. -/
theorem depth_lt_of_mem_array {x : Json} {xs : List Json} (h : x ∈ xs) :
    x.depth < (array xs).depth := by
  have items : x.depth ≤ depth.items xs := by
    induction xs with
    | nil => cases h
    | cons y rest ih =>
        rw [depth.items]
        rcases List.mem_cons.mp h with rfl | h
        · exact Nat.le_max_left _ _
        · exact Nat.le_trans (ih h) (Nat.le_max_right _ _)
  rw [depth]
  omega

theorem depth_lt_of_mem_object {m : String × Json} {ms : List (String × Json)} (h : m ∈ ms) :
    m.2.depth < (object ms).depth := by
  have members : m.2.depth ≤ depth.members ms := by
    induction ms with
    | nil => cases h
    | cons e rest ih =>
        rw [depth.members]
        rcases List.mem_cons.mp h with rfl | h
        · exact Nat.le_max_left _ _
        · exact Nat.le_trans (ih h) (Nat.le_max_right _ _)
  rw [depth]
  omega

/-- What holds of a value whenever it holds of all values that are less deep holds of every
value. -/
theorem depth_induction {motive : Json → Prop}
    (step : ∀ v, (∀ x : Json, x.depth < v.depth → motive x) → motive v) (v : Json) : motive v := by
  induction h : v.depth using Nat.strongRecOn generalizing v with
  | ind n ih => exact step v fun x hx => ih x.depth (h ▸ hx) x rfl

end Json

end SliceContract
