import Mathlib.Algebra.BigOperators.Group.List.Lemmas
import Mathlib.Algebra.Ring.Nat
import SliceContract.Proofs.Occurrences
import SliceContract.Violation

/-!
# Violations by field

The names that violations are grouped by are collected in one pass, and the group of a name is
picked in another. Together they divide the violations: whatever has a field is in just one group,
and nothing is lost or counted twice. The main statement is `divided_fields`.
-/

namespace SliceContract

/-- A list divided among its distinct elements: as often as they occur, all together. -/
theorem sum_count_distinct {α : Type*} [DecidableEq α] (xs : List α) :
    ((distinct xs).map fun x => xs.count x).sum = xs.length := by
  rw [((distinct_perm_dedup xs).map _).sum_eq, List.sum_map_count_dedup_eq_length]

namespace Violations

/-- What makes names, with a group for each, a division of violations by their field. -/
structure Divided (violations : List Violation) (names : List String)
    (group : String → List Violation) : Prop where
  nodup : names.Nodup
  mem_iff : ∀ name, name ∈ names ↔ ∃ v ∈ violations, v.field = some name
  /-- The names are in the order of the first violations that have them. -/
  inOrder : names.Pairwise fun a b =>
    violations.findIdx (fun v => v.field == some a) <
      violations.findIdx (fun v => v.field == some b)
  /-- A group has the violations with its name, all of them and in their order. -/
  sublist : ∀ name, (group name).Sublist violations
  count_eq : ∀ name v,
    (group name).count v = if v.field = some name then violations.count v else 0
  filled : ∀ name, group name ≠ [] ↔ name ∈ names
  inOneGroup : ∀ v ∈ violations, v.field ≠ none → ∃! name, name ∈ names ∧ v ∈ group name
  inNoGroup : ∀ v, v.field = none → ∀ name, v ∉ group name
  total : (names.map fun name => (group name).length).sum +
    violations.countP (fun v => v.field = none) = violations.length

variable {violations : List Violation} {name : String} {v : Violation}

theorem mem_fields : name ∈ fields violations ↔ ∃ v ∈ violations, v.field = some name := by
  rw [fields, mem_distinct, List.mem_filterMap]

theorem mem_forField : v ∈ forField violations name ↔ v ∈ violations ∧ v.field = some name := by
  simp [forField]

theorem count_forField : (forField violations name).count v =
    if v.field = some name then violations.count v else 0 := by
  split
  · next named => exact List.count_filter (by simpa using named)
  · next other => exact List.count_eq_zero.mpr fun mem => other (mem_forField.mp mem).2

/-- A group is as long as its name occurs among the fields. -/
theorem length_forField (violations : List Violation) (name : String) :
    (forField violations name).length = (violations.filterMap (·.field)).count name := by
  rw [forField, ← List.countP_eq_length_filter, List.count_filterMap]
  exact List.countP_congr fun v _ => by simp

/-- Every violation has a field or none. -/
theorem length_eq_fields_add (violations : List Violation) :
    (violations.filterMap (·.field)).length + violations.countP (fun v => v.field = none) =
      violations.length := by
  rw [List.length_filterMap_eq_countP,
    List.length_eq_countP_add_countP (l := violations) fun v => v.field.isSome]
  simp

/-- The names of the fields and the violations of each divide a list of violations. -/
theorem divided_fields (violations : List Violation) :
    Divided violations (fields violations) (forField violations) where
  nodup := nodup_distinct _
  mem_iff _ := mem_fields
  inOrder := pairwise_distinct _ violations
  sublist _ := List.filter_sublist
  count_eq _ _ := count_forField
  filled name := by
    rw [mem_fields, Ne, List.eq_nil_iff_forall_not_mem, not_forall_not]
    exact exists_congr fun v => mem_forField
  inOneGroup v hv hf := by
    obtain ⟨name, named⟩ := Option.ne_none_iff_exists'.mp hf
    refine ⟨name, ⟨mem_fields.mpr ⟨v, hv, named⟩, mem_forField.mpr ⟨hv, named⟩⟩, ?_⟩
    rintro other ⟨-, mem⟩
    exact Option.some.inj ((mem_forField.mp mem).2.symm.trans named)
  inNoGroup v hf name mem := by
    cases hf.symm.trans (mem_forField.mp mem).2
  total := by
    simp only [length_forField]
    rw [fields, sum_count_distinct, length_eq_fields_add]

-- Violations with an empty name and with none, and one that is found twice.
example : fields [⟨"/b", "", some "b", ""⟩, ⟨"", "", none, ""⟩, ⟨"/", "", some "", ""⟩,
      ⟨"/b", "", some "b", ""⟩, ⟨"/a", "", some "a", ""⟩] = ["b", "", "a"] := by
  decide

end Violations

end SliceContract
