import SliceContract.Proofs.Json.Places
import SliceContract.Proofs.JsonSchema.Names

/-!
# Failures are about parts of the value

Whatever is objected to is a part of the judged value, and an object that is said to lack a key does
lack it. The main statement is `Compiled.located_failures`.
-/

namespace SliceContract

/-! ## Located failures -/

/-- Whether a failure is about a part of a value; the part is an object without the key if one is
said to be missing. -/
def Failure.Located (f : Failure) (v : Json) : Prop :=
  ∃ x, v.at? f.instancePath = some x ∧
    ∀ key, f.objection.cause = .missing key → ∃ ms, x = .object ms ∧ ms.lookup key = none

/-- Whether a failure without a place is reported of the value as a whole. -/
def Failure.Rooted (f : Failure) : Prop :=
  f.objection.cause.isUnplaced = true → f.instancePath = []

namespace Failure

variable {v x : Json} {f : Failure}

/-- A failure with a place keeps one wherever it is moved. -/
theorem Rooted.under (h : f.Rooted) (l l' : Location) : (f.under l l').Rooted := by
  intro unplaced
  rw [objection_under] at unplaced
  rw [under_of_unplaced unplaced]
  exact h unplaced

/-- A failure without a place is not about a missing key, so it is about any value. -/
theorem located_of_unplaced (rooted : f.Rooted) (unplaced : f.objection.cause.isUnplaced = true) :
    f.Located v := by
  refine ⟨v, ?_, fun key missing => ?_⟩
  · rw [rooted unplaced]
    exact Json.at?_nil v
  · rw [missing] at unplaced
    cases unplaced

/-- A failure of a part, seen from the whole value. -/
theorem Located.under {l l' : Location} (part : v.at? l = some x) (rooted : f.Rooted)
    (h : f.Located x) : (f.under l l').Located v := by
  cases placed : f.objection.cause.isUnplaced with
  | true =>
      rw [under_of_unplaced placed]
      exact located_of_unplaced rooted placed
  | false =>
      obtain ⟨y, hy, lacks⟩ := h
      rw [under_of_placed placed]
      refine ⟨y, ?_, lacks⟩
      rw [Json.at?_append, part, Option.bind_some, hy]

/-- A failure of a name is about the name as a whole, so it can be seen as a failure of the value
that has it. -/
theorem Located.of_name {name : String} {l' : Location} (rooted : f.Rooted)
    (h : f.Located (.string name)) : (f.under [] l').Located v := by
  obtain ⟨y, hy, lacks⟩ := h
  obtain ⟨whole, rfl⟩ := Json.at?_string hy
  have present (key : String) : f.objection.cause ≠ .missing key := by
    intro missing
    obtain ⟨ms, object, -⟩ := lacks key missing
    cases object
  have here : f.Located v := by
    refine ⟨v, ?_, fun key missing => absurd missing (present key)⟩
    rw [whole]
    exact Json.at?_nil v
  exact here.under (Json.at?_nil v) rooted

end Failure

/-! ## Assertions -/

namespace Assertion

/-- An assertion with a single cause never finds a key missing. -/
theorem not_missing_of_cause? {a : Assertion} {c : Cause} (h : a.cause? = some c) (key : String) :
    c ≠ .missing key := by
  rintro rfl
  cases a <;> cases h

/-- Keys that are found missing are missing. -/
theorem lookup_of_missingKeys {ms : Entries Json} {keys : List String} {c : Cause}
    (h : c ∈ missingKeys ms keys) : ∃ key, c = .missing key ∧ ms.lookup key = none := by
  obtain ⟨key, hkey, rfl⟩ := List.mem_map.mp h
  obtain ⟨-, absent⟩ := List.mem_filter.mp hkey
  refine ⟨key, rfl, ?_⟩
  simpa [hasKey] using absent

/-- A key that is said to be missing is looked for in an object. -/
theorem object_of_missing {a : Assertion} {v : Json} {key : String}
    (h : .missing key ∈ a.causes v) : ∃ ms, v = .object ms ∧ ms.lookup key = none := by
  rw [causes.eq_def] at h
  split at h
  · next ms =>
      obtain ⟨other, same, absent⟩ := lookup_of_missingKeys h
      cases same
      exact ⟨ms, rfl, absent⟩
  · next ms =>
      obtain ⟨entry, -, h⟩ := List.mem_flatMap.mp h
      obtain ⟨other, same, absent⟩ := lookup_of_missingKeys h
      cases same
      exact ⟨ms, rfl, absent⟩
  · split at h <;> simp at h
  · rw [Option.mem_toList, TextContent.cause?.eq_def] at h
    grind
  · split at h
    · cases h
    · exact absurd rfl (not_missing_of_cause? (Option.mem_toList.mp h) key)

/-- An assertion fails at the value itself. -/
theorem instancePath_failure (a : Assertion) (v : Json) (c : Cause) :
    (a.failure v c).instancePath = [] := by
  cases c <;> rfl

theorem rooted_failures (a : Assertion) (v : Json) : ∀ f ∈ a.failures v, f.Rooted :=
  List.forall_mem_map.mpr fun c _ _ => a.instancePath_failure v c

/-- An assertion objects to the value as a whole. -/
theorem located_failures (a : Assertion) (v : Json) : ∀ f ∈ a.failures v, f.Located v := by
  intro f hf
  obtain ⟨c, hc, rfl⟩ := List.mem_map.mp hf
  refine ⟨v, ?_, fun key missing => object_of_missing (a := a) ?_⟩
  · rw [instancePath_failure]
    exact Json.at?_nil v
  · rw [cause_failure] at missing
    exact missing ▸ hc

end Assertion

/-! ## All failures -/

/-- In well-formed values a failure is about a part wherever it is seen from. -/
theorem carried_located : Carried fun v f => f.Rooted ∧ (v.WellFormed → f.Located v) where
  asserted a v f hf := ⟨a.rooted_failures v f hf, fun _ => a.located_failures v f hf⟩
  raised {v l o} composite := by
    refine ⟨fun _ => rfl, fun _ => ⟨v, Json.at?_nil v, fun key missing => ?_⟩⟩
    have same : o.cause = .missing key := missing
    rw [same] at composite
    cases composite
  here := fun ⟨rooted, located⟩ =>
    ⟨rooted.under _ _, fun formed => (located formed).under (Json.at?_nil _) rooted⟩
  member hm := fun ⟨rooted, located⟩ =>
    ⟨rooted.under _ _, fun formed => (located (Json.wellFormed_of_mem_members formed hm)).under
      (Json.at?_of_mem_members formed hm) rooted⟩
  element {xs f l i x} hx := fun ⟨rooted, located⟩ => by
    refine ⟨rooted.under _ _, fun formed => ?_⟩
    have formedX := (Json.wellFormed_array xs).mp formed x (List.mem_of_getElem? hx)
    exact (located formedX).under (Json.at?_of_getElem? hx) rooted
  name := fun ⟨rooted, located⟩ =>
    ⟨rooted.under _ _, fun _ => (located (Json.wellFormed_string _)).of_name rooted⟩

/-- Every failure is about a part of the value, and a key that is said to be missing is missing
there. -/
theorem Compiled.located_failures {c : Compiled} {v : Json} (formed : v.WellFormed)
    {fs : List Failure} (report : c.failures v = some fs) : ∀ f ∈ fs, f.Located v :=
  fun f hf => (c.carried_failures carried_located report f hf).2 formed

/-- Every failure without a place is reported of the whole value. -/
theorem Compiled.rooted_failures {c : Compiled} {v : Json} {fs : List Failure}
    (report : c.failures v = some fs) : ∀ f ∈ fs, f.Rooted :=
  fun f hf => (c.carried_failures carried_located report f hf).1

end SliceContract
