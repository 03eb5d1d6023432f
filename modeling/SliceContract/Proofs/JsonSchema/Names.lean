import SliceContract.Proofs.JsonSchema.Raising

/-!
# Names in failures

Some causes name a format or a keyword. They have the name neither from the document nor from the
schema: a format is named as the library knows it, and a keyword is one of two.
-/

namespace SliceContract

/-- Whether a cause that names a format or a keyword names one that there is. -/
def Cause.Named : Cause → Prop
  | wrongFormat name => ∃ format : Format, name = format.name
  | noBranch keyword => keyword ∈ ["anyOf", "oneOf"]
  | _ => True

namespace Cause

theorem named_of_composite {c : Cause} (h : c.Composite) : c.Named := by
  cases c with
  | noBranch keyword => exact h
  | wrongFormat name => cases h
  | _ => trivial

end Cause

namespace Assertion

theorem cause_failure (a : Assertion) (v : Json) (c : Cause) :
    (a.failure v c).objection.cause = c := by
  cases c <;> rfl

theorem named_missingKeys {ms : Entries Json} {keys : List String} :
    ∀ c ∈ missingKeys ms keys, c.Named :=
  List.forall_mem_map.mpr fun _ _ => trivial

/-- The causes of an assertion name its keyword. -/
theorem named_causes (a : Assertion) (v : Json) : ∀ c ∈ a.causes v, c.Named := by
  rw [causes.eq_def]
  split
  · exact named_missingKeys
  · exact List.forall_mem_flatMap.mpr fun _ _ => named_missingKeys
  · split
    · exact List.forall_mem_nil _
    · exact List.forall_mem_singleton.mpr trivial
    · exact List.forall_mem_singleton.mpr trivial
  · next content s =>
      intro c hc
      have cause := Option.mem_toList.mp hc
      rw [TextContent.cause?.eq_def] at cause
      grind [Cause.Named]
  · split
    · exact List.forall_mem_nil _
    · intro c hc
      cases a with
      | format f =>
          cases Option.some.inj (Option.mem_toList.mp hc)
          exact ⟨f, rfl⟩
      | required keys => cases hc
      | dependentRequired keyword table => cases hc
      | content c => cases hc
      | _ =>
          cases Option.some.inj (Option.mem_toList.mp hc)
          trivial

end Assertion

/-- A cause is the same wherever it is seen from. -/
theorem carried_named : Carried fun _ f => f.objection.cause.Named where
  asserted a v := List.forall_mem_map.mpr fun c hc => by
    rw [Assertion.cause_failure]
    exact a.named_causes v c hc
  raised := Cause.named_of_composite
  here named := by rwa [Failure.objection_under]
  member _ named := by rwa [Failure.objection_under]
  element _ named := by rwa [Failure.objection_under]
  name named := by rwa [Failure.objection_under]

/-- Formats and keywords that failures name are there to be named. -/
theorem Compiled.named_failures {c : Compiled} {v : Json} {fs : List Failure}
    (report : c.failures v = some fs) : ∀ f ∈ fs, f.objection.cause.Named :=
  c.carried_failures carried_named report

end SliceContract
