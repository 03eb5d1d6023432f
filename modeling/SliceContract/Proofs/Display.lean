import SliceContract.Proofs.Answers
import SliceContract.Proofs.Attribution
import SliceContract.Proofs.JsonSchema.Messages

/-!
# The lines of a report

The message of a refusal gives the number of violations and then the violations, one below the
other. A violation takes a line of its own as long as the texts have no newline that it shows as
they are: the keys on the way to the refused value, the key that is missing, the keys that were not
expected or not evaluated, and the pattern that was not found. The main statement is
`lines_message_iff`.
-/

namespace SliceContract

open Text

/-! ## Pointers -/

namespace Pointer

/-- Escaping neither adds newlines nor takes them away. -/
theorem newline_mem_escape (token : List Char) : '\n' ∈ escape token ↔ '\n' ∈ token := by
  have escaped (c : Char) : '\n' ∈ escapeChar c ↔ '\n' = c := by
    rw [escapeChar]
    split
    · next tilde => simp [tilde]
    · split
      · next slash => simp [slash]
      · exact List.mem_singleton
  simp [escape, escaped]

theorem newline_not_mem_element (i : Nat) : '\n' ∉ token (.element i) := by
  intro newline
  cases isDigit_of_mem_element '\n' newline

/-- A pointer stays in one line exactly when the keys on its way do. -/
theorem oneLine_render (l : Location) :
    OneLine (render l) ↔ ∀ key ∈ l.filterMap Step.key?, OneLine key := by
  have tokens : OneLine (render l) ↔ ∀ step ∈ l, '\n' ∉ token step := by
    rw [OneLine, toList_render, text]
    simp [newline_mem_escape]
  rw [tokens, List.forall_mem_filterMap]
  apply forall₂_congr
  intro step _
  cases step with
  | member key => simp [Step.key?, OneLine, token]
  | element i => simp [Step.key?, newline_not_mem_element]

/-- A key that is found in a pointer of one line is of one line. -/
theorem oneLine_innermostKey {l : Location} {key : String}
    (h : innermostKey (text l) = some key) (flat : OneLine (render l)) : OneLine key := by
  obtain ⟨step, hs, same, -⟩ := exists_token_of_innermostKey h
  rw [OneLine, same]
  cases step with
  | member key => exact (oneLine_render l).mp flat key (List.mem_filterMap.mpr ⟨_, hs, rfl⟩)
  | element i => exact newline_not_mem_element i

end Pointer

/-! ## Displayed violations -/

namespace Failure

/-- The texts that the report of a failure shows as they are: the keys on the way to the refused
value, and what the cause shows. -/
def verbatim (f : Failure) : List String :=
  f.instancePath.filterMap Step.key? ++ f.objection.cause.verbatim

/-- Whether a failure shows no text with a newline as it is. -/
def Flat (f : Failure) : Prop := ∀ text ∈ f.verbatim, OneLine text

instance (f : Failure) : Decidable f.Flat := inferInstanceAs (Decidable (∀ _ ∈ _, _))

end Failure

namespace Violation

theorem oneLine_place (v : Violation) : OneLine v.place ↔ OneLine v.instancePath := by
  have root : OneLine "(root)" := (oneLine_ofList _).mpr (by decide)
  have empty : OneLine "" := List.not_mem_nil
  rw [place]
  split
  · next same =>
    rw [same]
    exact iff_of_true root empty
  · exact Iff.rfl

/-- A violation is displayed in one line if its path, its field and its message are of one line. -/
theorem oneLine_display (v : Violation) : OneLine v.display ↔
    OneLine v.instancePath ∧ (∀ field, v.field = some field → OneLine field) ∧
      OneLine v.message := by
  have indent : OneLine "  " := (oneLine_ofList _).mpr (by decide)
  have opening : OneLine " [" := (oneLine_ofList _).mpr (by decide)
  have closing : OneLine "]: " := (oneLine_ofList _).mpr (by decide)
  have colon : OneLine ": " := (oneLine_ofList _).mpr (by decide)
  rw [display]
  cases v.field with
  | none => simp only [oneLine_append, oneLine_place, indent, colon]; simp
  | some field =>
      simp only [oneLine_append, oneLine_place, indent, opening, closing]
      simp [and_assoc]

/-- A violation is displayed in one line exactly when no text with a newline is shown as it is. -/
theorem oneLine_ofFailure {f : Failure} (named : f.objection.cause.Named) :
    OneLine (ofFailure f).display ↔ f.Flat := by
  have path : (ofFailure f).instancePath = Pointer.render f.instancePath := rfl
  have message : (ofFailure f).message = f.objection.cause.message f.objection.subject := rfl
  rw [oneLine_display, path, message, Failure.Flat, Failure.verbatim, List.forall_mem_append,
    ← Pointer.oneLine_render]
  apply and_congr_right
  intro flat
  by_cases absent : ∃ key, f.objection.cause = .missing key
  · obtain ⟨key, missing⟩ := absent
    have quoted := Cause.oneLine_message_missing f.objection.subject key
    rw [Failure.field_of_missing missing, missing]
    simp [quoted, Cause.verbatim]
  · have present := not_exists.mp absent
    have field : ∀ field, (ofFailure f).field = some field → OneLine field := by
      intro field found
      rw [Failure.field_of_present present] at found
      exact Pointer.oneLine_innermostKey found flat
    rw [← Cause.oneLine_message f.objection.subject named present]
    exact and_iff_right field

end Violation

/-! ## The message of a refusal -/

namespace Refusal

/-- The first line of a message about violations. -/
def header (count : Nat) : String := "validation failed with " ++ toString count ++ " violation(s):"

theorem oneLine_header (count : Nat) : OneLine (header count) := by
  have before : OneLine "validation failed with " := (oneLine_ofList _).mpr (by decide)
  have behind : OneLine " violation(s):" := (oneLine_ofList _).mpr (by decide)
  exact (oneLine_append _ _).mpr
    ⟨(oneLine_append _ _).mpr ⟨before, oneLine_toString count⟩, behind⟩

theorem message_violations (vs : List Violation) :
    (violations vs).message = header vs.length ++ "\n" ++ Violations.display vs := by
  have newline : " violation(s):\n" = " violation(s):" ++ "\n" := by decide
  calc (violations vs).message
    _ = "validation failed with " ++ toString vs.length ++ " violation(s):\n" ++
          Violations.display vs := rfl
    _ = header vs.length ++ "\n" ++ Violations.display vs := by
        rw [newline, ← String.append_assoc]
        rfl

/-- The lines of a refusal are the header and the lines of the violations. -/
theorem lines_message {vs : List Violation} (ne : vs ≠ []) :
    lines (violations vs).message =
      header vs.length :: (vs.map Violation.display).flatMap lines := by
  have shown : vs.map Violation.display ≠ [] := fun h => ne (List.map_eq_nil_iff.mp h)
  rw [message_violations, lines_join, Violations.display, lines_intercalate shown,
    lines_of_oneLine (oneLine_header _)]
  rfl

end Refusal

/-- Whether the message about violations has their number in its first line, and then a line for
each of them. -/
def ByLine (violations : List Violation) : Prop :=
  lines (Refusal.violations violations).message =
    Refusal.header violations.length :: violations.map Violation.display

instance (violations : List Violation) : Decidable (ByLine violations) :=
  inferInstanceAs (Decidable (_ = _))

/-- The message that a document is refused with has the header and the lines of the displayed
violations. There is a line for each violation exactly when no failure shows a text with a newline
as it is, and no other message has as many lines. -/
theorem lines_message_iff (w : Validator) {v : Json} {violations : List Violation}
    (rejected : w.validate v = some (.error (.violations violations))) :
    lines (Refusal.violations violations).message = Refusal.header violations.length ::
        (violations.map Violation.display).flatMap lines ∧
      ∃ fs, w.compiled.failures v = some fs ∧ violations = fs.map .ofFailure ∧
        (ByLine violations ↔ ∀ f ∈ fs, f.Flat) ∧
        ((lines (Refusal.violations violations).message).length = violations.length + 1 ↔
          ∀ f ∈ fs, f.Flat) := by
  obtain ⟨_, ne, same, report⟩ := Validator.validate_error_iff.mp rejected
  cases same
  obtain ⟨fs, found, reported⟩ := Option.map_eq_some_iff.mp report
  have shown := Refusal.lines_message ne
  have flat : (∀ text ∈ violations.map Violation.display, OneLine text) ↔ ∀ f ∈ fs, f.Flat := by
    rw [← reported, List.forall_mem_map]
    apply List.forall_mem_map.trans
    apply forall₂_congr
    intro f hf
    exact Violation.oneLine_ofFailure (Compiled.named_failures found f hf)
  refine ⟨shown, fs, found, reported.symm, ?_, ?_⟩
  · rw [ByLine, shown, List.cons_inj_right, flatMap_lines_iff, flat]
  · rw [shown, List.length_cons, Nat.add_right_cancel_iff, ← flat, ← length_flatMap_lines_iff,
      List.length_map]

/-- Two texts in an object. -/
def Slice.titled : Slice Schema := .object "card" ⟨.text "title", [.text "note"]⟩

/-- A wrong type and a missing key take a line each. -/
theorem byLine_titled : ∃ w violations, Validator.ofSlice Slice.titled .standard = .ok w ∧
    w.validate (.object [("card", .object [("title", .int 1)])]) =
      some (.error (.violations violations)) ∧
    ByLine violations ∧
    violations.map Violation.display =
      ["  /card/title [title]: 1 is not of type \"string\"",
        "  /card [note]: \"note\" is a required property"] := by
  let w : Validator := ⟨⟨(Schema.ofSlice Slice.titled).document, .standard⟩⟩
  let v : Json := .object [("card", .object [("title", .int 1)])]
  let violations : List Violation :=
    [⟨"/card/title", "/properties/card/allOf/0/properties/title/type", some "title",
        "1 is not of type \"string\""⟩,
      ⟨"/card", "/properties/card/allOf/1/required", some "note",
        "\"note\" is a required property"⟩]
  have report : w.violations v = some violations := by decide +kernel
  have rejected := Validator.validate_of_violations report
  obtain ⟨-, fs, found, reported, byLine, -⟩ := lines_message_iff w rejected
  have flat : (w.compiled.failures v).all (fun fs => fs.all fun f => f.Flat) = true := by
    decide +kernel
  rw [found, Option.all_some, List.all_eq_true] at flat
  have shown : violations.map Violation.display =
      ["  /card/title [title]: 1 is not of type \"string\"",
        "  /card [note]: \"note\" is a required property"] := by
    decide +kernel
  have compiled : Validator.ofSlice Slice.titled .standard = .ok w := by decide +kernel
  exact ⟨w, violations, compiled, rejected,
    byLine.mpr fun f hf => of_decide_eq_true (flat f hf), shown⟩

/-- A newline in a key divides the pointer and the field of a violation, and so its line. -/
theorem not_byLine_newlineKey : ∃ w violations,
    Validator.ofSlice (.text "a\nb") .standard = .ok w ∧
    w.validate (.object [("a\nb", .int 1)]) = some (.error (.violations violations)) ∧
    violations.length = 1 ∧
    lines (Refusal.violations violations).message =
      ["validation failed with 1 violation(s):", "  /a", "b [a",
        "b]: 1 is not of type \"string\""] ∧
    ¬ ByLine violations := by
  let w : Validator := ⟨⟨(Schema.ofSlice (.text "a\nb")).document, .standard⟩⟩
  have report : w.violations (.object [("a\nb", .int 1)]) =
      some [⟨"/a\nb", "/properties/a\nb/type", some "a\nb", "1 is not of type \"string\""⟩] := by
    decide +kernel
  refine ⟨w, _, ?_, Validator.validate_of_violations report, rfl, ?_, ?_⟩ <;> decide +kernel

end SliceContract
