import SliceContract.Proofs.JsonSchema.Places
import SliceContract.Validator

/-!
# The field that a violation is about

A violation is about the key that is missing, or else about the last key on the way to the refused
value. The field it is reported with is read off the pointer to that value. There a key that is
spelled like a position cannot be told from one, and an empty key looks like the start of the
pointer. The main statement is `field_eq_about_iff`: these are the only keys that are not reported.
-/

namespace SliceContract

/-! ## Values that can be addressed -/

namespace Json

/-- Whether every position inside the value is a number of 64 bits. -/
def Addressable : Json → Prop
  | array xs => xs.length ≤ UInt64.size ∧ items xs
  | object ms => members ms
  | _ => True
where
  items : List Json → Prop
    | [] => True
    | x :: xs => Addressable x ∧ items xs
  members : List (String × Json) → Prop
    | [] => True
    | (_, x) :: ms => Addressable x ∧ members ms

theorem addressable_array (xs : List Json) :
    (array xs).Addressable ↔ xs.length ≤ UInt64.size ∧ ∀ x ∈ xs, x.Addressable := by
  have items : Addressable.items xs ↔ ∀ x ∈ xs, x.Addressable := by
    induction xs with
    | nil => simp [Addressable.items]
    | cons x xs ih => rw [Addressable.items, ih, List.forall_mem_cons]
  rw [← items]
  rfl

theorem addressable_object (ms : Entries Json) :
    (object ms).Addressable ↔ ∀ m ∈ ms, m.2.Addressable := by
  have members : Addressable.members ms ↔ ∀ m ∈ ms, m.2.Addressable := by
    induction ms with
    | nil => simp [Addressable.members]
    | cons m ms ih => rw [Addressable.members, ih, List.forall_mem_cons]
  rw [← members]
  rfl

/-- All indices on the way to a part of an addressable value fit into 64 bits. -/
theorem Addressable.index_lt {v x : Json} {l : Location} (h : v.Addressable)
    (part : v.at? l = some x) {i : Nat} (hi : .element i ∈ l) : i < UInt64.size := by
  induction l generalizing v with
  | nil => cases hi
  | cons step rest ih =>
      cases step with
      | member key =>
          cases v with
          | object ms =>
              obtain ⟨y, hy, part⟩ := Option.bind_eq_some_iff.mp (at?_member ms key rest ▸ part)
              have below := (addressable_object ms).mp h _ (Entries.mem_of_lookup hy)
              refine ih below part ?_
              simpa using hi
          | _ => cases part
      | element j =>
          cases v with
          | array xs =>
              obtain ⟨y, hy, part⟩ := Option.bind_eq_some_iff.mp (at?_element xs j rest ▸ part)
              obtain ⟨short, below⟩ := (addressable_array xs).mp h
              rcases List.mem_cons.mp hi with same | hi
              · cases same
                exact Nat.lt_of_lt_of_le (List.getElem?_eq_some_iff.mp hy).1 short
              · exact ih (below y (List.mem_of_getElem? hy)) part hi
          | _ => cases part

end Json

/-! ## The last key on a way -/

/-- The key of a step to a member. -/
def Step.key? : Step → Option String
  | member key => some key
  | element _ => none

namespace Pointer

/-- The key of the last member that a location passes. -/
def lastKey? (l : Location) : Option String := l.reverse.findSome? Step.key?

@[simp] theorem lastKey?_nil : lastKey? [] = none := rfl

@[simp] theorem lastKey?_append_member (l : Location) (key : String) :
    lastKey? (l ++ [.member key]) = some key := by
  rw [lastKey?, List.reverse_append]
  rfl

/-- An index at the end does not change the last key. -/
@[simp] theorem lastKey?_append_element (l : Location) (i : Nat) :
    lastKey? (l ++ [.element i]) = lastKey? l := by
  rw [lastKey?, List.reverse_append]
  rfl

/-- Whether a key is seen to be one in a pointer: it is neither empty nor spelled like a position.
-/
def Telling (key : String) : Prop := key ≠ "" ∧ ¬ isIndex key.toList

instance (key : String) : Decidable (Telling key) := inferInstanceAs (Decidable (_ ∧ _))

/-- Only a telling key is read off a pointer. -/
theorem telling_of_innermostKey {l : Location} {key : String}
    (h : innermostKey (text l) = some key) : Telling key := by
  obtain ⟨step, -, same, filled, plain⟩ := exists_token_of_innermostKey h
  rw [← same] at filled plain
  exact ⟨filled ∘ String.toList_eq_nil_iff.mpr, plain⟩

/-- An index at the end is passed over, since it fits into 64 bits. -/
theorem innermostKey_append_element (l : Location) {i : Nat} (h : i < UInt64.size) :
    innermostKey (text (l ++ [.element i])) = innermostKey (text l) := by
  have filled : token (.element i) ≠ [] := Nat.toDigits_ne_nil
  rw [innermostKey_append_single, if_neg filled, if_pos (isIndex_element h)]

/-- A key at the end is found if it does not look like an index and is not empty. -/
theorem innermostKey_append_member (l : Location) {key : String} (h : Telling key) :
    innermostKey (text (l ++ [.member key])) = some key := by
  obtain ⟨filled, plain⟩ := h
  have spelled : token (.member key) = key.toList := rfl
  rw [innermostKey_append_single, spelled, if_neg (filled ∘ String.toList_eq_nil_iff.mp),
    if_neg plain, String.ofList_toList]

/-- The key that is read off a pointer is the last on the way exactly when that one is telling. -/
theorem innermostKey_eq_lastKey?_iff {l : Location}
    (short : ∀ i, .element i ∈ l → i < UInt64.size) :
    innermostKey (text l) = lastKey? l ↔ ∀ key, lastKey? l = some key → Telling key := by
  induction l using List.reverseRecOn with
  | nil => simp
  | append_singleton l step ih =>
      cases step with
      | member key =>
          rw [lastKey?_append_member]
          constructor
          · intro read other same
            cases same
            exact telling_of_innermostKey read
          · intro telling
            exact innermostKey_append_member l (telling key rfl)
      | element i =>
          rw [lastKey?_append_element, innermostKey_append_element l (short i (by simp))]
          exact ih fun j hj => short j (List.mem_append_left _ hj)

end Pointer

/-! ## Violations -/

open Pointer

namespace Failure

/-- The field that a failure is about. -/
def about (f : Failure) : Option String :=
  match f.objection.cause with
  | .missing key => some key
  | _ => lastKey? f.instancePath

/-- Whether the field of a failure can be told from its report. -/
def Legible (f : Failure) : Prop :=
  (∃ key, f.objection.cause = .missing key) ∨
    ∀ key, lastKey? f.instancePath = some key → Telling key

section Causes

variable {f : Failure}

theorem field_of_missing {key : String} (missing : f.objection.cause = .missing key) :
    (Violation.ofFailure f).field = some key := by
  rw [Violation.ofFailure, missing]
  rfl

theorem about_of_missing {key : String} (missing : f.objection.cause = .missing key) :
    f.about = some key := by
  rw [about, missing]

theorem field_of_present (present : ∀ key, f.objection.cause ≠ .missing key) :
    (Violation.ofFailure f).field = innermostKey (text f.instancePath) := by
  have field : (Violation.ofFailure f).field =
      Violation.fieldOf f.instancePath f.objection.cause := rfl
  rw [field]
  cases cause : f.objection.cause with
  | missing key => exact absurd cause (present key)
  | _ => rfl

theorem about_of_present (present : ∀ key, f.objection.cause ≠ .missing key) :
    f.about = lastKey? f.instancePath := by
  rw [about]
  cases cause : f.objection.cause with
  | missing key => exact absurd cause (present key)
  | _ => rfl

end Causes

/-- The field is the key that a failure is about exactly if the pointer can be read. -/
theorem field_eq_about_iff_legible {f : Failure}
    (short : ∀ i, .element i ∈ f.instancePath → i < UInt64.size) :
    (Violation.ofFailure f).field = f.about ↔ f.Legible := by
  by_cases absent : ∃ key, f.objection.cause = .missing key
  · obtain ⟨key, missing⟩ := absent
    rw [field_of_missing missing, about_of_missing missing]
    exact iff_of_true rfl (.inl ⟨key, missing⟩)
  · have present := not_exists.mp absent
    rw [field_of_present present, about_of_present present, innermostKey_eq_lastKey?_iff short,
      Legible, or_iff_right absent]

end Failure

/-- Every violation is about a part of the document, and is reported with the field that it is about
exactly when that field is a missing key, or there is no key on the way, or the last key on the way
is neither empty nor spelled like a position. What cannot be decoded is reported of the document as
a whole, wherever it stands, and so with no field. -/
theorem field_eq_about_iff (w : Validator) {v : Json} (formed : v.WellFormed)
    (short : v.Addressable) {fs : List Failure} (report : w.compiled.failures v = some fs) :
    w.violations v = some (fs.map .ofFailure) ∧
      ∀ f ∈ fs, (∃ x, v.at? f.instancePath = some x) ∧
        ((Violation.ofFailure f).field = f.about ↔ f.Legible) ∧
        (f.objection.cause.isUnplaced = true → f.instancePath = [] ∧
          (Violation.ofFailure f).field = none) := by
  refine ⟨by rw [Validator.violations, report]; rfl, fun f hf => ?_⟩
  obtain ⟨x, part, -⟩ := Compiled.located_failures formed report f hf
  refine ⟨⟨x, part⟩, ?_, fun unplaced => ?_⟩
  · exact Failure.field_eq_about_iff_legible fun i hi => short.index_lt part hi
  · have whole : f.instancePath = [] := Compiled.rooted_failures report f hf unplaced
    have present (key : String) : f.objection.cause ≠ .missing key := by
      intro missing
      rw [missing] at unplaced
      cases unplaced
    refine ⟨whole, ?_⟩
    rw [Failure.field_of_present present, whole]
    rfl

/-- Texts in the elements of an array. -/
def Slice.tagged : Slice Schema := .array "tags" (.text "a/b")

/-- The last key is told across the position before it and in spite of its slash. -/
theorem field_eq_about_tagged :
    ∃ fs, (Compiled.mk (Schema.ofSlice Slice.tagged).document .standard).failures
        (.object [("tags", .array [.object [("a/b", .int 1)]])]) = some fs ∧
      ∃ f ∈ fs, (Violation.ofFailure f).instancePath = "/tags/0/a~1b" ∧
        (Violation.ofFailure f).field = f.about ∧ f.about = some "a/b" := by
  let w : Validator := ⟨⟨(Schema.ofSlice Slice.tagged).document, .standard⟩⟩
  let v : Json := .object [("tags", .array [.object [("a/b", .int 1)]])]
  let f : Failure :=
    ⟨[.member "tags", .element 0, .member "a/b"],
      [.member "properties", .member "tags", .member "items", .member "properties", .member "a/b",
        .member "type"], ⟨.int 1, .wrongType [.string]⟩⟩
  have formed : v.WellFormed :=
    ⟨by decide, ⟨⟨by decide, trivial, trivial⟩, trivial⟩, trivial⟩
  have short : v.Addressable := ⟨⟨by decide, ⟨trivial, trivial⟩, trivial⟩, trivial⟩
  have report : w.compiled.failures v = some [f] :=
    Compiled.failures_of_within (n := 0) (by decide +kernel)
  have telling : ∀ key, lastKey? f.instancePath = some key → Telling key := by
    intro key last
    cases last
    decide
  have place : (Violation.ofFailure f).instancePath = "/tags/0/a~1b" := by decide
  have field := ((field_eq_about_iff w formed short report).2 f List.mem_cons_self).2.1
  exact ⟨_, report, f, List.mem_cons_self, place, field.mpr (.inr telling), rfl⟩

/-- A key of digits is passed over, for a key further out or for none, and an empty key ends the
search before it has begun. -/
theorem field_ne_about :
    (∃ w, Validator.ofSlice (.text "7") .standard = .ok w ∧
      ∃ f, w.compiled.failures (.object [("7", .int 1)]) = some [f] ∧
        f.about = some "7" ∧ (Violation.ofFailure f).field = none) ∧
    (∃ w, Validator.ofSlice (.object "a" (.singleton (.text "7"))) .standard = .ok w ∧
      ∃ f, w.compiled.failures (.object [("a", .object [("7", .int 1)])]) = some [f] ∧
        f.about = some "7" ∧ (Violation.ofFailure f).field = some "a") ∧
    ∃ w, Validator.ofSlice (.text "") .standard = .ok w ∧
      ∃ f, w.compiled.failures (.object [("", .int 1)]) = some [f] ∧
        f.about = some "" ∧ (Violation.ofFailure f).field = none := by
  let asked (keys schemaPath : List String) : Failure :=
    ⟨keys.map .member, (schemaPath ++ ["type"]).map .member, ⟨.int 1, .wrongType [.string]⟩⟩
  refine ⟨⟨⟨⟨(Schema.ofSlice (.text "7")).document, .standard⟩⟩, by decide +kernel,
      asked ["7"] ["properties", "7"], ?_, rfl, by decide⟩,
    ⟨⟨⟨(Schema.ofSlice (.object "a" (.singleton (.text "7")))).document, .standard⟩⟩,
      by decide +kernel, asked ["a", "7"] ["properties", "a", "properties", "7"], ?_, rfl,
      by decide⟩,
    ⟨⟨⟨(Schema.ofSlice (.text "")).document, .standard⟩⟩, by decide +kernel,
      asked [""] ["properties", ""], ?_, rfl, by decide⟩⟩ <;>
  exact Compiled.failures_of_within (n := 0) (by decide +kernel)

end SliceContract
