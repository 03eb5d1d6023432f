import SliceContract.Proofs.Answers
import SliceContract.Proofs.Slice.Report

/-!
# Multi slices as children

Inside an object a multi slice stands for its fields: the same values are accepted, and the same
violations are reported, when the fields are children in its place. Only where a keyword stands in
the schema is changed by this. The main statement is `violations_flat`.
-/

namespace SliceContract

open Violation

/-- The sequence followed by further elements. -/
def NonEmpty.extend {α : Type*} (xs : NonEmpty α) (more : List α) : NonEmpty α :=
  ⟨xs.head, xs.tail ++ more⟩

@[simp] theorem NonEmpty.toList_extend {α : Type*} (xs : NonEmpty α) (more : List α) :
    (xs.extend more).toList = xs.toList ++ more := rfl

theorem flatMap_zipIdx {α β : Type*} (xs : List α) (start : Nat) (f : α → List β) :
    ((xs.zipIdx start).flatMap fun e => f e.1) = xs.flatMap f := by
  conv_rhs => rw [← List.zipIdx_map_fst start xs, List.flatMap_map]

/-! ## What a violation says apart from the schema -/

namespace Violation

/-- A place, a field if there is one, and a message. -/
abbrev Content := String × Option String × String

/-- The parts of a violation that are not about the schema. -/
def content (v : Violation) : Content := (v.instancePath, v.field, v.message)

/-- The schema path has no part in the content of a violation. -/
theorem content_ofFailureAt (place s s' : String) (f : Failure) :
    (ofFailureAt place s f).content = (ofFailureAt place s' f).content := by
  rw [ofFailureAt, ofFailureAt]
  split <;> rfl

/-- What relates the contents of the violations for every member relates them for the key. -/
theorem content_keyed_rel {r : List Content → List Content → Prop} (refl : ∀ xs, r xs xs)
    {part part' : String → String → Json → List Violation}
    (h : ∀ place s s' x, r ((part place s x).map content) ((part' place s' x).map content))
    (place s s' key : String) (v : Json) :
    r ((keyed place s key part v).map content) ((keyed place s' key part' v).map content) := by
  cases v with
  | object ms =>
      rw [keyed, keyed]
      cases ms.lookup key with
      | none => exact refl _
      | some x => exact h _ _ _ x
  | _ => exact refl _

/-- The contents of the violations for a key are those of its member. -/
theorem content_keyed {part part' : String → String → Json → List Violation}
    (h : ∀ place s s' x, (part place s x).map content = (part' place s' x).map content)
    (place s s' key : String) (v : Json) :
    (keyed place s key part v).map content = (keyed place s' key part' v).map content :=
  content_keyed_rel (r := Eq) (fun _ => rfl) h place s s' key v

end Violation

section Contents

variable {S : Type} (own : S → Json → List Failure)

/-- What a field says about a value does not depend on where its schema stands. -/
theorem Field.content_report (field : Field S) (place s s' : String) (v : Json) :
    (field.report own place s v).map content = (field.report own place s' v).map content := by
  cases field with
  | text key =>
      rw [report, report]
      refine content_keyed (fun place s s' x => ?_) place s s' key v
      cases x <;> rfl
  | data key schema =>
      rw [report, report]
      refine content_keyed (fun place s s' x => ?_) place s s' key v
      rw [List.map_map, List.map_map]
      exact List.map_congr_left fun f _ => content_ofFailureAt place s s' f

namespace Slice

/-- Where the report on a slice starts in the schema does not matter for its contents. -/
theorem content_report (slice : Slice S) (place s s' : String) (v : Json) :
    (slice.report own place s v).map content = (slice.report own place s' v).map content := by
  induction slice generalizing place s s' v with
  | leaf field => exact field.content_report own place s s' v
  | multi main others =>
      rw [report_multi, report_multi, List.map_flatMap, List.map_flatMap]
      exact List.flatMap_congr fun e _ => e.1.content_report own place _ _ v
  | array key child ih =>
      rw [report_array, report_array]
      refine content_keyed (fun place s s' x => ?_) place s s' key v
      cases x with
      | array xs =>
          simp only [List.map_flatMap]
          exact List.flatMap_congr fun e _ => ih _ _ _ e.1
      | _ => rfl
  | object key children ih =>
      obtain ⟨first, rest⟩ := children
      cases rest with
      | nil =>
          rw [report_single, report_single]
          exact content_keyed (ih first List.mem_cons_self) place s s' key v
      | cons second rest =>
          rw [report_several, report_several]
          refine content_keyed (fun place s s' x => ?_) place s s' key v
          rw [List.map_flatMap, List.map_flatMap]
          exact List.flatMap_congr fun e he => ih e.1 (List.fst_mem_of_mem_zipIdx he) _ _ _ x

/-- Fields that stand side by side are reported on one after another. -/
theorem content_multi (main : Field S) (others : NonEmpty (String × S)) (place s s' : String)
    (v : Json) :
    ((multi main others).report own place s v).map content =
      (main :: auxiliary others).flatMap fun field =>
        (field.report own place s' v).map content := by
  rw [report_multi, List.map_flatMap, ← flatMap_zipIdx (main :: auxiliary others) 0]
  exact List.flatMap_congr fun e _ => e.1.content_report own place _ _ v

/-- Children are reported on one after another, whether there is one of them or more. -/
theorem content_object (key : String) (children : NonEmpty (Slice S)) (place s s' : String)
    (v : Json) :
    ((object key children).report own place s v).map content =
      (keyed place s' key (fun place s x =>
        children.toList.flatMap fun child => child.report own place s x) v).map content := by
  obtain ⟨first, rest⟩ := children
  cases rest with
  | nil =>
      rw [report_single]
      refine content_keyed (fun place s s' x => ?_) place s s' key v
      rw [NonEmpty.toList_mk, List.flatMap_singleton]
      exact first.content_report own place s s' x
  | cons second rest =>
      rw [report_several]
      refine content_keyed (fun place s s' x => ?_) place s s' key v
      rw [NonEmpty.toList_mk, List.map_flatMap, List.map_flatMap,
        ← flatMap_zipIdx (first :: second :: rest) 0]
      exact List.flatMap_congr fun e _ => e.1.content_report own place _ _ x

end Slice

end Contents

/-! ## Splicing -/

namespace Slice

variable {S : Type}

/-- What a child of an object is replaced by: a multi slice by its fields, any other by itself. -/
def spread : Slice S → NonEmpty (Slice S)
  | multi main others => ⟨leaf main, (auxiliary others).map leaf⟩
  | slice => .singleton slice

/-- The slice in which every multi slice that is a child of an object is replaced by its fields. -/
def flat : Slice S → Slice S
  | leaf field => leaf field
  | multi main others => multi main others
  | array key child => array key (flat child)
  | object key ⟨first, rest⟩ => object key ((spread (flat first)).extend (all rest))
where
  all : List (Slice S) → List (Slice S)
    | [] => []
    | child :: rest => (spread (flat child)).toList ++ all rest

/-- Flattening replaces the children of an object by what they spread to. -/
theorem flat_object (key : String) (children : NonEmpty (Slice S)) :
    ∃ spliced : NonEmpty (Slice S), (object key children).flat = object key spliced ∧
      spliced.toList = children.toList.flatMap fun child => (spread child.flat).toList := by
  have all (slices : List (Slice S)) :
      flat.all slices = slices.flatMap fun child => (spread child.flat).toList := by
    induction slices with
    | nil => rfl
    | cons slice rest ih => rw [flat.all, ih, List.flatMap_cons]
  refine ⟨_, rfl, ?_⟩
  rw [NonEmpty.toList_extend, all]
  rfl

/-- Spreading keeps the schemas and their order. -/
theorem schemas_spread (slice : Slice S) :
    (spread slice).toList.flatMap schemas = slice.schemas := by
  cases slice with
  | multi main others =>
      rw [schemas_multi, spread, NonEmpty.toList_mk, ← List.map_cons, List.flatMap_map]
      rfl
  | _ => exact List.flatMap_singleton _ _

/-- Splicing keeps the data fields and their order. -/
theorem schemas_flat (slice : Slice S) : slice.flat.schemas = slice.schemas := by
  induction slice with
  | leaf field => rfl
  | multi main others => rfl
  | array key child ih => exact ih
  | object key children ih =>
      obtain ⟨spliced, same, toList⟩ := flat_object key children
      rw [same, schemas_object, toList, schemas_object, List.flatMap_assoc]
      refine List.flatMap_congr fun child hc => ?_
      rw [schemas_spread, ih child hc]

variable (own : S → Json → List Failure)

/-- A slice says what the slices it spreads to say in turn. -/
theorem content_spread (slice : Slice S) (place s s' : String) (v : Json) :
    ((spread slice).toList.flatMap fun child => (child.report own place s v).map content) =
      (slice.report own place s' v).map content := by
  cases slice with
  | multi main others =>
      rw [content_multi own main others place s' s, spread, NonEmpty.toList_mk, ← List.map_cons,
        List.flatMap_map]
      rfl
  | _ =>
      rw [spread, NonEmpty.toList_singleton, List.flatMap_singleton]
      · exact content_report own _ place s s' v
      · nofun

/-- Splicing keeps the contents of the report. -/
theorem content_flat (slice : Slice S) (place s s' : String) (v : Json) :
    (slice.flat.report own place s v).map content = (slice.report own place s' v).map content := by
  induction slice generalizing place s s' v with
  | leaf field => exact content_report own (leaf field) place s s' v
  | multi main others => exact content_report own (multi main others) place s s' v
  | array key child ih =>
      rw [flat, report_array, report_array]
      refine content_keyed (fun place s s' x => ?_) place s s' key v
      cases x with
      | array xs =>
          simp only [List.map_flatMap]
          exact List.flatMap_congr fun e _ => ih _ _ _ e.1
      | _ => rfl
  | object key children ih =>
      obtain ⟨spliced, same, toList⟩ := flat_object key children
      rw [same, content_object own key spliced place s s,
        content_object own key children place s' s']
      refine content_keyed (fun place s s' x => ?_) place s s' key v
      rw [toList, List.map_flatMap, List.map_flatMap, List.flatMap_assoc]
      refine List.flatMap_congr fun child hc => ?_
      rw [content_spread own child.flat place s s]
      exact ih child hc place s s' x

end Slice

/-- A slice of portable schemas and the one in which its multi slices are spliced compile under the
same options; then they accept the same documents, and their violations differ in nothing but the
places in the schema. -/
theorem violations_flat {slice : Slice Schema} {o : Options} {w : Validator}
    (portable : ∀ s ∈ slice.schemas, s.Portable o) (h : Validator.ofSlice slice o = .ok w) :
    ∃ w', Validator.ofSlice slice.flat o = .ok w' ∧ ∀ v,
      w'.isValid v = w.isValid v ∧
        ∃ vs vs', w.violations v = some vs ∧ w'.violations v = some vs' ∧
          vs'.map content = vs.map content := by
  have portable' : ∀ s ∈ slice.flat.schemas, s.Portable o := by
    rwa [Slice.schemas_flat]
  have compiles : ∃ w', Validator.ofSlice slice.flat o = .ok w' := by
    rw [Validator.ofSlice_iff portable', Slice.schemas_flat]
    exact (Validator.ofSlice_iff portable).mp ⟨w, h⟩
  obtain ⟨w', h'⟩ := compiles
  refine ⟨w', h', fun v => ?_⟩
  have report := Validator.violations_eq_report portable h v
  have report' := Validator.violations_eq_report portable' h' v
  have contents := Slice.content_flat (Schema.failures o) slice "" "" "" v
  refine ⟨?_, _, _, report, report', contents⟩
  rw [Validator.isValid_of_violations report, Validator.isValid_of_violations report',
    ← List.isEmpty_map (f := content), contents, List.isEmpty_map]

/-- The fields of the multi slice take two branches in place of one, and report what they did. -/
theorem violations_flat_keywordKeys :
    ∃ w', Validator.ofSlice Slice.keywordKeys.flat .standard = .ok w' ∧
      (w'.violations (.object [("$ref", .object [("allOf", .array [.object []]),
          ("type", .null)])])).map (·.map content) =
        some [("/$ref/type", some "type", "null is not of type \"string\""),
          ("/$ref", some "required", "\"required\" is a required property"),
          ("/$ref/allOf/0", some "", "\"\" is a required property")] := by
  obtain ⟨w', h, same⟩ := violations_flat Slice.portable_keywordKeys Slice.ofSlice_keywordKeys
  refine ⟨w', h, ?_⟩
  obtain ⟨-, vs, vs', report, report', contents⟩ := same (.object [("$ref",
    .object [("allOf", .array [.object []]), ("type", .null)])])
  rw [report', Option.map_some, contents, ← Option.map_some (f := List.map content), ← report,
    Validator.violations_eq_report Slice.portable_keywordKeys Slice.ofSlice_keywordKeys]
  decide +kernel

/-- Refuses what the part of its document accepts that a pointer leads to. -/
def Schema.refusing (pointer : String) : Schema :=
  ⟨.object [("not", .object [("$dynamicRef", .string pointer)])]⟩

/-- A multi slice beside a text. The data in it must not look like the second branch of the member,
which is the text. -/
def Slice.lookingAside : Slice Schema :=
  .object "o" ⟨.textWith "a" ⟨("b", .refusing "#/properties/o/allOf/1"), []⟩, [.text "c"]⟩

/-- When the multi slice is spliced, the second branch is the data itself, and what looks like the
text is accepted. -/
theorem isValid_flat_ne_lookingAside :
    (∀ s ∈ Slice.lookingAside.schemas, "$ref" ∉ s.document.keys) ∧
      ∃ w w', Validator.ofSlice Slice.lookingAside .standard = .ok w ∧
        Validator.ofSlice Slice.lookingAside.flat .standard = .ok w' ∧
        w.isValid (.object [("o", .object [("a", .string "x"),
            ("b", .object [("c", .string "y")]), ("c", .string "z")])]) = some false ∧
          w'.isValid (.object [("o", .object [("a", .string "x"),
            ("b", .object [("c", .string "y")]), ("c", .string "z")])]) = some true := by
  have compiled : Validator.ofSlice Slice.lookingAside .standard =
      .ok ⟨⟨(Schema.ofSlice Slice.lookingAside).document, .standard⟩⟩ := by
    decide +kernel
  have compiled' : Validator.ofSlice Slice.lookingAside.flat .standard =
      .ok ⟨⟨(Schema.ofSlice Slice.lookingAside.flat).document, .standard⟩⟩ := by
    decide +kernel
  have schemas : Slice.lookingAside.schemas = [.refusing "#/properties/o/allOf/1"] := rfl
  refine ⟨?_, _, _, compiled, compiled', ?_, ?_⟩
  · rw [schemas]
    decide
  · exact Compiled.accepts_of_within (n := 2) (by decide +kernel)
  · exact Compiled.accepts_of_within (n := 2) (by decide +kernel)

end SliceContract
