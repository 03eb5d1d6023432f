import SliceContract.Proofs.Location
import SliceContract.Proofs.Slice.Meaning

/-!
# The report on a slice

Which violations a value has for a slice, in which order and at which places, by recursion on the
slice alone. The main statement is `validate_ofSlice`: the validator that a slice is compiled to
reports just these.
-/

namespace SliceContract

open JsonSchema

namespace Violation

/-- The value at a place is not of the type that the schema at its place asks for. -/
def mistyped (place schemaPlace : String) (t : TypeName) (v : Json) : Violation where
  instancePath := place
  schemaPath := schemaPlace ++ "/type"
  field := Pointer.innermostKey place.toList
  message := v.compact ++ " is not of type \"" ++ t.name ++ "\""

/-- The object at a place lacks a key. -/
def missing (place schemaPlace key : String) : Violation where
  instancePath := place
  schemaPath := schemaPlace ++ "/required"
  field := some key
  message := (Json.string key).compact ++ " is a required property"

/-- A violation as it is reported when the value stands at a place and the schema at another. If it
names no field, it is then about the innermost key of the longer path. -/
def under (place schemaPlace : String) (v : Violation) : Violation where
  instancePath := place ++ v.instancePath
  schemaPath := schemaPlace ++ v.schemaPath
  field := v.field <|> Pointer.innermostKey (place ++ v.instancePath).toList
  message := v.message

/-- The innermost key of a longer path is that of its end, if the end has one. -/
private theorem fieldOf_append (l l' : Location) (cause : Cause) :
    fieldOf (l ++ l') cause =
      (fieldOf l' cause <|> Pointer.innermostKey (Pointer.text (l ++ l'))) := by
  rw [fieldOf.eq_def, fieldOf.eq_def]
  split
  · rfl
  · cases hk : Pointer.innermostKey (Pointer.text l') with
    | none => rfl
    | some key => exact Pointer.innermostKey_append hk l

/-- A failure found by a schema of its own, as it is reported when the value stands at a place and
the schema at another. One that has no place at all has none there either. -/
def ofFailureAt (place schemaPlace : String) (f : Failure) : Violation :=
  if f.objection.cause.isUnplaced then ofFailure f else (ofFailure f).under place schemaPlace

/-- A failure that is moved becomes the violation at the longer paths. -/
theorem ofFailure_under (l l' : Location) (f : Failure) :
    ofFailure (f.under l l') = ofFailureAt (Pointer.render l) (Pointer.render l') f := by
  rw [ofFailureAt, Failure.under]
  split
  · rfl
  · simp only [ofFailure, under, Pointer.render_append, fieldOf_append, ← Pointer.toList_render]

private theorem message_wrongType (v : Json) (t : TypeName) :
    Cause.message v (.wrongType [t]) = v.compact ++ " is not of type \"" ++ t.name ++ "\"" := by
  have own : Cause.message v (.wrongType [t]) = v.compact ++ " " ++ Cause.typeText [t] := rfl
  have text : Cause.typeText [t] = "is not of type \"" ++ t.name ++ "\"" := by
    cases t <;> rfl
  have space : " " ++ "is not of type \"" = " is not of type \"" := by decide
  rw [own, text, ← space]
  simp only [String.append_assoc]

/-- A failed `type` becomes a violation at the value itself. -/
theorem ofFailure_wrongType (l l' : Location) (t : TypeName) (v : Json) :
    ofFailure ((Failure.own "type" v (.wrongType [t])).under l l') =
      mistyped (Pointer.render l) (Pointer.render l') t v := by
  rw [Failure.under_of_placed rfl, ofFailure, mistyped, Failure.own, Objection.message,
    message_wrongType, List.append_nil, Pointer.render_append, Pointer.toList_render]
  rfl

/-- A failed `required` becomes a violation about the missing key. -/
theorem ofFailure_missing (l l' : Location) (key : String) (v : Json) :
    ofFailure ((Failure.own "required" v (.missing key)).under l l') =
      missing (Pointer.render l) (Pointer.render l') key := by
  rw [Failure.under_of_placed rfl, ofFailure, missing, Failure.own, List.append_nil,
    Pointer.render_append]
  rfl

/-- Failures as they are reported when the value stands at a place and the schema at another. -/
def reported (l l' : Location) (fs : List Failure) : List Violation :=
  fs.map fun f => ofFailure (f.under l l')

theorem reported_eq (l l' : Location) (fs : List Failure) :
    reported l l' fs = fs.map (ofFailureAt (Pointer.render l) (Pointer.render l')) :=
  List.map_congr_left fun f _ => ofFailure_under l l' f

/-- Failures may be moved before or while they are reported. -/
theorem reported_under (l l' m m' : Location) (fs : List Failure) :
    reported l l' (fs.map (.under m m')) = reported (l ++ m) (l' ++ m') fs := by
  simp [reported]

theorem reported_flatMap {α : Type*} (l l' : Location) (xs : List α) (f : α → List Failure) :
    reported l l' (xs.flatMap f) = xs.flatMap fun x => reported l l' (f x) :=
  List.map_flatMap

/-- The violations of a value that must be an object with a member at a key: those of the member,
at its place, if it is there. -/
def keyed (place schemaPlace key : String)
    (part : String → String → Json → List Violation) : Json → List Violation
  | .object ms =>
    match ms.lookup key with
    | some x =>
      part (Pointer.member place key)
        (Pointer.member (Pointer.member schemaPlace "properties") key) x
    | none => [missing place schemaPlace key]
  | v => [mistyped place schemaPlace .object v]

end Violation

open Violation

variable {S : Type}

/-- The violations of a value for a field; `own` says what a schema finds by itself. -/
def Field.report (own : S → Json → List Failure) (place schemaPlace : String) :
    Field S → Json → List Violation
  | .text key, v => keyed place schemaPlace key (fun place schemaPlace x =>
      match x with
      | .string _ => []
      | _ => [mistyped place schemaPlace .string x]) v
  | .data key s, v => keyed place schemaPlace key (fun place schemaPlace x =>
      (own s x).map (ofFailureAt place schemaPlace)) v

namespace Slice

/-- The violations of a value for a slice, from the two places where its report starts. Several
children are branches with a number, a single one is none. -/
def report (own : S → Json → List Failure) (place schemaPlace : String) :
    Slice S → Json → List Violation
  | leaf field, v => field.report own place schemaPlace v
  | multi main others, v => (main :: auxiliary others).zipIdx.flatMap fun (field, i) =>
      field.report own place (Pointer.element (Pointer.member schemaPlace "allOf") i) v
  | array key child, v => keyed place schemaPlace key (fun place schemaPlace x =>
      match x with
      | .array xs => xs.zipIdx.flatMap fun (x, i) =>
          report own (Pointer.element place i) (Pointer.member schemaPlace "items") child x
      | _ => [mistyped place schemaPlace .array x]) v
  | object key ⟨first, rest⟩, v => keyed place schemaPlace key (fun place schemaPlace x =>
      match rest with
      | [] => report own place schemaPlace first x
      | _ :: _ =>
        report own place (Pointer.element (Pointer.member schemaPlace "allOf") 0) first x ++
          branches own place schemaPlace 1 rest x) v
where
  branches (own : S → Json → List Failure) (place schemaPlace : String) :
      Nat → List (Slice S) → Json → List Violation
    | _, [], _ => []
    | i, child :: rest, x =>
      report own place (Pointer.element (Pointer.member schemaPlace "allOf") i) child x ++
        branches own place schemaPlace (i + 1) rest x

variable (own : S → Json → List Failure) (place schemaPlace : String)

theorem report_multi (main : Field S) (others : NonEmpty (String × S)) (v : Json) :
    (multi main others).report own place schemaPlace v =
      (main :: auxiliary others).zipIdx.flatMap fun e =>
        e.1.report own place (Pointer.element (Pointer.member schemaPlace "allOf") e.2) v := rfl

theorem report_array (key : String) (child : Slice S) (v : Json) :
    (array key child).report own place schemaPlace v =
      keyed place schemaPlace key (fun place schemaPlace x =>
        match x with
        | .array xs => xs.zipIdx.flatMap fun e =>
            child.report own (Pointer.element place e.2) (Pointer.member schemaPlace "items") e.1
        | _ => [mistyped place schemaPlace .array x]) v := rfl

/-- A single child is not wrapped: it reports at the paths of the member. -/
theorem report_single (key : String) (child : Slice S) (v : Json) :
    (object key ⟨child, []⟩).report own place schemaPlace v =
      keyed place schemaPlace key (fun place schemaPlace x =>
        child.report own place schemaPlace x) v := rfl

/-- Several children report in turn, each in its branch of the `allOf`. -/
theorem report_several (key : String) (first second : Slice S) (rest : List (Slice S)) (v : Json) :
    (object key ⟨first, second :: rest⟩).report own place schemaPlace v =
      keyed place schemaPlace key (fun place schemaPlace x =>
        (first :: second :: rest).zipIdx.flatMap fun e =>
          e.1.report own place (Pointer.element (Pointer.member schemaPlace "allOf") e.2) x) v := by
  have branches (place schemaPlace : String) (i : Nat) (slices : List (Slice S)) (x : Json) :
      report.branches own place schemaPlace i slices x = (slices.zipIdx i).flatMap fun e =>
        e.1.report own place (Pointer.element (Pointer.member schemaPlace "allOf") e.2) x := by
    induction slices generalizing i with
    | nil => rfl
    | cons slice rest ih => rw [report.branches, ih, List.zipIdx_cons, List.flatMap_cons]
  simp only [← branches]
  rfl

theorem auxiliary_ne_nil (others : NonEmpty (String × S)) : auxiliary others ≠ [] := by
  rw [auxiliary, Ne, List.map_eq_nil_iff]
  exact others.toList_ne_nil

end Slice

namespace Schema

variable (c : Context) (refs : Reference → Judge Id)

/-- What a schema finds in a value when references mean what `refs` says. -/
def found (s : Schema) (v : Json) : List Failure := (s.readIn c).flaws refs v

/-- What an object with one member reports, if it is known what the member reports. -/
theorem reported_object (l l' : Location) (key : String) (s : Schema)
    {part : String → String → Json → List Violation}
    (h : ∀ x, reported (l ++ [.member key]) (l' ++ [.member "properties", .member key])
        ((s.readIn c).flaws refs x) =
      part (Pointer.render (l ++ [.member key]))
        (Pointer.render (l' ++ [.member "properties", .member key])) x) (v : Json) :
    reported l l' (((object [(key, s)]).readIn c).flaws refs v) =
      keyed (Pointer.render l) (Pointer.render l') key part v := by
  rw [flaws_object]
  cases v with
  | object ms =>
      rw [keyed]
      cases hx : ms.lookup key with
      | none =>
          simp only [hx]
          exact congrArg (fun x => [x]) (ofFailure_missing l l' key _)
      | some x =>
          simp only [hx]
          rw [reported_under, h, Pointer.render_append_member, Pointer.render_append_entry]
  | _ => exact congrArg (fun x => [x]) (ofFailure_wrongType l l' .object _)

theorem reported_ofField (l l' : Location) (field : Field Schema) (v : Json) :
    reported l l' (((ofField field).readIn c).flaws refs v) =
      field.report (found c refs) (Pointer.render l) (Pointer.render l') v := by
  cases field with
  | text key =>
      rw [ofField_text, Field.report]
      refine reported_object c refs l l' key string (fun x => ?_) v
      rw [flaws_string]
      cases x with
      | string _ => rfl
      | _ => exact congrArg (fun x => [x]) (ofFailure_wrongType _ _ .string _)
  | data key s =>
      rw [ofField_data, Field.report]
      exact reported_object c refs l l' key s (fun x => reported_eq _ _ _) v

/-- Several schemas are reported as the branches that they become. -/
theorem reported_several {α : Type} (l l' : Location) (f : α → Schema) (x x' : α) (rest : List α)
    (v : Json) :
    reported l l' (((merge ((x :: x' :: rest).map f)).readIn c).flaws refs v) =
      (x :: x' :: rest).zipIdx.flatMap fun e =>
        reported l (l' ++ [.member "allOf", .element e.2]) (((f e.1).readIn c).flaws refs v) := by
  rw [List.map_cons, List.map_cons, merge_several, flaws_allOf, NonEmpty.toList_mk,
    ← List.map_cons, ← List.map_cons, List.zipIdx_map, List.flatMap_map, reported_flatMap]
  simp only [reported_under, List.append_nil, Prod.map_fst, Prod.map_snd, id]

/-- What the document of a slice finds is the report of the slice, with data judged by `found`. The
induction is on the slice. -/
theorem reported_ofSlice (l l' : Location) (slice : Slice Schema) (v : Json) :
    reported l l' (((ofSlice slice).readIn c).flaws refs v) =
      slice.report (found c refs) (Pointer.render l) (Pointer.render l') v := by
  induction slice generalizing l l' v with
  | leaf field => exact reported_ofField c refs l l' field v
  | multi main others =>
      rw [ofSlice_multi, Slice.report_multi]
      cases h : Slice.auxiliary others with
      | nil => exact absurd h (Slice.auxiliary_ne_nil others)
      | cons second rest =>
          rw [reported_several]
          refine List.flatMap_congr fun e _ => ?_
          rw [reported_ofField, Pointer.render_append_branch]
  | array key child ih =>
      rw [ofSlice_array, Slice.report_array]
      refine reported_object c refs l l' key _ (fun x => ?_) v
      rw [flaws_array c refs (isObject_ofSlice child)]
      cases x with
      | array xs =>
          simp only [reported_flatMap, reported_under, ih, Pointer.render_append_element,
            Pointer.render_append_member]
      | _ => exact congrArg (fun x => [x]) (ofFailure_wrongType _ _ .array _)
  | object key children ih =>
      rw [ofSlice_object]
      obtain ⟨first, rest⟩ := children
      cases rest with
      | nil =>
          rw [Slice.report_single]
          refine reported_object c refs l l' key _ (fun x => ?_) v
          exact ih first List.mem_cons_self _ _ x
      | cons second rest =>
          rw [Slice.report_several]
          refine reported_object c refs l l' key _ (fun x => ?_) v
          rw [NonEmpty.toList_mk, reported_several]
          refine List.flatMap_congr fun e he => ?_
          rw [ih e.1 (List.fst_mem_of_mem_zipIdx he), Pointer.render_append_branch]

end Schema

theorem Field.report_congr {own own' : S → Json → List Failure} {field : Field S}
    (h : ∀ s ∈ field.schema?, own s = own' s) (place schemaPlace : String) (v : Json) :
    field.report own place schemaPlace v = field.report own' place schemaPlace v := by
  cases field with
  | text key => rfl
  | data key s => rw [Field.report, Field.report, h s rfl]

/-- Only what the slice's own schemas find matters. -/
theorem Slice.report_congr {own own' : S → Json → List Failure} {slice : Slice S}
    (h : ∀ s ∈ slice.schemas, own s = own' s) (place schemaPlace : String) (v : Json) :
    slice.report own place schemaPlace v = slice.report own' place schemaPlace v := by
  induction slice generalizing place schemaPlace v with
  | leaf field =>
      exact Field.report_congr (fun s hs => h s (Option.mem_toList.mpr hs)) place schemaPlace v
  | multi main others =>
      rw [schemas_multi] at h
      rw [report_multi, report_multi]
      refine List.flatMap_congr fun e he => Field.report_congr (fun s hs => h s ?_) _ _ _
      exact List.mem_flatMap.mpr ⟨e.1, List.fst_mem_of_mem_zipIdx he, Option.mem_toList.mpr hs⟩
  | array key child ih =>
      rw [report_array, report_array]
      simp only [ih h]
  | object key children ih =>
      rw [schemas_object] at h
      replace ih : ∀ child ∈ children.toList, ∀ place schemaPlace v,
          child.report own place schemaPlace v = child.report own' place schemaPlace v :=
        fun child hc => ih child hc fun s hs => h s (List.mem_flatMap.mpr ⟨child, hc, hs⟩)
      obtain ⟨first, rest⟩ := children
      cases rest with
      | nil =>
          rw [report_single, report_single]
          simp only [ih first List.mem_cons_self]
      | cons second rest =>
          rw [report_several, report_several]
          refine congrArg (fun part => keyed place schemaPlace key part v) ?_
          funext place schemaPlace x
          exact List.flatMap_congr fun e he => ih e.1 (List.fst_mem_of_mem_zipIdx he) _ _ x

/-! ## Validators -/

/-- What a schema that compiles by itself finds; nothing if it does not. -/
def Schema.failures (o : Options) (s : Schema) (v : Json) : List Failure :=
  match Validator.ofSchema s o with
  | .ok w => (w.compiled.failures v).getD []
  | .error _ => []

namespace Validator

variable {o : Options} {w : Validator}

/-- A portable schema that compiles has a report on every value, whatever references would mean. -/
theorem failures_of_portable {s : Schema} (portable : s.Portable o) (h : ofSchema s o = .ok w)
    (refs : Reference → Judge Id) (v : Json) :
    w.compiled.failures v = some (s.found (.plain o) refs v) := by
  rw [Schema.found, ← portable.read_eq, eq_of_ofSchema h]
  exact portable.referenceFree.judge_eq_some _ refs .report v

/-- By itself a portable schema finds what it finds inside any document. -/
theorem failures_eq_found {s : Schema} (portable : s.Portable o) (h : ofSchema s o = .ok w)
    (refs : Reference → Judge Id) : s.failures o = s.found (.plain o) refs := by
  funext v
  rw [Schema.failures, h]
  dsimp only
  rw [failures_of_portable portable h refs, Option.getD_some]

/-- The violations of a compiled slice are its report, if its data schemas are portable. -/
theorem violations_eq_report {slice : Slice Schema} (portable : ∀ s ∈ slice.schemas, s.Portable o)
    (h : ofSlice slice o = .ok w) (v : Json) :
    w.violations v = some (slice.report (Schema.failures o) "" "" v) := by
  let refs : Reference → Judge Id := fun _ => .always
  have whole : reported [] [] ((Schema.ofSlice slice).found (.plain o) refs v) =
      slice.report (Schema.found (.plain o) refs) "" "" v :=
    Schema.reported_ofSlice (.plain o) refs [] [] slice v
  simp only [reported, Failure.under_nil] at whole
  rw [violations, failures_of_portable (Schema.portable_ofSlice portable) h refs, Option.map_some,
    whole]
  refine congrArg some (Slice.report_congr (fun s hs => ?_) _ _ v)
  obtain ⟨w', hw'⟩ := (ofSlice_iff portable).mp ⟨_, h⟩ s hs
  exact (failures_eq_found (portable s hs) hw' refs).symm

end Validator

/-- The validator of a slice has a report on every value, of the violations that the slice stands
for, each data field's found by its schema alone. The schemas must be portable. -/
theorem validate_ofSlice {slice : Slice Schema} {o : Options} {w : Validator}
    (portable : ∀ s ∈ slice.schemas, s.Portable o) (h : Validator.ofSlice slice o = .ok w) :
    (∀ s ∈ slice.schemas, ∃ w', Validator.ofSchema s o = .ok w') ∧
      ∀ v, w.validate v =
        some (match slice.report (Schema.failures o) "" "" v with
          | [] => .ok ()
          | report => .error (.violations report)) := by
  refine ⟨(Validator.ofSlice_iff portable).mp ⟨w, h⟩, fun v => ?_⟩
  rw [Validator.validate, Validator.violations_eq_report portable h]
  rfl

/-- Keys that read like keywords, and a key that is empty, are keys like all others. -/
private theorem report_keywordKeys :
    Slice.keywordKeys.report (Schema.failures .standard) "" ""
        (.object [("$ref", .object [("allOf", .array [.object [], .object [("", .null)]]),
          ("type", .string "text")])]) =
      [⟨"/$ref", "/properties/$ref/allOf/0/allOf/1/required", some "required",
          "\"required\" is a required property"⟩,
        ⟨"/$ref/allOf/0", "/properties/$ref/allOf/1/properties/allOf/items/required", some "",
          "\"\" is a required property"⟩,
        ⟨"/$ref/allOf/1/", "/properties/$ref/allOf/1/properties/allOf/items/properties//type", none,
          "null is not of type \"integer\""⟩] := by
  decide +kernel

theorem validate_keywordKeys :
    (Validator.mk ⟨(Schema.ofSlice Slice.keywordKeys).document, .standard⟩).validate
        (.object [("$ref", .object [("allOf", .array [.object [], .object [("", .null)]]),
          ("type", .string "text")])]) =
      some (.error (.violations [
        ⟨"/$ref", "/properties/$ref/allOf/0/allOf/1/required", some "required",
          "\"required\" is a required property"⟩,
        ⟨"/$ref/allOf/0", "/properties/$ref/allOf/1/properties/allOf/items/required", some "",
          "\"\" is a required property"⟩,
        ⟨"/$ref/allOf/1/", "/properties/$ref/allOf/1/properties/allOf/items/properties//type", none,
          "null is not of type \"integer\""⟩])) := by
  rw [(validate_ofSlice Slice.portable_keywordKeys Slice.ofSlice_keywordKeys).2,
    report_keywordKeys]

/-- Alone, the schema reports an object in the member, since that follows the schema. At a key the
object would have to follow the document of the slice, and nothing is reported. -/
theorem validate_ne_report_contrary :
    "$ref" ∉ Schema.contrary.document.keys ∧
      ∃ w, Validator.ofSlice (.data "k" .contrary) .standard = .ok w ∧
        w.validate (.object [("k", .object [("n", .object [])])]) = some (.ok ()) ∧
        (Slice.data "k" Schema.contrary).report (Schema.failures .standard) "" ""
            (.object [("k", .object [("n", .object [])])]) =
          [⟨"/k/n", "/properties/k/properties/n/not", some "n",
            "\x7b\"$dynamicRef\":\"#\"\x7d is not allowed for \x7b\x7d"⟩] := by
  refine ⟨by decide, _, Slice.ofSlice_contrary, ?_, ?_⟩
  · have nothing : (Compiled.mk (Schema.ofSlice (.data "k" .contrary)).document
        .standard).failures (.object [("k", .object [("n", .object [])])]) = some [] :=
      Compiled.failures_of_within (n := 2) (by decide +kernel)
    rw [Validator.validate, Validator.violations, nothing]
    rfl
  · have found : (Compiled.mk Schema.contrary.document .standard).failures
        (.object [("n", .object [])]) =
          some [⟨[.member "n"], [.member "properties", .member "n", .member "not"],
            ⟨.object [], .forbidden (.object [("$dynamicRef", .string "#")])⟩⟩] :=
      Compiled.failures_of_within (n := 2) (by decide +kernel)
    have own : Schema.contrary.failures .standard (.object [("n", .object [])]) =
        [⟨[.member "n"], [.member "properties", .member "n", .member "not"],
          ⟨.object [], .forbidden (.object [("$dynamicRef", .string "#")])⟩⟩] := by
      rw [Schema.failures, Schema.ofSchema_contrary]
      exact congrArg (Option.getD · []) found
    have report : (Slice.data "k" Schema.contrary).report (Schema.failures .standard) "" ""
        (.object [("k", .object [("n", .object [])])]) =
      (Schema.contrary.failures .standard (.object [("n", .object [])])).map
        (ofFailureAt "/k" "/properties/k") := rfl
    rw [report, own]
    decide +kernel

end SliceContract
