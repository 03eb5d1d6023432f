import SliceContract.Proofs.Answers
import SliceContract.Proofs.Slice.Places

/-!
# Slices under every draft

The combinators write only what all drafts have and take alike, so a slice is refused for nothing
but its data schemas, and schemas that the combinators make are refused under no draft. If none of
them asks for whole numbers, all drafts judge by them alike. The main statements are
`ofSlice_compiles_iff` and `ofSlice_judged_alike`.
-/

namespace SliceContract

open JsonSchema Metaschema

namespace Schema

/-- Schemas made from given ones by the combinators. -/
inductive Built (given : List Schema) : Schema → Prop where
  | given {s : Schema} (h : s ∈ given) : Built given s
  | object {fields : List (String × Schema)} (h : ∀ f ∈ fields, Built given f.2) :
    Built given (object fields)
  | array {element : Schema} (h : Built given element) : Built given (array element)
  | allOf {schemas : NonEmpty Schema} (h : ∀ s ∈ schemas.toList, Built given s) :
    Built given (allOf schemas)

theorem Built.mono {given given' : List Schema} (more : given ⊆ given') {s : Schema}
    (h : s.Built given) : s.Built given' := by
  induction h with
  | given h => exact .given (more h)
  | object _ ih => exact .object ih
  | array _ ih => exact .array ih
  | allOf _ ih => exact .allOf ih

/-- A slice is lowered by the combinators, to strings and its data schemas. -/
theorem built_ofSlice {given : List Schema} (text : string ∈ given) {slice : Slice Schema}
    (h : ∀ s ∈ slice.schemas, s.Built given) : (ofSlice slice).Built given := by
  apply ofSlice_closed (.given text)
  · intro key s hs
    exact .object (List.forall_mem_singleton.mpr hs)
  · exact fun s _ => .array
  · exact fun ss => .allOf
  · exact h

/-! ## Compiling -/

/-- Whether no draft has a reason to refuse a schema, wherever it stands. -/
structure Undisputed (s : Schema) : Prop where
  isObject : s.document.isObject
  anonymous : s.document.Anonymous
  unopposed : ∀ draft, objection? draft s.document = none
  undemanding : ∀ c, (s.readIn c).demands = []

/-- A type is undisputed, whatever draft it is read under. -/
theorem undisputed_ofType (t : TypeName) : (ofType t.name).Undisputed where
  isObject := rfl
  anonymous := ⟨rfl, rfl, rfl⟩
  unopposed draft := objection_ofType draft t
  undemanding c := demands_ofType c t

theorem undisputed_any : any.Undisputed where
  isObject := rfl
  anonymous := ⟨rfl, rfl, rfl⟩
  unopposed draft := by cases draft <;> rfl
  undemanding c := by
    rw [readIn_any]
    rfl

theorem undisputed_never : never.Undisputed where
  isObject := rfl
  anonymous := ⟨rfl, rfl, rfl⟩
  unopposed draft := by cases draft <;> rfl
  undemanding c := by
    rw [readIn_never]
    rfl

theorem undisputed_leaves {s : Schema} (h : s ∈ leaves) : s.Undisputed :=
  leaves_cases undisputed_ofType undisputed_any undisputed_never h

/-- An object of undisputed schemas is undisputed; its required keys are listed once each. -/
theorem undisputed_object {fields : List (String × Schema)} (h : ∀ f ∈ fields, f.2.Undisputed) :
    (object fields).Undisputed := by
  have kept : ∀ e ∈ Entries.ofList fields, e.2.Undisputed := Entries.forall_mem_ofList h
  constructor
  · rfl
  · exact anonymous_object fields
  · intro draft
    rw [objection_fields, List.findSome?_eq_none_iff]
    exact fun e he => (kept e he).unopposed draft
  · intro c
    rw [demands_fields, List.flatMap_eq_nil_iff]
    exact fun e he => (kept e he).undemanding c

theorem Undisputed.array {s : Schema} (h : s.Undisputed) : (array s).Undisputed where
  isObject := rfl
  anonymous := ⟨rfl, rfl, rfl⟩
  unopposed draft := (objection_array draft h.isObject).mpr (h.unopposed draft)
  undemanding c := (demands_array c h.isObject).trans (h.undemanding c)

theorem undisputed_allOf {ss : NonEmpty Schema} (h : ∀ s ∈ ss.toList, s.Undisputed) :
    (allOf ss).Undisputed := by
  constructor
  · rfl
  · exact ⟨rfl, rfl, rfl⟩
  · intro draft
    rw [objection_allOf]
    exact fun s hs => (h s hs).unopposed draft
  · intro c
    rw [demands_allOf, List.flatMap_eq_nil_iff]
    exact fun s hs => (h s hs).undemanding c

/-- Whatever is built from the leaf builders is undisputed. -/
theorem Built.undisputed {s : Schema} (h : s.Built leaves) : s.Undisputed := by
  induction h with
  | given h => exact undisputed_leaves h
  | object _ ih => exact undisputed_object ih
  | array _ ih => exact ih.array
  | allOf _ ih => exact undisputed_allOf ih

/-- A schema that no draft disputes is portable under all options. -/
theorem Undisputed.portable {s : Schema} (h : s.Undisputed) (o : Options) : s.Portable o := by
  refine portable_of_anonymous h.anonymous fun r hr => ?_
  rw [RefersTo, h.undemanding] at hr
  cases hr

/-- A schema that no draft disputes compiles under all options. -/
theorem Undisputed.compiles {s : Schema} (h : s.Undisputed) (o : Options) :
    ∃ w, Validator.ofSchema s o = .ok w :=
  (Validator.ofSchema_iff (h.portable o)).mpr ⟨h.unopposed o.draft, h.undemanding (.plain o)⟩

end Schema

/-- A slice of portable schemas compiles exactly when each of them compiles by itself. It compiles
under all options if the data schemas are made by the combinators, whatever its keys and its
nesting. -/
theorem ofSlice_compiles_iff (slice : Slice Schema) (o : Options) :
    ((∀ s ∈ slice.schemas, s.Portable o) →
      ((∃ w, Validator.ofSlice slice o = .ok w) ↔
        ∀ s ∈ slice.schemas, ∃ w, Validator.ofSchema s o = .ok w)) ∧
    ((∀ s ∈ slice.schemas, s.Built Schema.leaves) → ∃ w, Validator.ofSlice slice o = .ok w) := by
  constructor
  · exact Validator.ofSlice_iff
  · intro built
    have text : Schema.string ∈ Schema.leaves := List.mem_cons_self
    exact (Schema.built_ofSlice text built).undisputed.compiles o

/-- A field, two levels down, whose schema has an empty list of required keys. -/
def Slice.requiringNothing : Slice Schema :=
  .array "type" (.object "" ⟨.text "$ref",
    [.textWith "items" ⟨("items", ⟨.object [("required", .array [])]⟩), []⟩]⟩)

/-- Draft 4 alone has no empty lists of required keys, and refuses the slice for that. -/
theorem ofSlice_compiles_iff_requiringNothing :
    (¬ ∃ w, Validator.ofSlice Slice.requiringNothing ⟨.draft4, true⟩ = .ok w) ∧
    (∃ w, Validator.ofSlice Slice.requiringNothing ⟨.draft6, true⟩ = .ok w) ∧
    ∃ w, Validator.ofSlice Slice.keywordKeys ⟨.draft4, true⟩ = .ok w := by
  let s : Schema := ⟨.object [("required", .array [])]⟩
  have schemas : Slice.requiringNothing.schemas = [s] := rfl
  have portable (o : Options) : ∀ s ∈ Slice.requiringNothing.schemas, s.Portable o := by
    rw [schemas, List.forall_mem_singleton]
    exact Schema.portable_of_keys rfl (by decide)
  refine ⟨?_, ?_, ?_⟩
  · rw [(ofSlice_compiles_iff _ _).1 (portable _), schemas, List.forall_mem_singleton,
      Validator.exists_ofSchema_iff]
    decide +kernel
  · rw [(ofSlice_compiles_iff _ _).1 (portable _), schemas, List.forall_mem_singleton,
      Validator.exists_ofSchema_iff]
    decide +kernel
  · have leaf : ∀ s ∈ Slice.keywordKeys.schemas, s ∈ Schema.leaves := by decide
    exact (ofSlice_compiles_iff _ _).2 fun s hs => .given (leaf s hs)

/-- A schema that follows a part of its own, named by the place that it has in the schema. -/
def Schema.selfContained : Schema :=
  ⟨.object [("$dynamicRef", .string "#/x"), ("x", .object [("type", .string "string")])]⟩

/-- Alone, the schema compiles. At a key the place that it names is one in the document of the
slice, where nothing stands. -/
theorem not_ofSlice_compiles_selfContained :
    "$ref" ∉ Schema.selfContained.document.keys ∧
      (∃ w, Validator.ofSchema .selfContained .standard = .ok w) ∧
      Validator.ofSlice (.data "k" .selfContained) .standard =
        .error (.reference (.danglingPointer "/x")) := by
  refine ⟨by decide, ⟨⟨⟨Schema.selfContained.document, .standard⟩⟩, ?_⟩, ?_⟩
  · decide +kernel
  · decide +kernel

/-! ## Judging -/

namespace Schema

/-- The leaves that all drafts take alike. Of `integer` they do not: in draft 4 no double is a
whole number. -/
def commonLeaves : List Schema := [string, number, boolean, null, any, never]

/-- All leaf builders but `integer` are common to the drafts. -/
theorem commonLeaves_subset : commonLeaves ⊆ leaves := by decide

/-- Whether a schema objects to the same under all options. -/
def Uniform (s : Schema) : Prop :=
  ∀ o o' (refs : Reference → Judge Id) v,
    (s.readIn (.plain o)).flaws refs v = (s.readIn (.plain o')).flaws refs v

/-- All types but `integer` mean the same in all drafts. -/
theorem uniform_ofType {t : TypeName} (ht : t ≠ .integer) : (ofType t.name).Uniform := by
  intro o o' refs v
  have accepts (strict strict' : Bool) : t.accepts strict v = t.accepts strict' v := by
    cases t with
    | integer => exact absurd rfl ht
    | _ => cases v <;> rfl
  rw [readIn_ofType, readIn_ofType, flaws_typed, flaws_typed]
  exact congrArg (fun ok => if ok = true then [] else _) (accepts _ _)

-- Of `integer` this does not hold: draft 4 refuses the double `1.0`, later drafts accept it.
example : (integer.readIn (.plain ⟨.draft4, false⟩)).passes (fun _ => .always)
      (.number (.float ⟨false, 2 ^ 52, -52⟩)) = false ∧
    (integer.readIn (.plain ⟨.draft6, false⟩)).passes (fun _ => .always)
      (.number (.float ⟨false, 2 ^ 52, -52⟩)) = true := by
  decide +kernel

theorem uniform_any : any.Uniform := by
  intro o o' refs v
  rw [readIn_any, readIn_any]

theorem uniform_never : never.Uniform := by
  intro o o' refs v
  rw [readIn_never, readIn_never]

theorem uniform_commonLeaves {s : Schema} (h : s ∈ commonLeaves) : s.Uniform := by
  simp only [commonLeaves, List.mem_cons, List.not_mem_nil, or_false] at h
  rcases h with rfl | rfl | rfl | rfl | rfl | rfl
  · exact uniform_ofType (t := .string) nofun
  · exact uniform_ofType (t := .number) nofun
  · exact uniform_ofType (t := .boolean) nofun
  · exact uniform_ofType (t := .null) nofun
  · exact uniform_any
  · exact uniform_never

theorem uniform_object {fields : List (String × Schema)} (h : ∀ f ∈ fields, f.2.Uniform) :
    (object fields).Uniform := by
  have kept : ∀ e ∈ Entries.ofList fields, e.2.Uniform := Entries.forall_mem_ofList h
  intro o o' refs v
  rw [flaws_fields, flaws_fields]
  cases v with
  | object ms =>
      refine congrArg (· ++ _) ?_
      apply List.flatMap_congr
      intro e he
      apply List.flatMap_congr
      intro x _
      exact congrArg _ (kept e he o o' refs x)
  | _ => rfl

/-- The elements of an array are judged alike in all drafts, although `items` changed its form. -/
theorem Uniform.array {s : Schema} (hs : s.document.isObject) (h : s.Uniform) :
    (array s).Uniform := by
  intro o o' refs v
  rw [flaws_array _ refs hs, flaws_array _ refs hs]
  cases v with
  | array xs =>
      apply List.flatMap_congr
      intro e _
      exact congrArg _ (h o o' refs e.1)
  | _ => rfl

theorem uniform_allOf {ss : NonEmpty Schema} (h : ∀ s ∈ ss.toList, s.Uniform) :
    (allOf ss).Uniform := by
  intro o o' refs v
  rw [flaws_allOf, flaws_allOf]
  apply List.flatMap_congr
  intro e he
  exact congrArg _ (h e.1 (List.fst_mem_of_mem_zipIdx he) o o' refs v)

/-- Whatever is built without `integer` means the same in all drafts. -/
theorem Built.uniform {s : Schema} (h : s.Built commonLeaves) : s.Uniform := by
  induction h with
  | given h => exact uniform_commonLeaves h
  | object _ ih => exact uniform_object ih
  | array built ih => exact ih.array (built.mono commonLeaves_subset).undisputed.isObject
  | allOf _ ih => exact uniform_allOf ih

/-- The report does not depend on the options. -/
theorem Built.violations_eq {s : Schema} (h : s.Built commonLeaves) {o o' : Options}
    {w w' : Validator} (hw : Validator.ofSchema s o = .ok w)
    (hw' : Validator.ofSchema s o' = .ok w') (v : Json) :
    ∃ vs, w.violations v = some vs ∧ w'.violations v = some vs := by
  let refs : Reference → Judge Id := fun _ => .always
  have undisputed := (h.mono commonLeaves_subset).undisputed
  refine ⟨(s.found (.plain o) refs v).map .ofFailure, ?_, ?_⟩
  · rw [Validator.violations, Validator.failures_of_portable (undisputed.portable o) hw refs]
    rfl
  · rw [Validator.violations, Validator.failures_of_portable (undisputed.portable o') hw' refs,
      found, found, h.uniform o o' refs v]
    rfl

end Schema

/-- All drafts compile a slice whose data schemas are made by the combinators from leaves other
than `integer`, and all give the same answers to every document, with formats enforced or not. -/
theorem ofSlice_judged_alike {slice : Slice Schema}
    (built : ∀ s ∈ slice.schemas, s.Built Schema.commonLeaves) (o o' : Options) :
    ∃ w w', Validator.ofSlice slice o = .ok w ∧ Validator.ofSlice slice o' = .ok w' ∧
      ∀ v, (∃ valid, w.isValid v = some valid ∧ w'.isValid v = some valid) ∧
        ∃ answer, w.validate v = some answer ∧ w'.validate v = some answer := by
  have text : Schema.string ∈ Schema.commonLeaves := List.mem_cons_self
  have lowered := Schema.built_ofSlice text built
  have undisputed := (lowered.mono Schema.commonLeaves_subset).undisputed
  obtain ⟨w, h⟩ := undisputed.compiles o
  obtain ⟨w', h'⟩ := undisputed.compiles o'
  refine ⟨w, w', h, h', fun v => ?_⟩
  obtain ⟨vs, report, report'⟩ := lowered.violations_eq h h' v
  refine ⟨⟨vs.isEmpty, Validator.isValid_of_violations report,
    Validator.isValid_of_violations report'⟩, ?_⟩
  rw [Validator.validate, Validator.validate, report, report']
  exact ⟨_, rfl, rfl⟩

/-- Data schemas that list a key twice, list none, and accept nothing. -/
def Slice.remade : Slice Schema :=
  .object "k" ⟨.data "a" (.object [("x", .string), ("y", .array .any), ("x", .number)]),
    [.textWith "b" ⟨("b", .allOf ⟨.any, [.string]⟩), [("c", .object [])]⟩,
      .array "l" (.data "d" .never)]⟩

/-- A document with everything that the slice asks for, and a value at `/k/a/x`. -/
def Slice.remadeDocument (x : Json) : Json :=
  .object [("k", .object [("a", .object [("x", x), ("y", .array [])]), ("b", .string ""),
    ("c", .emptyObject), ("l", .array [])])]

/-- What the latest draft decides, draft 4 decides too. -/
theorem ofSlice_judged_alike_remade :
    ∃ w, Validator.ofSlice Slice.remade ⟨.draft4, true⟩ = .ok w ∧
      w.isValid (Slice.remadeDocument (.int 1)) = some true ∧
      w.validate (Slice.remadeDocument (.string "1")) = some (.error (.violations
        [⟨"/k/a/x", "/properties/k/allOf/0/properties/a/properties/x/type", some "x",
          "\"1\" is not of type \"number\""⟩])) := by
  have schemas : Slice.remade.schemas =
      [.object [("x", .string), ("y", .array .any), ("x", .number)], .allOf ⟨.any, [.string]⟩,
        .object [], .never] := rfl
  have built : ∀ s ∈ Slice.remade.schemas, s.Built Schema.commonLeaves := by
    rw [schemas]
    simp only [List.forall_mem_cons]
    refine ⟨.object ?_, .allOf ?_, .object (List.forall_mem_nil _), .given (by decide),
      List.forall_mem_nil _⟩
    · simp only [List.forall_mem_cons]
      exact ⟨.given (by decide), .array (.given (by decide)), .given (by decide),
        List.forall_mem_nil _⟩
    · simp only [NonEmpty.toList_mk, List.forall_mem_cons]
      exact ⟨.given (by decide), .given (by decide), List.forall_mem_nil _⟩
  obtain ⟨w, w', h, h', same⟩ := ofSlice_judged_alike built ⟨.draft4, true⟩ .standard
  have hw' := Validator.eq_of_ofSchema h'
  subst hw'
  refine ⟨w, h, ?_, ?_⟩
  · obtain ⟨valid, here, there⟩ := (same (Slice.remadeDocument (.int 1))).1
    rw [here, ← there]
    decide +kernel
  · obtain ⟨answer, here, there⟩ := (same (Slice.remadeDocument (.string "1"))).2
    have report : (Validator.mk ⟨(Schema.ofSlice Slice.remade).document, .standard⟩).violations
        (Slice.remadeDocument (.string "1")) =
        some [⟨"/k/a/x", "/properties/k/allOf/0/properties/a/properties/x/type", some "x",
          "\"1\" is not of type \"number\""⟩] := by
      decide +kernel
    rw [here, ← there, Validator.validate_of_violations report]

end SliceContract
