import SliceContract.Proofs.Slice.Compiling

/-!
# The meaning of a slice

Which values a slice stands for, by recursion on the slice alone. The main statement is
`isValid_ofSlice`: the validator that a slice is compiled to accepts just these values, as long as
its schemas mean the same wherever they stand.
-/

namespace SliceContract

open JsonSchema

variable {S : Type}

/-- Whether a value is an object with a fitting member at the field's key; `fits` says which values
fit a schema. -/
def Field.admits (fits : S → Json → Bool) : Field S → Json → Bool
  | .text key, v =>
    match v.get? key with
    | some (.string _) => true
    | _ => false
  | .data key s, v =>
    match v.get? key with
    | some x => fits s x
    | none => false

namespace Slice

/-- Whether a value fits a slice. A multi slice asks the value itself for all its fields, every
other slice asks it for a member. -/
def admits (fits : S → Json → Bool) : Slice S → Json → Bool
  | leaf field, v => field.admits fits v
  | multi main others, v => (main :: auxiliary others).all fun field => field.admits fits v
  | array key child, v =>
    match v.get? key with
    | some (.array xs) => xs.all fun x => admits fits child x
    | _ => false
  | object key ⟨first, rest⟩, v =>
    match v.get? key with
    | some x => admits fits first x && all fits rest x
    | none => false
where
  all (fits : S → Json → Bool) : List (Slice S) → Json → Bool
    | [], _ => true
    | child :: rest, x => admits fits child x && all fits rest x

theorem admits_multi (fits : S → Json → Bool) (main : Field S) (others : NonEmpty (String × S))
    (v : Json) :
    (multi main others).admits fits v =
      (main :: auxiliary others).all fun field => field.admits fits v := rfl

theorem admits_array (fits : S → Json → Bool) (key : String) (child : Slice S) (v : Json) :
    (array key child).admits fits v =
      match v.get? key with
      | some (.array xs) => xs.all fun x => child.admits fits x
      | _ => false := rfl

theorem admits_object (fits : S → Json → Bool) (key : String) (children : NonEmpty (Slice S))
    (v : Json) :
    (object key children).admits fits v =
      (v.get? key).any fun x => children.toList.all fun child => child.admits fits x := by
  have all (slices : List (Slice S)) (x : Json) :
      admits.all fits slices x = slices.all fun child => child.admits fits x := by
    induction slices with
    | nil => rfl
    | cons slice rest ih => rw [admits.all, ih, List.all_cons]
  rw [admits.eq_def]
  cases hx : v.get? key with
  | none => simp [hx]
  | some x => simp [hx, all, NonEmpty.toList]

end Slice

/-- Whether a schema compiles by itself and then accepts the value. -/
def Schema.admits (o : Options) (s : Schema) (v : Json) : Bool :=
  match Validator.ofSchema s o with
  | .ok w => w.isValid v == some true
  | .error _ => false

namespace Schema

variable (c : Context) (refs : Reference → Judge Id)

theorem passes_merge {α : Type} (f : α → Schema) {xs : List α} (hxs : xs ≠ []) (v : Json) :
    ((merge (xs.map f)).readIn c).passes refs v =
      xs.all fun x => ((f x).readIn c).passes refs v := by
  match xs, hxs with
  | [x], _ => simp [merge_single]
  | x :: x' :: rest, _ =>
      rw [List.map_cons, List.map_cons, merge_several, passes_allOf, NonEmpty.toList_mk,
        ← List.map_cons, ← List.map_cons, List.all_map]
      rfl

theorem passes_ofField (field : Field Schema) (v : Json) :
    ((ofField field).readIn c).passes refs v =
      field.admits (fun s x => (s.readIn c).passes refs x) v := by
  cases field with
  | text key =>
      rw [ofField_text, passes_object, Field.admits]
      cases v.get? key with
      | none => rfl
      | some x => rw [Option.any_some, passes_string]; cases x <;> rfl
  | data key s =>
      rw [ofField_data, passes_object, Field.admits]
      cases v.get? key <;> rfl

/-- The document of a slice accepts what the slice admits. The induction is on the slice. -/
theorem passes_ofSlice (slice : Slice Schema) (v : Json) :
    ((ofSlice slice).readIn c).passes refs v =
      slice.admits (fun s x => (s.readIn c).passes refs x) v := by
  induction slice generalizing v with
  | leaf field => exact passes_ofField c refs field v
  | multi main others =>
      rw [ofSlice_multi, passes_merge c refs ofField (List.cons_ne_nil _ _), Slice.admits_multi]
      exact all_congr_mem fun field _ => passes_ofField c refs field v
  | array key child ih =>
      rw [ofSlice_array, passes_object, Slice.admits_array]
      cases v.get? key with
      | none => rfl
      | some x =>
          rw [Option.any_some, passes_array c refs (isObject_ofSlice child)]
          cases x with
          | array xs => exact all_congr_mem fun x _ => ih x
          | _ => rfl
  | object key children ih =>
      rw [ofSlice_object, passes_object, Slice.admits_object]
      refine congrArg (fun p => (v.get? key).any p) (funext fun x => ?_)
      rw [passes_merge c refs ofSlice children.toList_ne_nil]
      exact all_congr_mem fun child hc => ih child hc x

end Schema

theorem Field.admits_congr {fits fits' : S → Json → Bool} {field : Field S}
    (h : ∀ s ∈ field.schema?, fits s = fits' s) (v : Json) :
    field.admits fits v = field.admits fits' v := by
  cases field with
  | text key => rfl
  | data key s => rw [Field.admits, Field.admits, h s rfl]

/-- Only what fits the slice's own schemas matters. -/
theorem Slice.admits_congr {fits fits' : S → Json → Bool} {slice : Slice S}
    (h : ∀ s ∈ slice.schemas, fits s = fits' s) (v : Json) :
    slice.admits fits v = slice.admits fits' v := by
  induction slice generalizing v with
  | leaf field => exact Field.admits_congr (fun s hs => h s (Option.mem_toList.mpr hs)) v
  | multi main others =>
      rw [schemas_multi] at h
      rw [admits_multi, admits_multi]
      refine all_congr_mem fun field hf => Field.admits_congr (fun s hs => ?_) v
      exact h s (List.mem_flatMap.mpr ⟨field, hf, Option.mem_toList.mpr hs⟩)
  | array key child ih =>
      rw [admits_array, admits_array]
      simp only [ih h]
  | object key children ih =>
      rw [schemas_object] at h
      rw [admits_object, admits_object]
      refine congrArg (fun p => (v.get? key).any p) (funext fun x => ?_)
      exact all_congr_mem fun child hc =>
        ih child hc (fun s hs => h s (List.mem_flatMap.mpr ⟨child, hc, hs⟩)) x

/-! ## Validators -/

namespace Validator

variable {o : Options} {w : Validator}

/-- A portable schema that compiles has a verdict on every value, whatever references would mean. -/
theorem isValid_of_portable {s : Schema} (portable : s.Portable o) (h : ofSchema s o = .ok w)
    (refs : Reference → Judge Id) (v : Json) :
    w.isValid v = some ((s.readIn (.plain o)).passes refs v) := by
  rw [← portable.read_eq, eq_of_ofSchema h]
  exact portable.referenceFree.judge_eq_some _ refs .verdict v

/-- By itself a portable schema accepts what it accepts inside any document. -/
theorem admits_eq_passes {s : Schema} (portable : s.Portable o) (h : ofSchema s o = .ok w)
    (refs : Reference → Judge Id) : s.admits o = (s.readIn (.plain o)).passes refs := by
  funext v
  rw [Schema.admits, h]
  dsimp only
  rw [isValid_of_portable portable h refs]
  cases (s.readIn (.plain o)).passes refs v <;> rfl

/-- A compiled slice decides what its definition by recursion admits, if its data schemas are
portable. -/
theorem isValid_eq_admits {slice : Slice Schema} (portable : ∀ s ∈ slice.schemas, s.Portable o)
    (h : ofSlice slice o = .ok w) (v : Json) :
    w.isValid v = some (slice.admits (Schema.admits o) v) := by
  let refs : Reference → Judge Id := fun _ => .always
  rw [isValid_of_portable (Schema.portable_ofSlice portable) h refs, Schema.passes_ofSlice]
  refine congrArg some (Slice.admits_congr (fun s hs => ?_) v)
  obtain ⟨w', hw'⟩ := (ofSlice_iff portable).mp ⟨_, h⟩ s hs
  exact (admits_eq_passes (portable s hs) hw' refs).symm

end Validator

/-- The validator of a slice has a verdict on every value, and accepts the values that the slice
stands for, each data field judged by its schema alone. The schemas must be portable: one that
refers to something, or names a draft, may mean something else inside the document of the slice. -/
theorem isValid_ofSlice {slice : Slice Schema} {o : Options} {w : Validator}
    (portable : ∀ s ∈ slice.schemas, s.Portable o) (h : Validator.ofSlice slice o = .ok w) :
    (∀ s ∈ slice.schemas, ∃ w', Validator.ofSchema s o = .ok w') ∧
      ∀ v, w.isValid v = some (slice.admits (Schema.admits o) v) :=
  ⟨(Validator.ofSlice_iff portable).mp ⟨w, h⟩, Validator.isValid_eq_admits portable h⟩

/-- A slice all of whose keys are words of the schema language, one of them empty text. -/
def Slice.keywordKeys : Slice Schema :=
  .object "$ref" ⟨.textWith "type" ⟨("required", .any), []⟩, [.array "allOf" (.data "" .integer)]⟩

theorem Slice.portable_keywordKeys : ∀ s ∈ Slice.keywordKeys.schemas, s.Portable .standard := by
  have schemas : Slice.keywordKeys.schemas = [Schema.any, Schema.integer] := rfl
  rw [schemas]
  intro s hs
  rcases List.mem_pair.mp hs with rfl | rfl <;>
    exact Schema.portable_of_keys rfl (by decide)

theorem Slice.ofSlice_keywordKeys : Validator.ofSlice Slice.keywordKeys .standard =
    .ok ⟨⟨(Schema.ofSlice Slice.keywordKeys).document, .standard⟩⟩ := by
  decide +kernel

/-- Members under keys that read like keywords are judged like all others. -/
theorem isValid_keywordKeys :
    (Validator.mk ⟨(Schema.ofSlice Slice.keywordKeys).document, .standard⟩).isValid
      (.object [("$ref", .object [("allOf", .array [.object [("", .int 1)]]),
        ("required", .null), ("type", .string "text")])]) = some true := by
  rw [(isValid_ofSlice Slice.portable_keywordKeys Slice.ofSlice_keywordKeys).2]
  decide +kernel

/-- A schema whose member `n` must not follow the whole document. -/
def Schema.contrary : Schema :=
  ⟨.object [("properties", .object [("n",
    .object [("not", .object [("$dynamicRef", .string "#")])])])]⟩

/-- The schema that refers to its own document compiles by itself. -/
theorem Schema.ofSchema_contrary : Validator.ofSchema .contrary .standard =
    .ok ⟨⟨Schema.contrary.document, .standard⟩⟩ := by
  decide +kernel

/-- It compiles under a key as well, where its reference names the whole slice. -/
theorem Slice.ofSlice_contrary : Validator.ofSlice (.data "k" .contrary) .standard =
    .ok ⟨⟨(Schema.ofSlice (.data "k" .contrary)).document, .standard⟩⟩ := by
  decide +kernel

/-- Alone, the schema refuses an object in the member, since that follows the schema. At a key it is
the document of the slice that the object would have to follow, and does not. -/
theorem isValid_ne_admits_contrary :
    "$ref" ∉ Schema.contrary.document.keys ∧
      ∃ w, Validator.ofSlice (.data "k" .contrary) .standard = .ok w ∧
        w.isValid (.object [("k", .object [("n", .object [])])]) = some true ∧
        (Slice.data "k" Schema.contrary).admits (Schema.admits .standard)
          (.object [("k", .object [("n", .object [])])]) = false := by
  refine ⟨by decide, _, Slice.ofSlice_contrary,
    Compiled.accepts_of_within (n := 2) (by decide +kernel), ?_⟩
  have refused : (Validator.mk ⟨Schema.contrary.document, .standard⟩).isValid
      (.object [("n", .object [])]) = some false :=
    Compiled.accepts_of_within (n := 2) (by decide +kernel)
  have own : (Slice.data "k" Schema.contrary).admits (Schema.admits .standard)
      (.object [("k", .object [("n", .object [])])]) =
        Schema.contrary.admits .standard (.object [("n", .object [])]) := rfl
  rw [own, Schema.admits, Schema.ofSchema_contrary]
  dsimp only
  rw [refused]
  rfl

end SliceContract
