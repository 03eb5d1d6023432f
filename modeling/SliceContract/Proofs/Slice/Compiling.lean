import SliceContract.Proofs.JsonSchema.Reach
import SliceContract.Proofs.Schema.Reading
import SliceContract.Proofs.Slice.Lowering
import SliceContract.Validator

/-!
# What a lowered slice depends on

The document of a slice demands what its data schemas demand, and a draft objects to it only
through them. So, as long as the data schemas mean the same wherever they stand, a slice compiles
exactly when each of them compiles by itself.
-/

namespace SliceContract

open JsonSchema Metaschema

/-- The schema of a data field; a text field has none. -/
def Field.schema? {S : Type} : Field S → Option S
  | .text _ => none
  | .data _ schema => some schema

namespace Slice

/-- The schemas of the data fields, in the order of the slice. -/
def schemas {S : Type} : Slice S → List S
  | leaf field => field.schema?.toList
  | multi main others => main.schema?.toList ++ others.toList.map (·.2)
  | array _ child => schemas child
  | object _ ⟨first, rest⟩ => schemas first ++ all rest
where
  all : List (Slice S) → List S
    | [] => []
    | child :: rest => schemas child ++ all rest

variable {S : Type}

/-- The schemas of an object slice are those of its children, in their order. -/
theorem schemas_object (key : String) (children : NonEmpty (Slice S)) :
    (object key children).schemas = children.toList.flatMap schemas := by
  have all (slices : List (Slice S)) : schemas.all slices = slices.flatMap schemas := by
    induction slices with
    | nil => rfl
    | cons slice rest ih => rw [schemas.all, ih, List.flatMap_cons]
  rw [NonEmpty.toList, List.flatMap_cons, ← all]
  rfl

theorem schemas_multi (main : Field S) (others : NonEmpty (String × S)) :
    (multi main others).schemas =
      (main :: auxiliary others).flatMap fun field => field.schema?.toList := by
  have fields (xs : List (String × S)) :
      (xs.map fun e => Field.data e.1 e.2).flatMap (fun field => field.schema?.toList) =
        xs.map (·.2) := by
    rw [List.flatMap_map]
    exact List.flatMap_pure_eq_map _ _
  rw [List.flatMap_cons, auxiliary, fields]
  rfl

end Slice

namespace Schema

/-- The schema of a single field. -/
def ofField : Field Schema → Schema := Slice.fieldValidator engine

@[simp] theorem ofField_text (key : String) : ofField (.text key) = object [(key, string)] := rfl

@[simp] theorem ofField_data (key : String) (s : Schema) :
    ofField (.data key s) = object [(key, s)] := rfl

@[simp] theorem ofSlice_leaf (field : Field Schema) : ofSlice (.leaf field) = ofField field := rfl

theorem ofSlice_multi (main : Field Schema) (others : NonEmpty (String × Schema)) :
    ofSlice (.multi main others) = merge ((main :: Slice.auxiliary others).map ofField) :=
  Slice.lower_multi engine main others

theorem ofSlice_array (key : String) (child : Slice Schema) :
    ofSlice (.array key child) = object [(key, array (ofSlice child))] := rfl

theorem ofSlice_object (key : String) (children : NonEmpty (Slice Schema)) :
    ofSlice (.object key children) = object [(key, merge (children.toList.map ofSlice))] :=
  Slice.lower_object engine key children

theorem merge_single (s : Schema) : merge [s] = s := rfl

theorem merge_several (s s' : Schema) (rest : List Schema) :
    merge (s :: s' :: rest) = allOf ⟨s, s' :: rest⟩ := rfl

/-- What a field becomes is a JSON object, never a bare boolean. -/
theorem isObject_ofField (field : Field Schema) : (ofField field).document.isObject := by
  cases field <;> rfl

/-- A slice is never lowered to a list or a boolean. -/
theorem isObject_ofSlice (slice : Slice Schema) : (ofSlice slice).document.isObject := by
  cases slice with
  | leaf field => exact isObject_ofField field
  | multi main others => rw [ofSlice_multi]; rfl
  | array key child => rfl
  | object key children => rw [ofSlice_object]; rfl

section Closure

variable {P : Schema → Prop}

/-- Merging keeps a property that `allOf` keeps; a single schema is not even touched. -/
theorem merge_closed (all : ∀ ss : NonEmpty Schema, (∀ s ∈ ss.toList, P s) → P (allOf ss))
    {α : Type} (f : α → Schema) {xs : List α} (hxs : xs ≠ []) (h : ∀ x ∈ xs, P (f x)) :
    P (merge (xs.map f)) := by
  match xs, hxs with
  | [x], _ => exact h x List.mem_cons_self
  | x :: x' :: rest, _ =>
      rw [List.map_cons, List.map_cons, merge_several]
      exact all _ (List.forall_mem_map.mpr h)

theorem ofField_closed (text : P string) (member : ∀ key s, P s → P (object [(key, s)]))
    {field : Field Schema} (h : ∀ s ∈ field.schema?, P s) : P (ofField field) := by
  cases field with
  | text key => exact member key string text
  | data key s => exact member key s (h s rfl)

/-- A property of strings that the combinators keep is had by a slice if its data schemas have
it. -/
theorem ofSlice_closed (text : P string) (member : ∀ key s, P s → P (object [(key, s)]))
    (elements : ∀ s : Schema, s.document.isObject → P s → P (array s))
    (all : ∀ ss : NonEmpty Schema, (∀ s ∈ ss.toList, P s) → P (allOf ss))
    {slice : Slice Schema} (h : ∀ s ∈ slice.schemas, P s) : P (ofSlice slice) := by
  induction slice with
  | leaf field => exact ofField_closed text member fun s hs => h s (Option.mem_toList.mpr hs)
  | multi main others =>
      rw [ofSlice_multi]
      rw [Slice.schemas_multi] at h
      apply merge_closed all ofField (List.cons_ne_nil _ _)
      intro field hf
      apply ofField_closed text member
      intro s hs
      exact h s (List.mem_flatMap.mpr ⟨field, hf, Option.mem_toList.mpr hs⟩)
  | array key child ih =>
      rw [ofSlice_array]
      exact member key _ (elements _ (isObject_ofSlice child) (ih h))
  | object key children ih =>
      rw [ofSlice_object]
      rw [Slice.schemas_object] at h
      apply member key
      apply merge_closed all ofSlice children.toList_ne_nil
      intro child hc
      exact ih child hc fun s hs => h s (List.mem_flatMap.mpr ⟨child, hc, hs⟩)

end Closure

section Demands

variable (c : Context)

theorem demands_merge {α : Type} (f : α → Schema) {xs : List α} (hxs : xs ≠ []) :
    ((merge (xs.map f)).readIn c).demands = xs.flatMap fun x => ((f x).readIn c).demands := by
  match xs, hxs with
  | [x], _ => rw [List.map_singleton, merge_single, List.flatMap_singleton]
  | x :: x' :: rest, _ =>
      rw [List.map_cons, List.map_cons, merge_several, demands_allOf, NonEmpty.toList_mk,
        ← List.map_cons, ← List.map_cons, List.flatMap_map]

theorem demands_ofField (field : Field Schema) :
    ((ofField field).readIn c).demands =
      field.schema?.toList.flatMap fun s => (s.readIn c).demands := by
  cases field with
  | text key => rw [ofField_text, demands_object, demands_string]; rfl
  | data key s =>
      rw [ofField_data, demands_object, Field.schema?, Option.toList_some, List.flatMap_singleton]

/-- The document of a slice depends on what its data schemas depend on, and on nothing else. -/
theorem demands_ofSlice (slice : Slice Schema) :
    ((ofSlice slice).readIn c).demands = slice.schemas.flatMap fun s => (s.readIn c).demands := by
  induction slice with
  | leaf field => exact demands_ofField c field
  | multi main others =>
      rw [ofSlice_multi, demands_merge c ofField (List.cons_ne_nil _ _), Slice.schemas_multi,
        List.flatMap_assoc]
      exact List.flatMap_congr fun field _ => demands_ofField c field
  | array key child ih =>
      rw [ofSlice_array, demands_object, demands_array c (isObject_ofSlice child), ih]
      rfl
  | object key children ih =>
      rw [ofSlice_object, demands_object, demands_merge c ofSlice children.toList_ne_nil,
        Slice.schemas_object, List.flatMap_assoc]
      exact List.flatMap_congr ih

end Demands

section Objections

variable (draft : Draft)

theorem objection_merge {α : Type} (f : α → Schema) {xs : List α} (hxs : xs ≠ []) :
    objection? draft (merge (xs.map f)).document = none ↔
      ∀ x ∈ xs, objection? draft (f x).document = none := by
  match xs, hxs with
  | [x], _ => rw [List.map_singleton, merge_single, List.forall_mem_singleton]
  | x :: x' :: rest, _ =>
      rw [List.map_cons, List.map_cons, merge_several, objection_allOf, NonEmpty.toList_mk,
        ← List.map_cons, ← List.map_cons, List.forall_mem_map]

theorem objection_ofField (field : Field Schema) :
    objection? draft (ofField field).document = none ↔
      ∀ s ∈ field.schema?, objection? draft s.document = none := by
  cases field with
  | text key =>
      rw [ofField_text, objection_object, objection_string]
      simp [Field.schema?]
  | data key s =>
      rw [ofField_data, objection_object]
      simp [Field.schema?]

/-- The document of a slice is a schema of a draft exactly if its data schemas are. -/
theorem objection_ofSlice (slice : Slice Schema) :
    objection? draft (ofSlice slice).document = none ↔
      ∀ s ∈ slice.schemas, objection? draft s.document = none := by
  induction slice with
  | leaf field =>
      rw [ofSlice_leaf, objection_ofField]
      simp [Slice.schemas]
  | multi main others =>
      rw [ofSlice_multi, objection_merge draft ofField (List.cons_ne_nil _ _),
        Slice.schemas_multi]
      simp only [List.forall_mem_flatMap, objection_ofField, Option.mem_toList]
      exact Iff.rfl
  | array key child ih =>
      rw [ofSlice_array, objection_object, objection_array draft (isObject_ofSlice child), ih]
      rfl
  | object key children ih =>
      rw [ofSlice_object, objection_object, objection_merge draft ofSlice children.toList_ne_nil,
        Slice.schemas_object, List.forall_mem_flatMap]
      exact forall₂_congr ih

end Objections

end Schema

/-! ## Schemas that mean the same wherever they stand -/

namespace Schema

/-- Whether a schema is read the same everywhere in a document without identifiers, since it names
no draft but the one that it is read under, and refers to nothing. -/
structure Portable (o : Options) (s : Schema) : Prop where
  draft : o.draft.detect s.document = o.draft
  referenceFree : (s.read o).ReferenceFree

variable {o : Options} {s : Schema}

/-- A schema is portable if it has none of the keywords that name other schemas, at whatever depth,
and names no other draft. -/
theorem portable_of_keys (draft : o.draft.detect s.document = o.draft)
    (nameless : ∀ key ∈ referenceKeywords, key ∉ s.document.keys) : s.Portable o :=
  ⟨draft, referenceFree_ofJson nameless _⟩

/-- A portable schema reads by itself as it does in any document without surroundings. -/
theorem Portable.read_eq (h : s.Portable o) : s.read o = s.readIn (.plain o) :=
  read_eq_readIn h.draft

theorem Portable.referenceFree_readIn (h : s.Portable o) :
    (s.readIn (.plain o)).ReferenceFree :=
  h.read_eq ▸ h.referenceFree

/-- The options alone decide how a schema reads that names neither a draft nor itself. -/
theorem read_of_anonymous (h : s.document.Anonymous) : s.read o = s.readIn (.plain o) :=
  read_eq_readIn (Draft.detect_of_anonymous h)

/-- A schema that names neither a draft nor itself is portable if it refers to nothing. -/
theorem portable_of_anonymous (h : s.document.Anonymous)
    (free : (s.readIn (.plain o)).ReferenceFree) : s.Portable o :=
  ⟨Draft.detect_of_anonymous h, read_of_anonymous h ▸ free⟩

theorem anonymous_ofField (field : Field Schema) : (ofField field).document.Anonymous := by
  cases field <;> exact ⟨rfl, rfl, rfl⟩

/-- The document of a slice names neither a draft nor itself, whatever its keys and schemas are. -/
theorem anonymous_ofSlice (slice : Slice Schema) : (ofSlice slice).document.Anonymous := by
  cases slice with
  | leaf field => exact anonymous_ofField field
  | multi main others => rw [ofSlice_multi]; exact ⟨rfl, rfl, rfl⟩
  | array key child => exact ⟨rfl, rfl, rfl⟩
  | object key children => rw [ofSlice_object]; exact ⟨rfl, rfl, rfl⟩

theorem read_ofSlice (o : Options) (slice : Slice Schema) :
    (ofSlice slice).read o = (ofSlice slice).readIn (.plain o) :=
  read_of_anonymous (anonymous_ofSlice slice)

theorem portable_ofSlice {slice : Slice Schema} (h : ∀ s ∈ slice.schemas, s.Portable o) :
    (ofSlice slice).Portable o := by
  refine portable_of_anonymous (anonymous_ofSlice slice) fun r hr => ?_
  rw [RefersTo, demands_ofSlice] at hr
  obtain ⟨s, hs, hr⟩ := List.mem_flatMap.mp hr
  exact (h s hs).referenceFree_readIn r hr

end Schema

namespace Validator

/-- A validator holds the document that it was compiled from, unchanged. -/
theorem eq_of_ofSchema {s : Schema} {o : Options} {w : Validator} (h : ofSchema s o = .ok w) :
    w = ⟨⟨s.document, o⟩⟩ := by
  rw [ofSchema] at h
  split at h
  · next c hc => rw [← Except.ok.inj h, Compiled.eq_of_build hc]
  · cases h

theorem exists_ofSchema_iff {s : Schema} {o : Options} :
    (∃ w, ofSchema s o = .ok w) ↔ Compiled.build s.document o = .ok ⟨s.document, o⟩ := by
  rw [ofSchema]
  cases hb : Compiled.build s.document o with
  | ok c => simp [Compiled.eq_of_build hb]
  | error e => simp

/-- A portable schema compiles if it is a schema of its draft and demands nothing else. -/
theorem ofSchema_iff {s : Schema} {o : Options} (portable : s.Portable o) :
    (∃ w, ofSchema s o = .ok w) ↔
      objection? o.draft s.document = none ∧ (s.readIn (.plain o)).demands = [] := by
  rw [← portable.read_eq]
  exact exists_ofSchema_iff.trans (Compiled.build_iff (c := ⟨s.document, o⟩) portable.referenceFree)

/-- A slice of portable schemas compiles exactly when all of these compile. -/
theorem ofSlice_iff {slice : Slice Schema} {o : Options}
    (portable : ∀ s ∈ slice.schemas, s.Portable o) :
    (∃ w, ofSlice slice o = .ok w) ↔ ∀ s ∈ slice.schemas, ∃ w, ofSchema s o = .ok w := by
  rw [ofSlice, ofSchema_iff (Schema.portable_ofSlice portable), Schema.objection_ofSlice,
    Schema.demands_ofSlice, List.flatMap_eq_nil_iff, ← forall₂_and]
  exact forall₂_congr fun s hs => (ofSchema_iff (portable s hs)).symm

end Validator

end SliceContract
