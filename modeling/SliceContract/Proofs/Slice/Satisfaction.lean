import SliceContract.Proofs.Json.Places
import SliceContract.Proofs.Slice.Meaning
import SliceContract.Slice.Duplicates

/-!
# Slices without shared keys

A slice looks at nothing but its own keys, so a member that one sibling asks for does not disturb
another as long as the two share no key. The main statement is `exists_isValid_ofSlice`: a slice in
which no siblings share a key has a document, once each of its schemas has a value.
-/

namespace SliceContract

open JsonSchema

variable {S : Type}

/-! ## The members that a slice asks for -/

/-- A value for a field, when each schema has one. -/
def Field.sample (pick : S → Json) : Field S → Json
  | .text _ => .string ""
  | .data _ s => pick s

theorem Field.admits_of_sample {fits : S → Json → Bool} {pick : S → Json} {field : Field S}
    (fitting : ∀ s ∈ field.schema?, fits s (pick s)) {v : Json}
    (has : v.get? field.key = some (field.sample pick)) : field.admits fits v := by
  cases field with
  | text key =>
      rw [Field.key_text] at has
      rw [Field.admits, has, Field.sample]
  | data key s =>
      rw [Field.key_data] at has
      rw [Field.admits, has, Field.sample]
      exact fitting s rfl

theorem Field.storable_sample {pick : S → Json} {field : Field S}
    (storable : ∀ s ∈ field.schema?, (pick s).Storable) : (field.sample pick).Storable := by
  cases field with
  | text key => exact Json.storable_string ""
  | data key s => exact storable s rfl

namespace Slice

/-- The members that a slice asks for, when each schema has a value. -/
def samples (pick : S → Json) : Slice S → List (String × Json)
  | leaf field => [(field.key, field.sample pick)]
  | multi main others => (main :: auxiliary others).map fun field => (field.key, field.sample pick)
  | array key _ => [(key, .array [])]
  | object key ⟨first, rest⟩ =>
    [(key, .object (Entries.ofList (samples pick first ++ all pick rest)))]
where
  all (pick : S → Json) : List (Slice S) → List (String × Json)
    | [] => []
    | child :: rest => samples pick child ++ all pick rest

/-- The object with these members. -/
def filled (pick : S → Json) (slice : Slice S) : Json :=
  .object (Entries.ofList (slice.samples pick))

variable {pick : S → Json}

theorem samples_object (key : String) (children : NonEmpty (Slice S)) :
    (object key children).samples pick =
      [(key, .object (Entries.ofList (children.toList.flatMap (samples pick))))] := by
  have all (slices : List (Slice S)) :
      samples.all pick slices = slices.flatMap (samples pick) := by
    induction slices with
    | nil => rfl
    | cons slice rest ih => rw [samples.all, ih, List.flatMap_cons]
  rw [samples, NonEmpty.toList, List.flatMap_cons, ← all]

theorem fieldKeys_multi (main : Field S) (others : NonEmpty (String × S)) :
    (multi main others).fieldKeys =
      (main :: auxiliary others).flatMap fun field => [field.key] := by
  rw [fieldKeys, ← List.map_eq_flatMap, List.map_cons, auxiliary, List.map_map]
  rfl

/-- The members are asked for under the keys of the slice. -/
theorem keys_samples (slice : Slice S) : (slice.samples pick).map (·.1) = slice.fieldKeys := by
  cases slice with
  | multi main others =>
      rw [fieldKeys_multi, ← List.map_eq_flatMap, samples, List.map_map]
      rfl
  | _ => rfl

/-- Samples have the keys of the slices they are for. -/
theorem keys_samples_children (children : List (Slice S)) :
    (children.flatMap (samples pick)).map (·.1) = children.flatMap fieldKeys := by
  rw [List.map_flatMap]
  exact List.flatMap_congr fun child _ => keys_samples child

/-! ## Slices in which no siblings share a key -/

/-- Whether no two siblings share a key, anywhere in the slice. -/
def CollisionFree : Slice S → Prop
  | leaf _ => True
  | multi main others => (multi main others).duplicateKeys = []
  | array _ child => CollisionFree child
  | object key ⟨first, rest⟩ =>
    (object key ⟨first, rest⟩).duplicateKeys = [] ∧ CollisionFree first ∧ all rest
where
  all : List (Slice S) → Prop
    | [] => True
    | child :: rest => CollisionFree child ∧ all rest

/-- No keys collide in an object slice if none collide in it or further inside. -/
theorem collisionFree_object (key : String) (children : NonEmpty (Slice S)) :
    (object key children).CollisionFree ↔
      (object key children).duplicateKeys = [] ∧
        ∀ child ∈ children.toList, child.CollisionFree := by
  have all (slices : List (Slice S)) :
      CollisionFree.all slices ↔ ∀ child ∈ slices, child.CollisionFree := by
    induction slices with
    | nil => simp [CollisionFree.all]
    | cons slice rest ih => rw [CollisionFree.all, ih, List.forall_mem_cons]
  rw [CollisionFree.eq_def, NonEmpty.toList, List.forall_mem_cons, ← all]

/-- Without collisions the keys of a slice are distinct. -/
theorem nodup_fieldKeys {slice : Slice S} (unshared : slice.CollisionFree) :
    slice.fieldKeys.Nodup := by
  cases slice with
  | multi main others => exact (repeats_eq_nil_iff _).mp unshared
  | _ => exact List.nodup_singleton _

variable {fits : S → Json → Bool}

/-- A value that has the members that a slice asks for is admitted. -/
theorem admits_of_samples {slice : Slice S} (unshared : slice.CollisionFree)
    (fitting : ∀ s ∈ slice.schemas, fits s (pick s)) {v : Json}
    (has : ∀ m ∈ slice.samples pick, v.get? m.1 = some m.2) : slice.admits fits v := by
  induction slice generalizing v with
  | leaf field =>
      exact Field.admits_of_sample (fun s hs => fitting s (Option.mem_toList.mpr hs))
        (has _ List.mem_cons_self)
  | multi main others =>
      rw [schemas_multi] at fitting
      rw [admits_multi, List.all_eq_true]
      intro f hf
      refine Field.admits_of_sample (fun s hs => ?_) (has _ (List.mem_map_of_mem hf))
      exact fitting s (List.mem_flatMap.mpr ⟨f, hf, Option.mem_toList.mpr hs⟩)
  | array key child _ =>
      have empty : v.get? key = some (.array []) := has _ List.mem_cons_self
      rw [admits_array, empty]
      rfl
  | object key children ih =>
      obtain ⟨distinctKeys, inner⟩ := (collisionFree_object key children).mp unshared
      rw [schemas_object] at fitting
      rw [samples_object] at has
      have nodup : ((children.toList.flatMap (samples pick)).map (·.1)).Nodup := by
        rw [keys_samples_children]
        exact (repeats_eq_nil_iff _).mp distinctKeys
      have member := has _ List.mem_cons_self
      rw [admits_object, member, Option.any_some, List.all_eq_true]
      intro child hc
      refine ih child hc (inner child hc) (fun s hs => ?_) fun m hm => ?_
      · exact fitting s (List.mem_flatMap.mpr ⟨child, hc, hs⟩)
      · exact Entries.lookup_ofList_of_mem nodup (List.mem_flatMap.mpr ⟨child, hc, hm⟩)

/-- A slice without collisions admits the object that is made of its samples. -/
theorem admits_filled {slice : Slice S} (unshared : slice.CollisionFree)
    (fitting : ∀ s ∈ slice.schemas, fits s (pick s)) : slice.admits fits (slice.filled pick) := by
  have nodup : ((slice.samples pick).map (·.1)).Nodup := by
    rw [keys_samples]
    exact nodup_fieldKeys unshared
  exact admits_of_samples unshared fitting fun m hm => Entries.lookup_ofList_of_mem nodup hm

/-! ## Members that can be held -/

/-- All samples can be held if the chosen values can be. -/
theorem storable_samples {slice : Slice S} (storable : ∀ s ∈ slice.schemas, (pick s).Storable) :
    ∀ m ∈ slice.samples pick, m.2.Storable := by
  induction slice with
  | leaf field =>
      refine List.forall_mem_singleton.mpr (Field.storable_sample fun s hs => ?_)
      exact storable s (Option.mem_toList.mpr hs)
  | multi main others =>
      rw [schemas_multi] at storable
      refine List.forall_mem_map.mpr fun field hf => Field.storable_sample fun s hs => ?_
      exact storable s (List.mem_flatMap.mpr ⟨field, hf, Option.mem_toList.mpr hs⟩)
  | array key child _ =>
      exact List.forall_mem_singleton.mpr (Json.storable_array (List.forall_mem_nil _))
  | object key children ih =>
      rw [schemas_object] at storable
      rw [samples_object]
      refine List.forall_mem_singleton.mpr (Json.storable_object (Entries.ordered_ofList _) ?_)
      refine Entries.forall_mem_ofList fun m hm => ?_
      obtain ⟨child, hc, hm⟩ := List.mem_flatMap.mp hm
      exact ih child hc (fun s hs => storable s (List.mem_flatMap.mpr ⟨child, hc, hs⟩)) m hm

theorem storable_filled {slice : Slice S} (storable : ∀ s ∈ slice.schemas, (pick s).Storable) :
    (slice.filled pick).Storable :=
  Json.storable_object (Entries.ordered_ofList _)
    (Entries.forall_mem_ofList (storable_samples storable))

end Slice

/-! ## Satisfaction -/

/-- A slice of portable schemas in which no siblings share a key compiles and accepts some document,
once each of its schemas compiles and accepts some value; the document holds those values, however
they are picked. -/
theorem exists_isValid_ofSlice {slice : Slice Schema} {o : Options}
    (portable : ∀ s ∈ slice.schemas, s.Portable o) (unshared : slice.CollisionFree) :
    (∀ pick : Schema → Json, (∀ s ∈ slice.schemas, ∃ w, Validator.ofSchema s o = .ok w ∧
        (pick s).Storable ∧ w.isValid (pick s) = some true) →
      ∃ w, Validator.ofSlice slice o = .ok w ∧ (slice.filled pick).Storable ∧
        w.isValid (slice.filled pick) = some true) ∧
    ((∀ s ∈ slice.schemas, ∃ w x, Validator.ofSchema s o = .ok w ∧ x.Storable ∧
        w.isValid x = some true) →
      ∃ w v, Validator.ofSlice slice o = .ok w ∧ v.Storable ∧ w.isValid v = some true) := by
  have picked (pick : Schema → Json) (sat : ∀ s ∈ slice.schemas, ∃ w,
      Validator.ofSchema s o = .ok w ∧ (pick s).Storable ∧ w.isValid (pick s) = some true) :
      ∃ w, Validator.ofSlice slice o = .ok w ∧ (slice.filled pick).Storable ∧
        w.isValid (slice.filled pick) = some true := by
    obtain ⟨w, hw⟩ := (Validator.ofSlice_iff portable).mpr fun s hs => (sat s hs).imp fun _ h => h.1
    refine ⟨w, hw, Slice.storable_filled fun s hs => (sat s hs).choose_spec.2.1, ?_⟩
    rw [Validator.isValid_eq_admits portable hw, Option.some.injEq]
    refine Slice.admits_filled unshared fun s hs => ?_
    obtain ⟨w', hw', -, valid⟩ := sat s hs
    rw [Schema.admits, hw']
    exact beq_iff_eq.mpr valid
  refine ⟨picked, fun sat => ?_⟩
  classical
  let pick (s : Schema) : Json :=
    if h : s ∈ slice.schemas then (sat s h).choose_spec.choose else .null
  obtain ⟨w, hw, storable, valid⟩ := picked pick fun s hs => by
    simp only [pick, dif_pos hs]
    exact ⟨_, (sat s hs).choose_spec.choose_spec⟩
  exact ⟨w, slice.filled pick, hw, storable, valid⟩

/-- The keys may read like keywords; the document made of samples has them as members. -/
theorem exists_isValid_keywordKeys :
    ∃ w, Validator.ofSlice Slice.keywordKeys .standard = .ok w ∧
      w.isValid (.object [("$ref", .object [("allOf", .array []), ("required", .int 1),
        ("type", .string "")])]) = some true := by
  have filled : Slice.keywordKeys.filled (fun _ => Json.int 1) =
      .object [("$ref", .object [("allOf", .array []), ("required", .int 1),
        ("type", .string "")])] := rfl
  have storable : (Json.int 1).Storable := by
    refine ⟨trivial, (Json.everywhere_number _).mpr fun n hn => ?_⟩
    cases hn
    decide
  have alone : ∀ s ∈ Slice.keywordKeys.schemas, ∃ w, Validator.ofSchema s .standard = .ok w ∧
      (Json.int 1).Storable ∧ w.isValid (.int 1) = some true := by
    have schemas : Slice.keywordKeys.schemas = [Schema.any, Schema.integer] := rfl
    rw [schemas]
    intro s hs
    rcases List.mem_pair.mp hs with rfl | rfl
    · exact ⟨⟨⟨Schema.any.document, .standard⟩⟩, by decide +kernel, storable, by decide +kernel⟩
    · exact ⟨⟨⟨Schema.integer.document, .standard⟩⟩, by decide +kernel, storable,
        by decide +kernel⟩
  obtain ⟨w, hw, -, valid⟩ := (exists_isValid_ofSlice Slice.portable_keywordKeys
    ⟨rfl, rfl, trivial, trivial⟩).1 (fun _ => .int 1) alone
  exact ⟨w, hw, filled ▸ valid⟩

/-- A schema that names an early draft and refuses a constant, which that draft does not know. -/
def Schema.dated : Schema :=
  ⟨.object [("$schema", .string "http://json-schema.org/draft-04/schema#"),
    ("not", .object [("const", .int 1)])]⟩

/-- Read in place, under the draft that it names, the schema accepts nothing. -/
theorem Schema.passes_dated (refs : Reference → Judge Id) (v : Json) :
    (Schema.dated.readIn (.plain .standard)).passes refs v = false := by
  have read : Schema.dated.readIn (.plain .standard) =
      keywords [negation (.object [("const", .int 1)]) (keywords [])] := rfl
  rw [read]
  rfl

/-- By itself the schema is read under the draft of the options, and accepts every other value. At a
key it is read under the draft that it names, where it accepts nothing. -/
theorem not_exists_isValid_dated :
    "$ref" ∉ Schema.dated.document.keys ∧ (Slice.data "k" Schema.dated).CollisionFree ∧
      (∃ w, Validator.ofSchema .dated .standard = .ok w ∧ w.isValid .null = some true) ∧
      ∃ w, Validator.ofSlice (.data "k" .dated) .standard = .ok w ∧
        ∀ v, w.isValid v = some false := by
  have alone : Validator.ofSchema .dated .standard =
      .ok ⟨⟨Schema.dated.document, .standard⟩⟩ := by
    decide +kernel
  have compiled : Validator.ofSlice (.data "k" .dated) .standard =
      .ok ⟨⟨(Schema.ofSlice (.data "k" .dated)).document, .standard⟩⟩ := by
    decide +kernel
  refine ⟨by decide, trivial, ⟨_, alone, by decide +kernel⟩, _, compiled, fun v => ?_⟩
  have portable : (Schema.ofSlice (.data "k" Schema.dated)).Portable .standard :=
    Schema.portable_of_keys rfl (by decide)
  have whole : Schema.ofSlice (.data "k" .dated) = Schema.object [("k", .dated)] := rfl
  rw [Validator.isValid_of_portable portable compiled fun _ => .always, whole, Schema.passes_object]
  cases v.get? "k" with
  | none => rfl
  | some x => exact congrArg some (Schema.passes_dated _ x)

end SliceContract
