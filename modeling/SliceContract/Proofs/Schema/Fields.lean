import SliceContract.Proofs.Json.Places
import SliceContract.Proofs.Slice.Meaning

/-!
# Objects with any list of fields

A list of fields may give a key more than once. The key is then required once, at its first place
in the list, and its last schema is kept. The main statement is `object_fields`, which also says
when the schema of the object compiles and what it accepts.
-/

namespace SliceContract

open JsonSchema

namespace Schema

/-- The schema that a list of fields gives to a key last. -/
def lastListed? (fields : List (String × Schema)) (key : String) : Option Schema :=
  fields.reverse.lookup key

variable {fields : List (String × Schema)}

/-- The entries that are left when all fields are set are the last ones. -/
theorem mem_ofList_iff {e : String × Schema} :
    e ∈ Entries.ofList fields ↔ lastListed? fields e.1 = some e.2 := by
  rw [lastListed?, ← Entries.lookup_ofList]
  exact ⟨Entries.lookup_of_mem (Entries.ordered_ofList fields), Entries.mem_of_lookup⟩

/-! ## The keywords -/

/-- Whether a document says of a list of fields which keys there are, in the order in which they are
listed first, and which schema each of them has. -/
structure ListsFields (fields : List (String × Schema)) (document : Json) (keys : List String)
    (table : Entries Json) : Prop where
  nodup : keys.Nodup
  mem_iff : ∀ key, key ∈ keys ↔ ∃ f ∈ fields, f.1 = key
  inOrder : keys.Pairwise fun a b =>
    fields.findIdx (fun f => f.1 == a) < fields.findIdx (fun f => f.1 == b)
  /-- Not every draft has an empty list of required keys, so there is none. -/
  required : document.get? "required" =
    if fields.isEmpty then none else some (.array (keys.map .string))
  properties : document.get? "properties" = some (.object table)
  sameKeys : (table.map (·.1)).Perm keys
  lookup : ∀ key, table.lookup key = (lastListed? fields key).map (·.document)

theorem isEmpty_distinct_keys (fields : List (String × Schema)) :
    (distinct (fields.map (·.1))).isEmpty = fields.isEmpty := by
  cases fields with
  | nil => rfl
  | cons f rest =>
      have listed : f.1 ∈ distinct ((f :: rest).map (·.1)) := mem_distinct.mpr List.mem_cons_self
      exact List.isEmpty_eq_false_iff_exists_mem.mpr ⟨f.1, listed⟩

/-- The object of a field list has the keywords that the list asks for. -/
theorem listsFields_object (fields : List (String × Schema)) :
    ListsFields fields (object fields).document (distinct (fields.map (·.1)))
      ((Entries.ofList fields).map fun e => (e.1, e.2.document)) where
  nodup := nodup_distinct _
  mem_iff key := by rw [mem_distinct, List.mem_map]
  inOrder := by
    have order := pairwise_distinct (fun f : String × Schema => some f.1) fields
    rw [List.filterMap_eq_map'] at order
    exact order
  required := by
    rw [object_eq, isEmpty_distinct_keys]
    cases fields.isEmpty <;> rfl
  properties := by
    rw [object_eq]
    rfl
  sameKeys := by
    rw [List.map_map]
    exact Entries.keys_ofList_perm_distinct fields
  lookup key := by rw [Entries.lookup_map, Entries.lookup_ofList, lastListed?]

/-! ## Compiling -/

variable {o : Options}

/-- An object of portable schemas is one itself, since it says nothing about its surroundings. -/
theorem portable_fields (portable : ∀ e ∈ Entries.ofList fields, e.2.Portable o) :
    (object fields).Portable o := by
  refine portable_of_anonymous (anonymous_object fields) fun r hr => ?_
  rw [RefersTo, demands_fields] at hr
  obtain ⟨e, he, hr⟩ := List.mem_flatMap.mp hr
  exact (portable e he).referenceFree_readIn r hr

/-- Only the schemas that are kept have to compile. -/
theorem exists_ofSchema_fields_iff (portable : ∀ e ∈ Entries.ofList fields, e.2.Portable o) :
    (∃ w, Validator.ofSchema (object fields) o = .ok w) ↔
      ∀ e ∈ Entries.ofList fields, ∃ w, Validator.ofSchema e.2 o = .ok w := by
  rw [Validator.ofSchema_iff (portable_fields portable), objection_fields, demands_fields,
    List.findSome?_eq_none_iff, List.flatMap_eq_nil_iff, ← forall₂_and]
  exact forall₂_congr fun e he => (Validator.ofSchema_iff (portable e he)).symm

/-! ## Acceptance -/

/-- The object is judged by the schemas that are kept, each of them as it judges by itself. -/
theorem exists_isValid_fields (portable : ∀ e ∈ Entries.ofList fields, e.2.Portable o)
    {w : Validator} (h : Validator.ofSchema (object fields) o = .ok w) (v : Json) :
    ∃ valid, w.isValid v = some valid ∧ (valid ↔ ∃ ms, v = .object ms ∧
      ∀ e ∈ Entries.ofList fields, ∃ x, ms.lookup e.1 = some x ∧ e.2.admits o x) := by
  let refs : Reference → Judge Id := fun _ => .always
  refine ⟨_, Validator.isValid_of_portable (portable_fields portable) h refs v, ?_⟩
  rw [passes_fields]
  cases v with
  | object ms =>
      simp only [List.all_eq_true, Json.object.injEq, exists_eq_left']
      refine forall₂_congr fun e he => ?_
      obtain ⟨w', hw'⟩ := (exists_ofSchema_fields_iff portable).mp ⟨w, h⟩ e he
      rw [Validator.admits_eq_passes (portable e he) hw' refs]
      cases ms.lookup e.1 <;> simp
  | _ => simp

/-! ## The whole object -/

/-- The schema of an object requires the keys of its fields, each once, and gives each of them the
schema that is listed last for it. If these schemas are portable and compile by themselves, the
whole compiles and has a verdict on every value, and it accepts the objects that have all the keys,
with members that the schemas listed last accept. -/
theorem object_fields (fields : List (String × Schema)) :
    (∃ keys table, ListsFields fields (object fields).document keys table) ∧
    ∀ o, (∀ key s, lastListed? fields key = some s →
        s.Portable o ∧ ∃ w, Validator.ofSchema s o = .ok w) →
      ∃ w, Validator.ofSchema (object fields) o = .ok w ∧
        ∀ v, ∃ valid, w.isValid v = some valid ∧ (valid ↔ ∃ ms, v = .object ms ∧
          ∀ key s, lastListed? fields key = some s →
            ∃ x, ms.lookup key = some x ∧ s.admits o x) := by
  refine ⟨⟨_, _, listsFields_object fields⟩, fun o kept => ?_⟩
  have portable : ∀ e ∈ Entries.ofList fields, e.2.Portable o := fun e he =>
    (kept e.1 e.2 (mem_ofList_iff.mp he)).1
  have each : ∀ e ∈ Entries.ofList fields, ∃ w, Validator.ofSchema e.2 o = .ok w := fun e he =>
    (kept e.1 e.2 (mem_ofList_iff.mp he)).2
  obtain ⟨w, h⟩ := (exists_ofSchema_fields_iff portable).mpr each
  refine ⟨w, h, fun v => ?_⟩
  have judged := exists_isValid_fields portable h v
  simp only [mem_ofList_iff, Prod.forall] at judged
  exact judged

/-- A key that is listed twice, first with what is no schema. -/
def relisted : List (String × Schema) :=
  [("$ref", ⟨.object [("type", .null)]⟩), ("", .integer), ("$ref", .string)]

/-- What was listed first for a key stands in no way, although it does not compile. -/
theorem object_fields_relisted :
    (¬ ∃ w, Validator.ofSchema ⟨.object [("type", .null)]⟩ .standard = .ok w) ∧
    (∀ key s, lastListed? relisted key = some s →
      s.Portable .standard ∧ ∃ w, Validator.ofSchema s .standard = .ok w) ∧
    ∃ w, Validator.ofSchema (object relisted) .standard = .ok w ∧
      w.isValid (.object [("", .int 1), ("$ref", .string "x")]) = some true ∧
      w.isValid (.object [("$ref", .string "x")]) = some false := by
  have refused : ¬ ∃ w, Validator.ofSchema ⟨.object [("type", .null)]⟩ .standard = .ok w := by
    rw [Validator.exists_ofSchema_iff]
    decide +kernel
  have entries : Entries.ofList relisted = [("", integer), ("$ref", string)] := rfl
  have last {key : String} {s : Schema} (h : lastListed? relisted key = some s) :
      (key = "" ∧ s = integer) ∨ (key = "$ref" ∧ s = string) := by
    have mem : (key, s) ∈ Entries.ofList relisted := mem_ofList_iff.mpr h
    rw [entries, List.mem_pair] at mem
    exact mem.imp Prod.mk.inj Prod.mk.inj
  have alone : ∀ s ∈ [integer, string],
      s.Portable .standard ∧ ∃ w, Validator.ofSchema s .standard = .ok w := by
    intro s hs
    rcases List.mem_pair.mp hs with rfl | rfl <;>
      exact ⟨portable_of_keys rfl (by decide),
        Validator.exists_ofSchema_iff.mpr (by decide +kernel)⟩
  have kept (key : String) (s : Schema) (h : lastListed? relisted key = some s) :
      s.Portable .standard ∧ ∃ w, Validator.ofSchema s .standard = .ok w := by
    obtain ⟨-, rfl⟩ | ⟨-, rfl⟩ := last h
    · exact alone integer (by decide)
    · exact alone string (by decide)
  obtain ⟨w, h, judges⟩ := (object_fields relisted).2 .standard kept
  refine ⟨refused, kept, w, h, ?_, ?_⟩
  · obtain ⟨valid, verdict, judged⟩ := judges (.object [("", .int 1), ("$ref", .string "x")])
    have accepted : valid = true := judged.mpr ⟨_, rfl, fun key s hs => by
      obtain ⟨rfl, rfl⟩ | ⟨rfl, rfl⟩ := last hs
      · exact ⟨.int 1, rfl, by decide +kernel⟩
      · exact ⟨.string "x", rfl, by decide +kernel⟩⟩
    rw [verdict, accepted]
  · obtain ⟨valid, verdict, judged⟩ := judges (.object [("$ref", .string "x")])
    have rejected : ¬ valid = true := by
      rw [judged]
      rintro ⟨ms, same, members⟩
      obtain ⟨x, found, -⟩ := members "" integer rfl
      cases Json.object.inj same
      cases found
    rw [verdict, eq_false_of_ne_true rejected]

/-- A schema that asks for a constant under a draft that has no constants. -/
def misdated : Schema :=
  ⟨.object [("$schema", .string "http://json-schema.org/draft-04/schema#"), ("const", .int 1)]⟩

/-- By itself the schema is read under the draft of the options. Listed for a key it is read under
the draft that it names, so the object accepts a member that the schema alone refuses. -/
theorem not_object_fields_misdated :
    "$ref" ∉ misdated.document.keys ∧
      (∃ w, Validator.ofSchema misdated .standard = .ok w ∧ w.isValid (.int 2) = some false) ∧
      ∃ w, Validator.ofSchema (object [("k", misdated)]) .standard = .ok w ∧
        w.isValid (.object [("k", .int 2)]) = some true := by
  refine ⟨by decide, ⟨⟨⟨misdated.document, .standard⟩⟩, ?_, ?_⟩,
    ⟨⟨⟨(object [("k", misdated)]).document, .standard⟩⟩, ?_, ?_⟩⟩ <;>
  decide +kernel

end Schema

end SliceContract
