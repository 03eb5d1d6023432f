import SliceContract.Proofs.Entries
import SliceContract.Proofs.JsonSchema.Deciding
import SliceContract.Proofs.JsonSchema.Spelling
import SliceContract.Schema

/-!
# Reading the combinators

The documents that the combinators write, read as schemas: which keywords they have, what a draft
objects to in them, and what they accept. Each is judged by the schemas that it was made from, and
has the same surroundings as they have.
-/

namespace SliceContract

open JsonSchema

/-! ## Surroundings -/

/-- Whether a document names neither a draft nor itself. -/
structure Json.Anonymous (document : Json) : Prop where
  draft : document.get? "$schema" = none
  identifier : document.get? "$id" = none
  oldIdentifier : document.get? "id" = none

theorem Json.textAt?_eq_none {document : Json} {keyword : String}
    (absent : document.get? keyword = none) : document.textAt? keyword = none := by
  rw [textAt?, absent]
  rfl

/-- A schema that names no draft is read under that of its surroundings. -/
theorem Draft.detect_of_anonymous {draft : Draft} {document : Json} (h : document.Anonymous) :
    draft.detect document = draft := by
  rw [detect, Json.textAt?_eq_none h.draft]

theorem Draft.identifier?_of_anonymous {draft : Draft} {document : Json} (h : document.Anonymous) :
    draft.identifier? document = none := by
  have keyword : document.textAt? draft.identifierKeyword = none := by
    rw [identifierKeyword]
    split
    · exact Json.textAt?_eq_none h.oldIdentifier
    · exact Json.textAt?_eq_none h.identifier
  rw [identifier?, Json.textAt?_eq_none h.identifier, keyword]
  split
  · rfl
  · split <;> rfl

/-- An anonymous schema has all of its context from outside. -/
theorem Context.inside_eq_self {c : Context} {document : Json} (h : document.Anonymous) :
    c.inside document = c := by
  have redrafted : c.redrafted document = c := by
    rw [redrafted, Draft.detect_of_anonymous h]
    rfl
  rw [inside, redrafted, rebased, Draft.identifier?_of_anonymous h]

namespace Schema

/-- The document as a schema by itself. -/
def read (o : Options) (s : Schema) : JsonSchema := ofJson (.root o s.document) s.document

/-- The document as a schema inside one of the context. -/
def readIn (c : Context) (s : Schema) : JsonSchema := ofInside c s.document

/-- A schema that names no other draft is the same by itself and inside a document without an
identifier. -/
theorem read_eq_readIn {o : Options} {s : Schema}
    (same : o.draft.detect s.document = o.draft) : s.read o = s.readIn (.plain o) := by
  have redrafted : (Context.plain o).redrafted s.document = .plain o := by
    rw [Context.redrafted]
    exact congrArg (fun draft => Context.mk { o with draft := draft } .unnamed) same
  rw [read, readIn, ofInside, Context.inside, redrafted, Context.root]

/-- The assertion that a value has the type. -/
def typed (c : Context) (t : TypeName) : JsonSchema := assertion (.type (c.draft = .draft4) [t])

/-- The members of an object schema, in the order in which they are stored. -/
theorem object_eq (fields : List (String × Schema)) :
    object fields = ⟨.object (("properties",
        .object ((Entries.ofList fields).map fun e => (e.1, e.2.document))) ::
      ((if (distinct (fields.map (·.1))).isEmpty then []
        else [("required", .array ((distinct (fields.map (·.1))).map .string))]) ++
          [("type", .string "object")]))⟩ := by
  rw [← Entries.ofList_map]
  rfl

/-- An object schema names neither a draft nor itself, whatever its keys are: they stand deeper. -/
theorem anonymous_object (fields : List (String × Schema)) :
    (object fields).document.Anonymous := by
  rw [object_eq]
  split <;> exact ⟨rfl, rfl, rfl⟩

section Keywords

variable (c : Context)

theorem readIn_eq {s : Schema} (h : s.document.Anonymous) : s.readIn c = ofJson c s.document := by
  rw [readIn, ofInside, Context.inside_eq_self h]

theorem readIn_ofType (t : TypeName) : (ofType t.name).readIn c = keywords [typed c t] := by
  have types : KeywordValue.types (.string t.name) = .ok [t] := by
    cases t <;> rfl
  have type : typed c t =
      asserting (.type (c.draft = .draft4)) (KeywordValue.types (.string t.name)) := by
    rw [types]
    rfl
  rw [type, readIn_eq c ⟨rfl, rfl, rfl⟩]
  rcases c with ⟨⟨draft, formats⟩, base⟩
  cases draft <;> rfl

theorem readIn_string : string.readIn c = keywords [typed c .string] := readIn_ofType c .string

theorem readIn_any : any.readIn c = keywords [] := by
  rw [readIn_eq c ⟨rfl, rfl, rfl⟩]
  rcases c with ⟨⟨draft, formats⟩, base⟩
  cases draft <;> rfl

theorem readIn_never : never.readIn c = keywords [negation .emptyObject (keywords [])] := by
  have inner : ofInside c .emptyObject = keywords [] := readIn_any c
  rw [readIn_eq c ⟨rfl, rfl, rfl⟩, ← inner]
  rcases c with ⟨⟨draft, formats⟩, base⟩
  cases draft <;> rfl

/-- Of a field that is listed twice the last schema is read. -/
theorem readIn_fields (fields : List (String × Schema)) :
    (object fields).readIn c =
      keywords (properties ((Entries.ofList fields).map fun e => (e.1, e.2.readIn c)) ::
        ((if (distinct (fields.map (·.1))).isEmpty then []
          else [assertion (.required (distinct (fields.map (·.1))))]) ++ [typed c .object])) := by
  have table : (Entries.ofList fields).map (fun e => (e.1, e.2.readIn c)) =
      ofJson.table c ((Entries.ofList fields).map fun e => (e.1, e.2.document)) := by
    rw [ofJson_table, List.map_map]
    rfl
  have required (names : List String) : assertion (.required names) =
      asserting .required (KeywordValue.keys (.array (names.map .string))) := by
    rw [KeywordValue.keys_strings]
    rfl
  rw [readIn_eq c (anonymous_object fields), table, required, object_eq]
  rcases c with ⟨⟨draft, formats⟩, base⟩
  split <;> cases draft <;> rfl

/-- An object with one field reads as three keywords, in the order of their names. -/
theorem readIn_object (key : String) (s : Schema) :
    (object [(key, s)]).readIn c =
      keywords [properties [(key, s.readIn c)], assertion (.required [key]), typed c .object] :=
  readIn_fields c [(key, s)]

/-- Under `items` a list would mean positions, so the element must be written as an object. -/
theorem readIn_array {s : Schema} (hs : s.document.isObject) :
    (array s).readIn c = keywords [items "items" 0 (s.readIn c), typed c .array] := by
  rw [readIn_eq c ⟨rfl, rfl, rfl⟩]
  rcases c with ⟨⟨draft, formats⟩, base⟩
  rcases s with ⟨document⟩
  cases document with
  | object ms => cases draft <;> rfl
  | _ => cases hs

/-- A conjunction reads as its operands, each read in the same context. -/
theorem readIn_allOf (ss : NonEmpty Schema) :
    (allOf ss).readIn c = keywords [JsonSchema.allOf (ss.toList.map (readIn c))] := by
  have branches : ss.toList.map (readIn c) = ofJson.list c (ss.toList.map (·.document)) := by
    rw [ofJson_list, List.map_map]
    rfl
  rw [readIn_eq c ⟨rfl, rfl, rfl⟩, branches]
  rcases c with ⟨⟨draft, formats⟩, base⟩
  cases draft <;> rfl

end Keywords

/-! ## Demands -/

section Demands

variable (c : Context)

theorem demands_ofType (t : TypeName) : ((ofType t.name).readIn c).demands = [] := by
  rw [readIn_ofType]
  rfl

@[simp] theorem demands_string : (string.readIn c).demands = [] := demands_ofType c .string

/-- An object schema depends on what the schemas of its keys depend on. -/
theorem demands_fields (fields : List (String × Schema)) :
    ((object fields).readIn c).demands =
      (Entries.ofList fields).flatMap fun e => (e.2.readIn c).demands := by
  rw [readIn_fields]
  split <;> simp [demands, demands_list, demands_table, typed, List.flatMap_map]

@[simp] theorem demands_object (key : String) (s : Schema) :
    ((object [(key, s)]).readIn c).demands = (s.readIn c).demands := by
  rw [demands_fields, Entries.ofList_single, List.flatMap_singleton]

@[simp] theorem demands_array {s : Schema} (hs : s.document.isObject) :
    ((array s).readIn c).demands = (s.readIn c).demands := by
  rw [readIn_array c hs]
  simp [demands, demands_list, typed]

@[simp] theorem demands_allOf (ss : NonEmpty Schema) :
    ((allOf ss).readIn c).demands = ss.toList.flatMap fun s => (s.readIn c).demands := by
  rw [readIn_allOf]
  simp [demands, demands_list, List.flatMap_map]

end Demands

/-! ## Objections of a draft -/

section Objections

open Metaschema

variable (draft : Draft)

private theorem ranked_type : ∃ place, ranked? draft "type" = some (place, .types) := by
  cases draft <;> exact ⟨_, rfl⟩

private theorem ranked_required : ∃ place, ranked? draft "required" = some (place, .keys) := by
  cases draft <;> exact ⟨_, rfl⟩

private theorem ranked_properties : ∃ place, ranked? draft "properties" = some (place, .table) := by
  cases draft <;> exact ⟨_, rfl⟩

private theorem ranked_allOf : ∃ place, ranked? draft "allOf" = some (place, .schemas) := by
  cases draft <;> exact ⟨_, rfl⟩

private theorem ranked_items : ∃ place, ranked? draft "items" =
    some (place, if draft = .draft202012 then .schema else .schemaOrSchemas) := by
  cases draft <;> exact ⟨_, rfl⟩

theorem objection_ofType (t : TypeName) : objection? draft (ofType t.name).document = none := by
  obtain ⟨place, ht⟩ := ranked_type draft
  have limit : limitObjection draft [("type", .string t.name)] = none := by
    cases draft <;> rfl
  have types : typesObjection (.string t.name) = none := by
    cases t <;> rfl
  rw [ofType, objection?, limit]
  simp only [objection?.members, ht, Option.bind_some, ruled, plainObjection, types,
    Option.map_none, Option.toList_none, List.append_nil, lowest]

theorem objection_string : objection? draft string.document = none := objection_ofType draft .string

/-- The objection to a table is the first one to a schema in it. -/
private theorem objection_table (entries : Entries Schema) :
    objection?.table draft (entries.map fun e => (e.1, e.2.document)) =
      entries.findSome? fun e => objection? draft e.2.document := by
  induction entries with
  | nil => rfl
  | cons e rest ih =>
      rw [List.map_cons, objection?.table, ih, List.findSome?_cons]
      cases objection? draft e.2.document <;> rfl

/-- Distinct names, at least one, make a list that all drafts take for `required`. -/
private theorem keysObjection_strings {names : List String} (nodup : names.Nodup)
    (nonempty : names ≠ []) : keysObjection draft (.array (names.map .string)) = none := by
  have texts : (names.map Json.string).findSome? (Metaschema.typed [.string]) = none := by
    rw [List.findSome?_eq_none_iff, List.forall_mem_map]
    exact fun _ _ => rfl
  have some : (names.map Json.string).isEmpty = false := by
    rw [List.isEmpty_map, List.isEmpty_eq_false_iff]
    exact nonempty
  rw [keysObjection, texts]
  dsimp only
  rw [some, Json.allDistinct_strings nodup, if_neg (by simp), if_pos rfl]

/-- No draft minds which fields are listed, or how often: keys are never required by an empty list
nor by one with repetitions. -/
theorem objection_fields (fields : List (String × Schema)) :
    objection? draft (object fields).document =
      (Entries.ofList fields).findSome? fun e => objection? draft e.2.document := by
  obtain ⟨place, hp⟩ := ranked_properties draft
  obtain ⟨place', hr⟩ := ranked_required draft
  obtain ⟨place'', ht⟩ := ranked_type draft
  have types : typesObjection (.string "object") = none := rfl
  rw [← objection_table, object_eq]
  by_cases empty : distinct (fields.map (·.1)) = []
  · have limit (v : Json) :
        limitObjection draft [("properties", v), ("type", .string "object")] = none := by
      cases draft <;> rfl
    rw [if_pos (List.isEmpty_iff.mpr empty), List.nil_append, objection?, limit]
    simp only [objection?.members, hp, ht, Option.bind_some, ruled, plainObjection, types,
      Option.map_none, Option.toList_none, List.append_nil]
    cases objection?.table draft _ <;> rfl
  · have limit (v w : Json) : limitObjection draft
        [("properties", v), ("required", w), ("type", .string "object")] = none := by
      cases draft <;> rfl
    have keys := keysObjection_strings draft (nodup_distinct (fields.map (·.1))) empty
    rw [if_neg (mt List.isEmpty_iff.mp empty), List.singleton_append, objection?, limit]
    simp only [objection?.members, hp, hr, ht, Option.bind_some, ruled, plainObjection, keys,
      types, Option.map_none, Option.toList_none, List.append_nil]
    cases objection?.table draft _ <;> rfl

theorem objection_object (key : String) (s : Schema) :
    objection? draft (object [(key, s)]).document = objection? draft s.document := by
  rw [objection_fields, Entries.ofList_single, List.findSome?_cons]
  cases objection? draft s.document <;> rfl

theorem objection_array {s : Schema} (hs : s.document.isObject) :
    objection? draft (array s).document = none ↔ objection? draft s.document = none := by
  obtain ⟨place, hi⟩ := ranked_items draft
  obtain ⟨place', ht⟩ := ranked_type draft
  have limit : limitObjection draft [("items", s.document), ("type", .string "array")] = none := by
    cases draft <;> rfl
  have types : typesObjection (.string "array") = none := rfl
  rcases s with ⟨document⟩
  cases document with
  | object ms =>
      rw [array, objection?, limit]
      simp only [objection?.members, hi, ht, Option.bind_some]
      by_cases hd : draft = .draft202012
      · rw [if_pos hd]
        cases objection? draft (.object ms) <;> simp [ruled, plainObjection, types, lowest]
      · rw [if_neg hd]
        cases objection? draft (.object ms) <;> simp [ruled, plainObjection, types, lowest]
  | _ => cases hs

private theorem objection_list (ss : List Schema) :
    objection?.list draft (ss.map (·.document)) = none ↔
      ∀ s ∈ ss, objection? draft s.document = none := by
  induction ss with
  | nil => simp [objection?.list]
  | cons s rest ih =>
      rw [List.map_cons, objection?.list, List.forall_mem_cons, ← ih]
      cases objection? draft s.document <;> simp

/-- A draft objects to a conjunction if it objects to one of the operands. -/
theorem objection_allOf (ss : NonEmpty Schema) :
    objection? draft (allOf ss).document = none ↔
      ∀ s ∈ ss.toList, objection? draft s.document = none := by
  obtain ⟨place, ha⟩ := ranked_allOf draft
  have limit : limitObjection draft [("allOf", .array (ss.toList.map (·.document)))] = none := by
    cases draft <;> rfl
  rw [← objection_list, allOf, objection?, limit]
  simp only [objection?.members, ha, Option.bind_some, ruled, List.append_nil]
  cases objection?.list draft (ss.toList.map (·.document)) <;> simp [NonEmpty.toList, lowest]

end Objections

/-! ## Acceptance -/

section Acceptance

variable (c : Context) (refs : Reference → Judge Id)

theorem passes_string (v : Json) : (string.readIn c).passes refs v = v.stringValue?.isSome := by
  rw [readIn_string, passes_keywords]
  cases v <;> rfl

/-- An object is accepted whose members are accepted by the schemas that are kept, none of them
missing. -/
theorem passes_fields (fields : List (String × Schema)) (v : Json) :
    ((object fields).readIn c).passes refs v =
      match v with
      | .object ms => (Entries.ofList fields).all fun e =>
          (ms.lookup e.1).any ((e.2.readIn c).passes refs)
      | _ => false := by
  have requiring (keys : List String) :
      (if keys.isEmpty then [] else [assertion (.required keys)]).all (fun s => s.passes refs v) =
        (Assertion.required keys).holds v := by
    cases keys with
    | nil => cases v <;> rfl
    | cons key rest => exact Bool.and_true _
  rw [readIn_fields, passes_keywords, List.all_cons, List.all_append, requiring]
  cases v with
  | object ms =>
      have required : (Assertion.required (distinct (fields.map (·.1)))).holds (.object ms) =
          (Entries.ofList fields).all fun e => Assertion.hasKey ms e.1 := by
        rw [Assertion.holds, Assertion.onObject,
          ← (Entries.keys_ofList_perm_distinct fields).all_eq, List.all_map]
        rfl
      have table : (properties ((Entries.ofList fields).map fun e => (e.1, e.2.readIn c))).passes
          refs (.object ms) = (Entries.ofList fields).all fun e =>
            (ms.lookup e.1).all ((e.2.readIn c).passes refs) := by
        rw [passes_properties, List.all_map]
        refine all_congr_mem fun e _ => ?_
        dsimp only [Function.comp_apply, Json.get?_object]
        cases ms.lookup e.1 <;> rfl
      have fits : [typed c .object].all (fun s => s.passes refs (.object ms)) = true := rfl
      rw [fits, Bool.and_true, required, table, ← all_and]
      refine all_congr_mem fun e _ => ?_
      rw [Assertion.hasKey]
      cases ms.lookup e.1 <;> simp
  | _ => exact Bool.and_eq_false_imp.mpr fun _ => Bool.and_false _

theorem passes_object (key : String) (s : Schema) (v : Json) :
    ((object [(key, s)]).readIn c).passes refs v =
      (v.get? key).any ((s.readIn c).passes refs) := by
  rw [passes_fields]
  cases v with
  | object ms => exact Bool.and_true _
  | _ => rfl

theorem passes_array {s : Schema} (hs : s.document.isObject) (v : Json) :
    ((array s).readIn c).passes refs v =
      match v with
      | .array xs => xs.all ((s.readIn c).passes refs)
      | _ => false := by
  rw [readIn_array c hs, passes_keywords, List.all_cons, passes_items]
  cases v with
  | array xs => exact Bool.and_true _
  | _ => rfl

theorem passes_allOf (ss : NonEmpty Schema) (v : Json) :
    ((allOf ss).readIn c).passes refs v = ss.toList.all fun s => (s.readIn c).passes refs v := by
  rw [readIn_allOf, passes_keywords, List.all_cons, List.all_nil, Bool.and_true,
    JsonSchema.passes_allOf, List.all_map]
  rfl

end Acceptance

/-! ## Failures -/

section Failures

variable (c : Context) (refs : Reference → Judge Id)

/-- A value of another type has one flaw. -/
theorem flaws_typed (t : TypeName) (v : Json) :
    (keywords [typed c t]).flaws refs v =
      if t.accepts (c.draft = .draft4) v then [] else [.own "type" v (.wrongType [t])] := by
  have causes : (Assertion.type (c.draft = .draft4) [t]).causes v =
      if t.accepts (c.draft = .draft4) v then [] else [.wrongType [t]] := by
    rw [← Bool.or_false (t.accepts _ v)]
    cases v <;> rfl
  have own : (typed c t).flaws refs v = (Assertion.type (c.draft = .draft4) [t]).failures v := rfl
  rw [flaws_keywords, List.flatMap_singleton, own, Assertion.failures, causes]
  split <;> rfl

theorem flaws_string (v : Json) :
    (string.readIn c).flaws refs v =
      match v with
      | .string _ => []
      | _ => [.own "type" v (.wrongType [.string])] := by
  rw [readIn_string, flaws_typed]
  cases v <;> rfl

/-- No keys are missing where none are required, with or without the keyword. -/
private theorem flaws_requiring (keys : List String) (v : Json) :
    ((if keys.isEmpty then [] else [assertion (.required keys)]).flatMap
        fun s => s.flaws refs v) = (Assertion.required keys).failures v := by
  cases keys with
  | nil => cases v <;> rfl
  | cons key rest => exact List.flatMap_singleton _ _

/-- The flaws of an object are those of its members, and then the keys it lacks. -/
theorem flaws_fields (fields : List (String × Schema)) (v : Json) :
    ((object fields).readIn c).flaws refs v =
      match v with
      | .object ms =>
        ((Entries.ofList fields).flatMap fun e => (ms.lookup e.1).toList.flatMap fun x =>
          ((e.2.readIn c).flaws refs x).map
            (.under [.member e.1] [.member "properties", .member e.1])) ++
        ((distinct (fields.map (·.1))).filter fun key => !Assertion.hasKey ms key).map
          fun key => .own "required" v (.missing key)
      | _ => [.own "type" v (.wrongType [.object])] := by
  rw [readIn_fields, flaws_keywords, List.flatMap_cons, List.flatMap_append, flaws_requiring,
    List.flatMap_singleton, flaws_properties, List.flatMap_map]
  cases v with
  | object ms =>
      have fits : (typed c .object).flaws refs (.object ms) = [] := rfl
      rw [fits, List.append_nil, Assertion.failures, Assertion.causes, Assertion.missingKeys,
        List.map_map]
      refine congrArg₂ (· ++ ·) (List.flatMap_congr fun e _ => ?_) rfl
      dsimp only [Json.get?_object]
      cases ms.lookup e.1 <;> simp
  | _ =>
      have noMembers : (Entries.ofList fields).flatMap (fun _ => ([] : List Failure)) = [] :=
        List.flatMap_eq_nil_iff.mpr fun _ _ => rfl
      exact congrArg (· ++ [Failure.own "type" _ (.wrongType [.object])]) noMembers

/-- An object with one field finds its key missing or looks into the member, but never both. -/
theorem flaws_object (key : String) (s : Schema) (v : Json) :
    ((object [(key, s)]).readIn c).flaws refs v =
      match v with
      | .object ms =>
        match ms.lookup key with
        | some x => ((s.readIn c).flaws refs x).map
            (.under [.member key] [.member "properties", .member key])
        | none => [.own "required" v (.missing key)]
      | _ => [.own "type" v (.wrongType [.object])] := by
  rw [flaws_fields]
  cases v with
  | object ms => cases h : ms.lookup key <;> simp [Assertion.hasKey, h]
  | _ => rfl

theorem flaws_array {s : Schema} (hs : s.document.isObject) (v : Json) :
    ((array s).readIn c).flaws refs v =
      match v with
      | .array xs => xs.zipIdx.flatMap fun e =>
          ((s.readIn c).flaws refs e.1).map (.under [.element e.2] [.member "items"])
      | _ => [.own "type" v (.wrongType [.array])] := by
  rw [readIn_array c hs, flaws_keywords, List.flatMap_cons, flaws_items]
  cases v with
  | array xs => exact List.append_nil _
  | _ => rfl

theorem flaws_allOf (ss : NonEmpty Schema) (v : Json) :
    ((allOf ss).readIn c).flaws refs v = ss.toList.zipIdx.flatMap fun e =>
      ((e.1.readIn c).flaws refs v).map (.under [] [.member "allOf", .element e.2]) := by
  rw [readIn_allOf, flaws_keywords, List.flatMap_singleton, JsonSchema.flaws_allOf,
    List.zipIdx_map, List.flatMap_map]
  rfl

end Failures

end Schema

end SliceContract
