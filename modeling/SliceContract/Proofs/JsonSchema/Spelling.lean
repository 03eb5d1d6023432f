import Mathlib.Data.List.Basic
import SliceContract.JsonSchema.Demand
import SliceContract.JsonSchema.OfJson
import SliceContract.Proofs.Json.Depth

/-!
# Documents without references

Only three keywords name other schemas. A document that has none of them, at whatever depth, reads
as a schema without references. Each keyword makes its schema from the schemas inside itself and the
keywords beside it, so the proof goes keyword by keyword and then along the document.
-/

namespace SliceContract

namespace Json

/-- The keys of all objects in a value. -/
def keys : Json → List String
  | array xs => items xs
  | object ms => members ms
  | _ => []
where
  items : List Json → List String
    | [] => []
    | x :: rest => keys x ++ items rest
  members : List (String × Json) → List String
    | [] => []
    | (key, x) :: rest => key :: (keys x ++ members rest)

theorem keys_array (xs : List Json) : (array xs).keys = xs.flatMap keys := by
  rw [keys]
  induction xs with
  | nil => rfl
  | cons x rest ih => rw [keys.items, ih, List.flatMap_cons]

theorem keys_object (ms : List (String × Json)) :
    (object ms).keys = ms.flatMap fun m => m.1 :: m.2.keys := by
  rw [keys]
  induction ms with
  | nil => rfl
  | cons m rest ih => rw [keys.members, ih, List.flatMap_cons, List.cons_append]

end Json

namespace JsonSchema

/-! ## Schemas without references -/

def isReference : JsonSchema → Bool
  | reference _ _ => true
  | _ => false

section ReferenceFree

/-- A schema that is no reference has none if its children have none. -/
theorem ReferenceFree.made {s : JsonSchema} (own : s.isReference = false)
    (inner : ∀ child ∈ s.children, child.ReferenceFree) : s.ReferenceFree := by
  intro r h
  rw [RefersTo, demands_eq, List.mem_append] at h
  rcases h with h | h
  · cases s with
    | reference _ _ => cases own
    | unfit o => cases List.mem_singleton.mp h
    | _ => cases h
  · obtain ⟨child, hc, h⟩ := List.mem_flatMap.mp h
    exact inner child hc r h

theorem referenceFree_unfit (o : Objection) : (unfit o).ReferenceFree :=
  .made rfl (List.forall_mem_nil _)

theorem referenceFree_assertion (a : Assertion) : (assertion a).ReferenceFree :=
  .made rfl (List.forall_mem_nil _)

theorem ReferenceFree.of_some {s s' : JsonSchema} (hs : s ∈ some s') (h : s'.ReferenceFree) :
    s.ReferenceFree :=
  Option.some.inj hs ▸ h

theorem ReferenceFree.of_gated {s s' : JsonSchema} {p : Prop} [Decidable p]
    (hs : s ∈ if p then some s' else none) (h : s'.ReferenceFree) : s.ReferenceFree := by
  split at hs
  · exact .of_some hs h
  · cases hs

theorem referenceFree_ofRead {α : Type} {make : α → JsonSchema} (h : ∀ a, (make a).ReferenceFree)
    (read : Except Objection α) : (ofRead make read).ReferenceFree := by
  cases read with
  | ok a => exact h a
  | error o => exact referenceFree_unfit o

theorem referenceFree_asserting {α : Type} (make : α → Assertion) (read : Except Objection α) :
    (asserting make read).ReferenceFree :=
  referenceFree_ofRead (fun a => referenceFree_assertion (make a)) read

end ReferenceFree

/-! ## Documents by their members -/

section Views

variable (c : Context)

/-- The schema that a document spells inside another one. -/
def ofInside (v : Json) : JsonSchema := ofJson (c.inside v) v

theorem ofJson_list (xs : List Json) : ofJson.list c xs = xs.map (ofInside c) := by
  induction xs with
  | nil => rfl
  | cons x rest ih => rw [ofJson.list, ih, List.map_cons, ofInside]

theorem ofJson_table (ms : List (String × Json)) :
    ofJson.table c ms = ms.map fun m => (m.1, ofInside c m.2) := by
  induction ms with
  | nil => rfl
  | cons m rest ih => rw [ofJson.table, ih, List.map_cons, ofInside]

/-- What a table gives to a pattern. -/
def ofPattern (m : String × Json) : JsonSchema :=
  if Pattern.isUsable m.1 then ofInside c m.2
  else .unfit ⟨m.2, .wrongFormat Format.pattern.name⟩

theorem ofJson_patternTable (ms : List (String × Json)) :
    ofJson.patternTable c ms = ms.map fun m => (m.1, ofPattern c m) := by
  induction ms with
  | nil => rfl
  | cons m rest ih => rw [ofJson.patternTable, ih, List.map_cons, ofPattern, ofInside]

/-- What an entry of a table under `dependencies` asks for. -/
def dependency (m : String × Json) : JsonSchema :=
  match m.2 with
  | .array _ =>
    asserting (fun keys => .dependentRequired "dependencies" [(m.1, keys)]) (KeywordValue.keys m.2)
  | v => .dependent "dependencies" m.1 (ofInside c v)

/-- Dependencies are read one by one, lists of keys among them. -/
theorem ofJson_dependencies (ms : List (String × Json)) :
    ofJson.dependencies c ms = ms.map (dependency c) := by
  induction ms with
  | nil => rfl
  | cons m rest ih =>
      obtain ⟨key, v⟩ := m
      rw [List.map_cons, ← ih]
      cases v <;> rfl

/-- The schemas inside a member of a schema. -/
def innerOf (m : String × Json) : Inner :=
  match arity m.1, m.2 with
  | .one, v => .one (ofInside c v)
  | .many, .array xs => .many (xs.map (ofInside c))
  | .oneOrMany, .array xs => .many (xs.map (ofInside c))
  | .oneOrMany, v => .one (ofInside c v)
  | .table, .object ms => .table (ms.map fun m => (m.1, ofInside c m.2))
  | .patternTable, .object ms => .table (ms.map fun m => (m.1, ofPattern c m))
  | .dependencies, .object ms => .many (ms.map (dependency c))
  | _, _ => .nothing

/-- The members of a schema are read one by one, each with what stands inside. -/
theorem ofJson_parts (ms : List (String × Json)) :
    ofJson.parts c ms = ms.map fun m => ⟨m.1, m.2, innerOf c m⟩ := by
  induction ms with
  | nil => rfl
  | cons m rest ih =>
      obtain ⟨keyword, v⟩ := m
      rw [List.map_cons, ← ih, ofJson.parts.eq_def, innerOf]
      dsimp only
      cases arity keyword <;> cases v <;>
        simp [ofJson_list, ofJson_table, ofJson_patternTable, ofJson_dependencies, ofInside]

end Views

/-! ## Keywords -/

/-- The keywords that name other schemas. -/
def referenceKeywords : List String := ["$dynamicRef", "$recursiveRef", "$ref"]

/-- The schemas inside the value of a keyword. -/
def Inner.schemas : Inner → List JsonSchema
  | nothing => []
  | one s => [s]
  | many ss => ss
  | table entries => entries.map (·.2)

/-- Whether a keyword neither names a schema nor holds one with a reference. -/
structure Part.NamesNothing (part : Part) : Prop where
  own : part.keyword ∉ referenceKeywords
  inner : ∀ s ∈ part.inner.schemas, s.ReferenceFree

section Keywords

variable {parts : List Part} {part : Part} {s : JsonSchema}

/-- What stands inside a keyword that names nothing refers to nothing. -/
theorem Part.NamesNothing.of_one {inner : JsonSchema} (hp : part.NamesNothing)
    (hi : part.inner = .one inner) : inner.ReferenceFree := by
  have held := hp.inner
  rw [hi] at held
  exact held inner List.mem_cons_self

theorem Part.NamesNothing.of_table {entries : List (String × JsonSchema)} (hp : part.NamesNothing)
    (hi : part.inner = .table entries) : ∀ s ∈ entries.map (·.2), s.ReferenceFree := by
  have held := hp.inner
  rw [hi] at held
  exact held

theorem Part.NamesNothing.of_many {schemas : List JsonSchema} (hp : part.NamesNothing)
    (hi : part.inner = .many schemas) : ∀ s ∈ schemas, s.ReferenceFree := by
  have held := hp.inner
  rw [hi] at held
  exact held

theorem mem_of_find? {keyword : String} (h : Part.find? parts keyword = some part) :
    part ∈ parts :=
  List.mem_of_find?_eq_some h

theorem keyword_of_find? {keyword : String} (h : Part.find? parts keyword = some part) :
    part.keyword = keyword := by
  rw [Part.find?] at h
  simpa using List.find?_some h

variable (h : ∀ part ∈ parts, part.NamesNothing)

include h

/-- The table of another keyword refers to nothing either. -/
theorem referenceFree_tableOf (keyword : String) :
    ∀ s ∈ (Part.tableOf parts keyword).map (·.2), s.ReferenceFree := by
  rw [Part.tableOf]
  split
  · next hp => exact (h _ (mem_of_find? hp)).of_table rfl
  · exact List.forall_mem_nil _

theorem referenceFree_schemaOf? (keyword : String) :
    ∀ s ∈ (Part.schemaOf? parts keyword).toList, s.ReferenceFree := by
  rw [Part.schemaOf?]
  split
  · next hp => exact List.forall_mem_singleton.mpr ((h _ (mem_of_find? hp)).of_one rfl)
  · exact List.forall_mem_nil _

/-- `additionalProperties` looks at its neighbours, which refer to nothing. -/
theorem referenceFree_additionalPart (hp : part.NamesNothing)
    (hs : s ∈ additionalPart parts part) : s.ReferenceFree := by
  have named : ∀ s ∈ (Part.tableOf parts "patternProperties").map (·.2) ++
      (Part.tableOf parts "properties").map (·.2), s.ReferenceFree :=
    List.forall_mem_append.mpr ⟨referenceFree_tableOf h _, referenceFree_tableOf h _⟩
  rw [additionalPart.eq_def] at hs
  split at hs
  · exact .of_some hs (referenceFree_unfit _)
  · exact .of_some hs (.made rfl (List.forall_mem_nil _))
  · exact .of_some hs (referenceFree_unfit _)
  · exact .of_some hs (.made rfl named)
  · refine .of_some hs (.made rfl ?_)
    exact List.forall_mem_append.mpr ⟨named, hp.inner⟩
  · cases hs

omit h in
theorem referenceFree_itemsPart (hp : part.NamesNothing) :
    (itemsPart parts part).ReferenceFree := by
  rw [itemsPart.eq_def]
  extract_lets skip
  split
  · exact .made rfl hp.inner
  · exact .made rfl hp.inner
  · exact .made rfl hp.inner
  · exact referenceFree_unfit _

omit h in
theorem referenceFree_additionalItemsPart (hp : part.NamesNothing)
    (hs : s ∈ additionalItemsPart parts part) : s.ReferenceFree := by
  rw [additionalItemsPart.eq_def] at hs
  split at hs
  case h_1 | h_2 | h_3 | h_7 => cases hs
  case h_4 => exact .of_some hs (referenceFree_assertion _)
  case h_5 => exact .of_some hs (.made rfl (List.forall_mem_nil _))
  case h_6 => exact .of_some hs (.made rfl hp.inner)
  case h_8 => exact .of_some hs (referenceFree_unfit _)

omit h in
/-- `contains` is read with its limits, which are no schemas. -/
theorem referenceFree_containsPart {element : JsonSchema} (he : element.ReferenceFree)
    (draft : Draft) : (containsPart draft parts element).ReferenceFree := by
  have inner : ∀ s ∈ [element], s.ReferenceFree := List.forall_mem_singleton.mpr he
  rw [containsPart.eq_def]
  split
  · refine referenceFree_ofRead (fun quota => ?_) _
    exact .made rfl inner
  · exact .made rfl inner

omit h in
theorem referenceFree_limitPart {draft : Draft} (hs : s ∈ limitPart draft parts part) :
    s.ReferenceFree := by
  rw [limitPart.eq_def] at hs
  dsimp only at hs
  split at hs
  case h_1 | h_2 | h_5 => exact .of_some hs (referenceFree_asserting _ _)
  case h_3 | h_4 => exact .of_gated hs (referenceFree_asserting _ _)
  case h_6 => cases hs

omit h in
theorem referenceFree_formatPart {draft : Draft} {v : Json} (hs : s ∈ formatPart draft v) :
    s.ReferenceFree := by
  rw [formatPart.eq_def] at hs
  split at hs
  · obtain ⟨format, -, rfl⟩ := Option.map_eq_some_iff.mp hs
    exact referenceFree_assertion _
  · exact .of_some hs (referenceFree_unfit _)

omit h in
theorem referenceFree_mediaTypePart {v : Json} (hs : s ∈ mediaTypePart parts v) :
    s.ReferenceFree := by
  rw [mediaTypePart.eq_def] at hs
  split at hs
  case h_1 | h_4 => exact .of_some hs (referenceFree_unfit _)
  case h_2 => exact .of_some hs (referenceFree_assertion _)
  case h_3 => exact .of_gated hs (referenceFree_assertion _)
  case h_5 => cases hs

omit h in
theorem referenceFree_encodingPart {v : Json} (hs : s ∈ encodingPart parts v) :
    s.ReferenceFree := by
  rw [encodingPart.eq_def] at hs
  split at hs
  · cases hs
  · split at hs
    · exact .of_some hs (referenceFree_unfit _)
    · exact .of_gated hs (referenceFree_assertion _)

omit h in
/-- Assertions refer to nothing in any draft. -/
theorem referenceFree_assertion? {o : Options} (hs : s ∈ assertion? o parts part) :
    s.ReferenceFree := by
  rw [assertion?.eq_def] at hs
  dsimp only at hs
  split at hs
  case h_1 => exact .of_gated hs (referenceFree_assertion _)
  case h_2 =>
    split at hs
    · exact referenceFree_encodingPart hs
    · cases hs
  case h_3 =>
    split at hs
    · exact referenceFree_mediaTypePart hs
    · cases hs
  case h_4 => exact .of_gated hs (referenceFree_asserting _ _)
  case h_6 =>
    split at hs
    · exact referenceFree_formatPart hs
    · cases hs
  case h_16 =>
    split at hs
    · exact .of_gated hs (referenceFree_assertion _)
    · exact .of_some hs (referenceFree_unfit _)
  case h_17 => exact referenceFree_limitPart hs
  all_goals exact .of_some hs (referenceFree_asserting _ _)

omit h in
theorem referenceFree_listed {make : List JsonSchema → JsonSchema} (hp : part.NamesNothing)
    (made : ∀ ss, (∀ s ∈ ss, s.ReferenceFree) → (make ss).ReferenceFree) :
    (listed make part).ReferenceFree := by
  rw [listed]
  split
  · next hi => exact made _ (hp.of_many hi)
  · exact referenceFree_unfit _

omit h in
theorem referenceFree_tabled {make : List (String × JsonSchema) → JsonSchema}
    (hp : part.NamesNothing) (made : ∀ entries, (∀ s ∈ entries.map (·.2), s.ReferenceFree) →
      (make entries).ReferenceFree) : (tabled make part).ReferenceFree := by
  rw [tabled]
  split
  · next hi => exact made _ (hp.of_table hi)
  · exact referenceFree_unfit _

omit h in
theorem referenceFree_dependentSchemas {entries : List (String × JsonSchema)}
    (he : ∀ s ∈ entries.map (·.2), s.ReferenceFree) :
    (keywords (entries.map fun (key, s) => dependent "dependentSchemas" key s)).ReferenceFree := by
  refine .made rfl fun child hc => ?_
  obtain ⟨e, hm, rfl⟩ := List.mem_map.mp hc
  exact .made rfl (List.forall_mem_singleton.mpr (he e.2 (List.mem_map_of_mem hm)))

theorem referenceFree_conditional {test : JsonSchema} (ht : test.ReferenceFree) :
    (conditional test (Part.schemaOf? parts "then")
      (Part.schemaOf? parts "else")).ReferenceFree :=
  .made rfl (List.forall_mem_cons.mpr ⟨ht, List.forall_mem_append.mpr
    ⟨referenceFree_schemaOf? h "then", referenceFree_schemaOf? h "else"⟩⟩)

/-- No draft has an applicator that refers to anything by itself. -/
theorem referenceFree_applicator? {draft : Draft} (hp : part.NamesNothing)
    (hs : s ∈ applicator? draft parts part) : s.ReferenceFree := by
  have barred {p : Prop} [Decidable p] {s? : Option JsonSchema} (hs : s ∈ if p then none else s?)
      (free : s ∈ s? → s.ReferenceFree) : s.ReferenceFree := by
    split at hs
    · cases hs
    · exact free hs
  rw [applicator?.eq_def] at hs
  split at hs
  case h_1 => exact barred hs (referenceFree_additionalItemsPart hp)
  case h_2 => exact referenceFree_additionalPart h hp hs
  case h_3 | h_4 | h_5 => exact .of_some hs (referenceFree_listed hp fun _ hs => .made rfl hs)
  case h_6 hi => exact .of_gated hs (referenceFree_containsPart (hp.of_one hi) draft)
  case h_7 hi => exact .of_some hs (.made rfl (hp.of_many hi))
  case h_8 => exact .of_some hs (referenceFree_unfit _)
  case h_9 => exact .of_gated hs (referenceFree_tabled hp fun _ => referenceFree_dependentSchemas)
  case h_10 hi => exact .of_gated hs (referenceFree_conditional h (hp.of_one hi))
  case h_11 => exact .of_some hs (referenceFree_itemsPart hp)
  case h_12 hi =>
    exact .of_some hs (.made rfl (List.forall_mem_singleton.mpr (hp.of_one hi)))
  case h_13 | h_15 =>
    exact barred hs fun hs => .of_some hs (referenceFree_tabled hp fun _ hs => .made rfl hs)
  case h_14 => exact .of_gated hs (referenceFree_listed hp fun _ hs => .made rfl hs)
  case h_16 name _ hi =>
    have made : (propertyNames name).ReferenceFree :=
      .made rfl (List.forall_mem_singleton.mpr (hp.of_one hi))
    split at hs
    · exact .of_some hs made
    · exact .of_some hs made
    · cases hs
  case h_17 => cases hs

omit h in
/-- Only the keywords for references make references. -/
theorem reference?_eq_none (c : Context) (hp : part.NamesNothing) : reference? c part = none := by
  have own := hp.own
  rw [referenceKeywords] at own
  rw [reference?]
  split
  case h_1 hk | h_2 hk _ | h_3 hk _ => simp [hk] at own
  case h_4 => rfl

theorem referenceFree_plain? {c : Context} (hp : part.NamesNothing) (hs : s ∈ plain? c parts part) :
    s.ReferenceFree := by
  rw [plain?, reference?_eq_none c hp] at hs
  cases ha : applicator? c.draft parts part with
  | some s' =>
      rw [ha] at hs
      exact referenceFree_applicator? h hp (ha.trans hs)
  | none =>
      rw [ha] at hs
      exact referenceFree_assertion? hs

theorem referenceFree_keyword? {c : Context} (hp : part.NamesNothing)
    (hs : s ∈ keyword? c parts part) : s.ReferenceFree := by
  rw [keyword?] at hs
  split at hs
  · next kind inner hk hi =>
      refine .of_gated hs (.made rfl ?_)
      refine List.forall_mem_append.mpr ⟨?_, List.forall_mem_singleton.mpr (hp.of_one hi)⟩
      intro beside hb
      obtain ⟨other, ho, hb⟩ := List.mem_filterMap.mp hb
      exact referenceFree_plain? h (h other ho) hb
  · exact referenceFree_plain? h hp hs

/-- A schema refers to nothing if none of its members do. -/
theorem referenceFree_ofParts (c : Context) : (ofParts c parts).ReferenceFree := by
  rw [ofParts]
  split
  · next part _ hf =>
      refine absurd ?_ (h part (mem_of_find? hf)).own
      rw [keyword_of_find? hf]
      decide
  · refine .made rfl fun child hc => ?_
    obtain ⟨part, hm, hs⟩ := List.mem_filterMap.mp hc
    exact referenceFree_keyword? h (h part hm) hs

end Keywords

/-! ## Documents -/

theorem referenceFree_dependency {c : Context} {m : String × Json}
    (h : (ofInside c m.2).ReferenceFree) : (dependency c m).ReferenceFree := by
  rw [dependency]
  split
  · exact referenceFree_asserting _ _
  · exact .made rfl (List.forall_mem_singleton.mpr h)

/-- The schemas inside a member are read from the values that it holds, if not from itself. -/
theorem referenceFree_innerOf {c : Context} {m : String × Json}
    (own : (ofInside c m.2).ReferenceFree)
    (elements : ∀ xs, m.2 = .array xs → ∀ x ∈ xs, (ofInside c x).ReferenceFree)
    (entries : ∀ ms, m.2 = .object ms → ∀ n ∈ ms, (ofInside c n.2).ReferenceFree) :
    ∀ s ∈ (innerOf c m).schemas, s.ReferenceFree := by
  rw [innerOf]
  split
  · exact List.forall_mem_singleton.mpr own
  · next hv => exact List.forall_mem_map.mpr (elements _ hv)
  · next hv => exact List.forall_mem_map.mpr (elements _ hv)
  · exact List.forall_mem_singleton.mpr own
  · next hv =>
      rw [Inner.schemas, List.map_map]
      exact List.forall_mem_map.mpr (entries _ hv)
  · next hv =>
      rw [Inner.schemas, List.map_map]
      refine List.forall_mem_map.mpr fun n hn => ?_
      dsimp only [Function.comp_apply, ofPattern]
      split
      · exact entries _ hv n hn
      · exact referenceFree_unfit _
  · next hv =>
      exact List.forall_mem_map.mpr fun n hn => referenceFree_dependency (entries _ hv n hn)
  · exact List.forall_mem_nil _

/-- A document without the keywords that name schemas reads as a schema without references, in every
context. -/
theorem referenceFree_ofJson {v : Json} (h : ∀ key ∈ referenceKeywords, key ∉ v.keys)
    (c : Context) : (ofJson c v).ReferenceFree := by
  induction v using Json.depth_induction generalizing c with
  | step v ih =>
  cases v with
  | bool b => cases b <;> exact .made rfl (List.forall_mem_nil _)
  | object ms =>
      refine referenceFree_ofParts (fun part hp => ?_) c
      rw [ofJson_parts] at hp
      obtain ⟨m, hm, rfl⟩ := List.mem_map.mp hp
      have below := Json.depth_lt_of_mem_object hm
      have inside : ∀ key ∈ m.1 :: m.2.keys, key ∈ (Json.object ms).keys := fun key hk =>
        (Json.keys_object ms).symm ▸ List.mem_flatMap.mpr ⟨m, hm, hk⟩
      have deeper {x : Json} (hx : x.depth ≤ m.2.depth) (sub : ∀ key ∈ x.keys, key ∈ m.2.keys) :
          (ofInside c x).ReferenceFree :=
        ih x (Nat.lt_of_le_of_lt hx below) (fun key hk held =>
          h key hk (inside key (List.mem_cons_of_mem _ (sub key held)))) _
      refine ⟨fun own => h m.1 own (inside m.1 List.mem_cons_self), ?_⟩
      refine referenceFree_innerOf (deeper (Nat.le_refl _) fun _ hk => hk) ?_ ?_
      · intro xs hv x hx
        rw [hv] at deeper
        refine deeper (Nat.le_of_lt (Json.depth_lt_of_mem_array hx)) fun key hk => ?_
        exact Json.keys_array xs ▸ List.mem_flatMap.mpr ⟨x, hx, hk⟩
      · intro ns hv n hn
        rw [hv] at deeper
        refine deeper (Nat.le_of_lt (Json.depth_lt_of_mem_object hn)) fun key hk => ?_
        exact Json.keys_object ns ▸ List.mem_flatMap.mpr ⟨n, hn, List.mem_cons_of_mem _ hk⟩
  | _ => exact referenceFree_unfit _

end JsonSchema

end SliceContract
