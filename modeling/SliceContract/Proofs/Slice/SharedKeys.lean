import Mathlib.Data.List.Forall2
import SliceContract.Proofs.Json.Places
import SliceContract.Proofs.Occurrences
import SliceContract.Proofs.Slice.Compiling
import SliceContract.Proofs.Slice.Trace

/-!
# Shared keys and the document

The warnings about shared keys are found from the slice alone, before its document is built. They
say of the document what they should: the fields of a node are merged into an intersection of
object shapes, and a key is reported at the node exactly when several of those shapes require it.
The main statements are `duplicateKeys_secondOccurrences`, of the keys that are reported, and
`warnings_describe_document`.
-/

namespace SliceContract

/-! ## Object shapes in a document -/

namespace Json

/-- The branches of an intersection, with those inside them; any other value is its only branch. -/
def branches : Json → List Json
  | object ms => (members ms).getD [object ms]
  | v => [v]
where
  members : List (String × Json) → Option (List Json)
    | [] => none
    | (key, v) :: ms => if key = "allOf" then some (all v) else members ms
  all : Json → List Json
    | array xs => items xs
    | _ => []
  items : List Json → List Json
    | [] => []
    | x :: xs => branches x ++ items xs

/-- The keys that an object schema requires. -/
def requiredKeys (v : Json) : List String :=
  ((v.get? "required").elim [] elements).filterMap stringValue?

end Json

namespace Schema

theorem branches_object (fields : List (String × Schema)) :
    (object fields).document.branches = [(object fields).document] := by
  have apart : "properties" ≠ "allOf" ∧ "required" ≠ "allOf" ∧ "type" ≠ "allOf" := by decide
  rw [object]
  split <;> simp [Json.branches, Json.branches.members, apart]

theorem branches_allOf (schemas : NonEmpty Schema) :
    (allOf schemas).document.branches = schemas.toList.flatMap (·.document.branches) := by
  have items (ss : List Schema) :
      Json.branches.items (ss.map (·.document)) = ss.flatMap (·.document.branches) := by
    induction ss with
    | nil => rfl
    | cons s rest ih => rw [List.map_cons, Json.branches.items, ih, List.flatMap_cons]
  rw [← items]
  rfl

/-- Merging keeps the branches and their order. -/
theorem branches_merge {α : Type} (f : α → Schema) {xs : List α} (hxs : xs ≠ []) :
    (merge (xs.map f)).document.branches = xs.flatMap fun x => (f x).document.branches := by
  match xs, hxs with
  | [x], _ => rw [List.map_singleton, merge_single, List.flatMap_singleton]
  | x :: x' :: rest, _ =>
      rw [List.map_cons, List.map_cons, merge_several, branches_allOf, NonEmpty.toList_mk,
        ← List.map_cons, ← List.map_cons, List.flatMap_map]

/-- What is merged stands inside what it is merged into. -/
theorem exists_place_merge {α : Type} (f : α → Schema) {xs : List α} {x : α} (h : x ∈ xs) :
    ∃ place, (merge (xs.map f)).document.at? place = some (f x).document := by
  match xs with
  | [only] =>
      cases List.mem_singleton.mp h
      exact ⟨[], Json.at?_nil _⟩
  | first :: second :: rest =>
      obtain ⟨i, found⟩ := List.getElem?_of_mem h
      have branch : (((first :: second :: rest).map f).map (·.document))[i]? =
          some (f x).document := by
        rw [List.getElem?_map, List.getElem?_map, found]
        rfl
      refine ⟨[.member "allOf", .element i], ?_⟩
      rw [List.map_cons, List.map_cons, merge_several, allOf, Json.at?_member,
        List.lookup_cons_self]
      exact Json.at?_of_getElem? branch

/-- The schema of an object with one member is one shape, and requires just that member. -/
theorem requiredKeys_single (key : String) (s : Schema) :
    (object [(key, s)]).document.requiredKeys = [key] := rfl

end Schema

/-! ## Warnings in a log -/

namespace Event

/-- The shared keys that are reported directly after each slice. -/
def sharedAfter : List Event → List (List String)
  | [] => []
  | .lowering _ _ :: rest => leading rest :: sharedAfter rest
  | _ :: rest => sharedAfter rest
where
  leading : List Event → List String
    | .sharedKey _ key :: rest => key :: leading rest
    | _ => []

theorem sharedAfter_warnings (parent : String) (keys : List String) (rest : List Event) :
    sharedAfter (keys.map (sharedKey parent) ++ rest) = sharedAfter rest := by
  induction keys with
  | nil => rfl
  | cons key keys ih => exact ih

/-- Warnings that follow a node name its shared keys in order. -/
theorem leading_warnings (parent : String) (keys : List String) (rest : List Event) :
    sharedAfter.leading (keys.map (sharedKey parent) ++ rest) =
      keys ++ sharedAfter.leading rest := by
  induction keys with
  | nil => rfl
  | cons key keys ih => exact congrArg (key :: ·) ih

end Event

namespace Slice

section Log

variable {S : Type}

/-- The warnings in a log, node by node, are the keys that the nodes share. -/
theorem sharedAfter_flatMap (nodes : List (Slice S)) :
    Event.sharedAfter (nodes.flatMap ownEvents) = nodes.map duplicateKeys := by
  have leading (nodes : List (Slice S)) :
      Event.sharedAfter.leading (nodes.flatMap ownEvents) = [] := by
    cases nodes with
    | nil => rfl
    | cons node rest =>
        obtain ⟨kind, key, parent, events⟩ := node.ownEvents_eq
        rw [List.flatMap_cons, events]
        rfl
  induction nodes with
  | nil => rfl
  | cons node rest ih =>
      obtain ⟨kind, key, parent, events⟩ := node.ownEvents_eq
      rw [List.flatMap_cons, events, List.cons_append, Event.sharedAfter,
        Event.leading_warnings, Event.sharedAfter_warnings, leading, ih, List.append_nil]
      rfl

end Log

/-! ## What a node is merged from -/

/-- The keys of the fields that are merged at a node. -/
def innerKeys {S : Type} : Slice S → List String
  | object _ children => children.toList.flatMap fieldKeys
  | multi main others => (multi main others).fieldKeys
  | _ => []

/-- The shared keys of a node are the repeated ones among its inner keys. -/
theorem duplicateKeys_eq {S : Type} (node : Slice S) :
    node.duplicateKeys = repeats node.innerKeys := by
  cases node <;> rfl

/-- The shared keys of a slice are those that stand at two places among the keys of its fields. Each
is given once, and they come in the order of their second occurrences there (occurrences are counted
from zero). -/
theorem duplicateKeys_secondOccurrences {S : Type} (slice : Slice S) :
    (∀ key, key ∈ slice.duplicateKeys ↔
      ∃ i j : Nat, i < j ∧ slice.innerKeys[i]? = some key ∧ slice.innerKeys[j]? = some key) ∧
    slice.duplicateKeys.Nodup ∧
    slice.duplicateKeys.Pairwise fun a b =>
      slice.innerKeys.idxOfNth a 1 < slice.innerKeys.idxOfNth b 1 := by
  rw [duplicateKeys_eq]
  exact ⟨fun _ => mem_repeats_iff_exists_places, nodup_repeats _, pairwise_repeats _⟩

-- The keys `a b b a a`: the second `b` stands before the second `a`.
example : (object "k" ⟨.text "a", [.textWith "b" ⟨("b", ()), [("a", ())]⟩,
    .text "a"]⟩).duplicateKeys = ["b", "a"] := by
  decide +kernel

/-- The part of a node's document that its fields are merged into: for an object the schema under
its own key, and for a multi slice the whole document. -/
def content? : Slice Schema → Option Json
  | object key children =>
    (Schema.ofSlice (object key children)).document.at? [.member "properties", .member key]
  | multi main others => some (Schema.ofSlice (multi main others)).document
  | _ => none

/-- What a slice puts into the enclosing object: its keys, with the schemas of their values. -/
def shapes : Slice Schema → List (String × Schema)
  | leaf field => [shape field]
  | multi main others => (main :: auxiliary others).map shape
  | array key child => [(key, .array (.ofSlice child))]
  | object key children => [(key, .merge (children.toList.map .ofSlice))]
where
  shape : Field Schema → String × Schema
    | .text key => (key, .string)
    | .data key s => (key, s)

/-- The object shapes of a slice have its keys, in order. -/
theorem keys_shapes (slice : Slice Schema) : slice.shapes.map (·.1) = slice.fieldKeys := by
  have shape (field : Field Schema) : (shapes.shape field).1 = field.key := by
    cases field <;> rfl
  cases slice with
  | leaf field => exact congrArg ([·]) (shape field)
  | multi main others =>
      simp [shapes, fieldKeys, auxiliary, Function.comp_def, shape]
  | array key child => rfl
  | object key children => rfl

/-- The document of a slice is an intersection of object shapes, one for each of its keys. -/
theorem branches_ofSlice (slice : Slice Schema) :
    (Schema.ofSlice slice).document.branches =
      slice.shapes.map fun e => (Schema.object [e]).document := by
  have field (field : Field Schema) :
      Schema.ofField field = Schema.object [shapes.shape field] := by
    cases field <;> rfl
  cases slice with
  | leaf f =>
      rw [Schema.ofSlice_leaf, field, Schema.branches_object]
      rfl
  | multi main others =>
      rw [Schema.ofSlice_multi, Schema.branches_merge _ (List.cons_ne_nil _ _), shapes,
        List.map_map, List.map_eq_flatMap]
      apply List.flatMap_congr
      intro f _
      rw [field, Schema.branches_object]
      rfl
  | array key child => exact Schema.branches_object _
  | object key children =>
      rw [Schema.ofSlice_object, Schema.branches_object]
      rfl

theorem content?_object (key : String) (children : NonEmpty (Slice Schema)) :
    (object key children).content? =
      some (Schema.merge (children.toList.map .ofSlice)).document := by
  rw [content?, Schema.ofSlice_object, Schema.object_single]
  simp

/-- Where keys can be shared there is a document in which every inner key has a branch. -/
theorem exists_content {node : Slice Schema} (h : node.kind = .object ∨ node.kind = .multi) :
    ∃ (content : Json) (es : List (String × Schema)),
      node.content? = some content ∧ es.map (·.1) = node.innerKeys ∧
      content.branches = es.map fun e => (Schema.object [e]).document := by
  cases node with
  | leaf field => cases field <;> simp [kind] at h
  | multi main others =>
      exact ⟨_, _, rfl, keys_shapes (multi main others), branches_ofSlice (multi main others)⟩
  | array key child => simp [kind] at h
  | object key children =>
      refine ⟨_, children.toList.flatMap shapes, content?_object key children, ?_, ?_⟩
      · rw [List.map_flatMap, innerKeys]
        exact List.flatMap_congr fun child _ => keys_shapes child
      · rw [Schema.branches_merge _ children.toList_ne_nil, List.map_flatMap]
        exact List.flatMap_congr fun child _ => branches_ofSlice child

/-- The document of every node is a part of the whole document. -/
theorem exists_place (slice : Slice Schema) : ∀ node ∈ slice.preorder,
    ∃ place, (Schema.ofSlice slice).document.at? place = some (Schema.ofSlice node).document := by
  induction slice using node_induction with
  | step slice ih =>
      have inner : ∀ child ∈ slice.children, ∃ place,
          (Schema.ofSlice slice).document.at? place = some (Schema.ofSlice child).document := by
        intro child hc
        cases slice with
        | leaf field => cases hc
        | multi main others => cases hc
        | array key inner =>
            cases List.mem_singleton.mp hc
            refine ⟨[.member "properties", .member key, .member "items"], ?_⟩
            simp [Schema.ofSlice_array, Schema.array]
        | object key children =>
            obtain ⟨place, found⟩ := Schema.exists_place_merge Schema.ofSlice hc
            refine ⟨[.member "properties", .member key] ++ place, ?_⟩
            rw [Json.at?_append, ← content?, content?_object, Option.bind_some]
            exact found
      intro node hn
      rw [preorder_eq] at hn
      obtain rfl | hn := List.mem_cons.mp hn
      · exact ⟨[], Json.at?_nil _⟩
      · obtain ⟨child, hc, hn⟩ := List.mem_flatMap.mp hn
        obtain ⟨place, found⟩ := inner child hc
        obtain ⟨place', found'⟩ := ih child hc node hn
        refine ⟨place ++ place', ?_⟩
        rw [Json.at?_append, found, Option.bind_some, found']

end Slice

/-- The content of a node is an intersection of object shapes that require the given keys, and the
warnings name those that several shapes require. -/
structure Described (content : Json) (keys warned : List String) : Prop where
  shapes : ∀ shape ∈ content.branches, ∃ key s, shape = (Schema.object [(key, s)]).document
  required : content.branches.flatMap Json.requiredKeys = keys
  once : warned.Nodup
  shared : ∀ key, key ∈ warned ↔ 2 ≤ content.branches.countP (key ∈ ·.requiredKeys)

/-- The repeated keys are those that more than one branch asks for. -/
theorem described_repeats {content : Json} {es : List (String × Schema)}
    (h : content.branches = es.map fun e => (Schema.object [e]).document) :
    Described content (es.map (·.1)) (repeats (es.map (·.1))) where
  shapes := by
    rw [h]
    intro shape hs
    obtain ⟨e, -, rfl⟩ := List.mem_map.mp hs
    exact ⟨e.1, e.2, rfl⟩
  required := by
    rw [h, List.flatMap_map, List.map_eq_flatMap]
    rfl
  once := nodup_repeats _
  shared := by
    intro key
    have counts : content.branches.countP (key ∈ ·.requiredKeys) = (es.map (·.1)).count key := by
      rw [h, List.countP_map, List.count, List.countP_map]
      apply List.countP_congr
      intro e _
      have required : (Schema.object [e]).document.requiredKeys = [e.1] :=
        Schema.requiredKeys_single e.1 e.2
      rw [Function.comp_apply, Function.comp_apply, required, decide_eq_true_eq, beq_iff_eq,
        List.mem_singleton, eq_comm]
    rw [counts, mem_repeats_iff]

/-- At every node of a slice whose fields are merged, the warnings that are reported directly after
it describe the part of the document that they are merged into. -/
theorem warnings_describe_document (slice : Slice Schema) :
    (∀ node ∈ slice.preorder, ∃ place,
      (Schema.ofSlice slice).document.at? place = some (Schema.ofSlice node).document) ∧
    List.Forall₂ (fun node warned => node.kind = .object ∨ node.kind = .multi →
        ∃ content, node.content? = some content ∧ Described content node.innerKeys warned)
      slice.preorder (Event.sharedAfter (slice.loweringEvents Schema.engine)) := by
  refine ⟨slice.exists_place, ?_⟩
  rw [Slice.loweringEvents_eq, Slice.sharedAfter_flatMap, List.forall₂_map_right_iff,
    List.forall₂_same]
  intro node _ merged
  obtain ⟨content, es, found, keys, branches⟩ := Slice.exists_content merged
  refine ⟨content, found, ?_⟩
  rw [Slice.duplicateKeys_eq, ← keys]
  exact described_repeats branches

/-- A text, and beside it a text of the same key with a note. -/
def Slice.retitled : Slice Schema :=
  .object "card" ⟨.text "title", [.textWith "title" ⟨("note", .string), []⟩]⟩

/-- Three shapes are merged, of which two require the key that is reported. -/
theorem warnings_describe_retitled :
    ∃ content, Slice.retitled.content? = some content ∧
      Described content ["title", "title", "note"] ["title"] := by
  have nodes : Slice.retitled.preorder = Slice.retitled ::
      [.text "title", .textWith "title" ⟨("note", .string), []⟩] := rfl
  have warned : Event.sharedAfter (Slice.retitled.loweringEvents Schema.engine) =
      [["title"], [], []] := by
    decide +kernel
  obtain ⟨-, described⟩ := warnings_describe_document Slice.retitled
  rw [nodes, warned] at described
  cases described with
  | cons first _ => exact first (.inl rfl)

end SliceContract
