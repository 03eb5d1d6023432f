import Mathlib.Algebra.Ring.Nat
import SliceContract.Proofs.Slice.Compiling
import SliceContract.Proofs.Slice.Script

/-!
# How an engine is used

A lowering asks its engine for validators in the post-order of the slice, and never for one that is
not built yet. Which combinators it asks for, and how often, can be counted off the nodes of the
slice. The main statement is `disciplined_requests`.
-/

namespace SliceContract

open Engine

/-- Whether a field is free text. -/
def Field.isText {S : Type} : Field S → Bool
  | text _ => true
  | data _ _ => false

namespace Slice

/-! ## What nodes are made of -/

section Nodes

variable {S : Type}

/-- The fields of a node itself. -/
def ownFields : Slice S → List (Field S)
  | leaf field => [field]
  | multi main others => main :: auxiliary others
  | array _ _ => []
  | object _ _ => []

/-- How many parts a node joins: the fields of a multi slice, the children of any other. -/
def parts : Slice S → Nat
  | multi main others => (main :: auxiliary others).length
  | node => node.children.length

theorem schemas_child_subset {slice child : Slice S} (h : child ∈ slice.children) :
    child.schemas ⊆ slice.schemas := by
  cases slice with
  | leaf field => cases h
  | multi main others => cases h
  | array key inner =>
      cases List.mem_singleton.mp h
      exact List.Subset.refl _
  | object key children =>
      intro s hs
      rw [schemas_object]
      exact List.mem_flatMap.mpr ⟨child, h, hs⟩

end Nodes

variable {V : Type} (E : Engine Id V)

/-- The requests that an engine gets while a slice is lowered, in their order. -/
def requests (slice : Slice V) : List (Request V) :=
  ((slice.lowerM (E.noting fun request => [request]) fun _ => pure ()).run []).2

/-- Lowering with a note for every request returns what lowering returns, and notes the requests of
the nodes in post-order. -/
theorem run_lowerM_noting {A : Type} (note : Request V → List A) (slice : Slice V) :
    (slice.lowerM (E.noting note) fun _ => pure ()).run [] =
      (slice.lower E, (slice.postorder.flatMap (ownRequests E)).flatMap note) := by
  have silent (event : Event) : Logs (pure () : StateM (List A) Unit) () [] := .pure ()
  have run := logs_lowerM E note silent slice []
  have events : entering (S := V) (fun _ => ([] : List A)) = fun _ => [] := by
    funext node
    simp [entering]
  rw [events, walk_leave, List.nil_append] at run
  rw [run, List.flatMap_assoc]
  rfl

/-- The requests of a slice are those of its nodes, children first. -/
theorem requests_eq (slice : Slice V) :
    slice.requests E = slice.postorder.flatMap (ownRequests E) := by
  rw [requests, run_lowerM_noting]
  exact List.flatMap_singleton' _

/-! ## Supplies -/

section Supplies

variable {E} {stock : List V}

/-- A field asks for nothing but strings, and objects of what is in stock. -/
theorem supplied_fieldRequests {field : Field V} (h : field.schema?.toList ⊆ stock) :
    E.Supplied stock (fieldRequests E field) := by
  cases field with
  | text key => exact ⟨List.nil_subset _, List.cons_subset_cons _ (List.nil_subset _), trivial⟩
  | data key v => exact ⟨h, trivial⟩

theorem fieldValidator_mem (field : Field V) :
    fieldValidator E field ∈ (fieldRequests E field).map E.answer := by
  cases field with
  | text key => exact List.mem_cons_of_mem _ List.mem_cons_self
  | data key v => exact List.mem_cons_self

/-- What a node is lowered to is the answer to the last of its requests. -/
theorem lower_mem_ownRequests (slice : Slice V) :
    slice.lower E ∈ (ownRequests E slice).map E.answer := by
  cases slice with
  | leaf field => exact fieldValidator_mem field
  | multi main others =>
      rw [ownRequests, List.map_append, lower_multi]
      exact List.mem_append_right _ List.mem_cons_self
  | array key child => exact List.mem_cons_of_mem _ List.mem_cons_self
  | object key children =>
      rw [ownRequests, List.map_append, lower_object]
      exact List.mem_append_right _ List.mem_cons_self

/-- The requests for a node are supplied once the nodes right inside it are built. -/
theorem supplied_ownRequests {slice : Slice V} (stored : slice.schemas ⊆ stock)
    (built : ∀ child ∈ slice.children, child.lower E ∈ stock) :
    E.Supplied stock (ownRequests E slice) := by
  cases slice with
  | leaf field => exact supplied_fieldRequests stored
  | multi main others =>
      rw [schemas_multi] at stored
      rw [ownRequests]
      apply Supplied.append
      · apply Supplied.flatMap
        intro field hf
        apply supplied_fieldRequests
        intro s hs
        exact stored (List.mem_flatMap.mpr ⟨field, hf, hs⟩)
      · refine ⟨?_, trivial⟩
        intro v hv
        obtain ⟨field, hf, rfl⟩ := List.mem_map.mp
          (show v ∈ (main :: auxiliary others).map (fieldValidator E) from hv)
        apply List.mem_append_left
        rw [List.map_flatMap]
        exact List.mem_flatMap.mpr ⟨field, hf, fieldValidator_mem field⟩
  | array key child =>
      have element : child.lower E ∈ stock := built child List.mem_cons_self
      exact ⟨List.forall_mem_singleton.mpr element,
        List.forall_mem_singleton.mpr List.mem_cons_self, trivial⟩
  | object key children =>
      obtain ⟨first, rest⟩ := children
      cases rest with
      | nil =>
          have only : first.lower E ∈ stock := built first List.mem_cons_self
          exact ⟨List.forall_mem_singleton.mpr only, trivial⟩
      | cons second rest =>
          refine ⟨?_, List.forall_mem_singleton.mpr List.mem_cons_self, trivial⟩
          intro v hv
          obtain ⟨child, hc, rfl⟩ := List.mem_map.mp
            (show v ∈ (first :: second :: rest).map (lower E) from hv)
          exact built child hc

/-- The requests of a lowering are supplied: a node is left after the nodes inside it, and the last
request for each of those builds what the node needs of it. -/
theorem supplied_postorder (slice : Slice V) :
    E.Supplied slice.schemas (slice.postorder.flatMap (ownRequests E)) := by
  induction slice using node_induction with
  | step slice ih =>
      rw [postorder_eq, List.flatMap_append, List.flatMap_singleton, List.flatMap_assoc]
      apply Supplied.append
      · apply Supplied.flatMap
        intro child hc
        exact (ih child hc).mono (schemas_child_subset hc)
      · apply supplied_ownRequests (List.subset_append_right _ _)
        intro child hc
        apply List.mem_append_left
        rw [List.map_flatMap]
        refine List.mem_flatMap.mpr ⟨child, hc, ?_⟩
        rw [postorder_eq, List.flatMap_append, List.flatMap_singleton, List.map_append]
        exact List.mem_append_right _ (lower_mem_ownRequests child)

end Supplies

/-! ## Counts -/

/-- How often a node asks for a combinator. -/
def demand {S : Type} (node : Slice S) : Call → Nat
  | .string => node.ownFields.countP Field.isText
  | .object =>
    (if node.key.isSome then 1 else 0) + if node.kind = .multi then node.ownFields.length else 0
  | .array => if node.kind = .array then 1 else 0
  | .allOf =>
    if node.kind = .multi ∨ node.kind = .object ∧ 2 ≤ node.children.length then 1 else 0
  | .never => 0

section Counts

/-- A field makes one object, and one string if it is a text. -/
theorem count_fieldRequests (fields : List (Field V)) (call : Call) :
    ((fields.flatMap (fieldRequests E)).map Request.call).count call =
      (if call = .string then fields.countP Field.isText else 0) +
        if call = .object then fields.length else 0 := by
  induction fields with
  | nil => simp
  | cons field rest ih =>
      rw [List.flatMap_cons, List.map_append, List.count_append, ih, List.countP_cons,
        List.length_cons]
      cases call <;> cases field <;>
        simp [fieldRequests, Field.isText, Request.call, Nat.add_comm]

theorem count_ownRequests (node : Slice V) (call : Call) :
    ((ownRequests E node).map Request.call).count call = node.demand call := by
  cases node with
  | leaf field =>
      have counts := count_fieldRequests E [field] call
      rw [List.flatMap_singleton] at counts
      rw [ownRequests, counts]
      cases call <;> cases field <;> rfl
  | multi main others =>
      rw [ownRequests, List.map_append, List.count_append, count_fieldRequests]
      cases call <;> simp [demand, ownFields, kind, Slice.key, Request.call]
  | array key child => cases call <;> rfl
  | object key children =>
      obtain ⟨first, rest⟩ := children
      cases rest <;> cases call <;> simp [ownRequests, joined, demand, ownFields, kind, Slice.key,
        Request.call, Slice.children, NonEmpty.map]

/-- The requests of a slice are counted node by node. -/
theorem count_requests (slice : Slice V) (call : Call) :
    ((slice.requests E).map Request.call).count call =
      (slice.postorder.map (·.demand call)).sum := by
  rw [requests_eq, List.map_flatMap, List.count_flatMap]
  exact congrArg List.sum (List.map_congr_left fun node _ => count_ownRequests E node call)

theorem widths_ownRequests (node : Slice V) :
    (ownRequests E node).filterMap Request.width? = [node.parts].filter (2 ≤ ·) := by
  have fields (fields : List (Field V)) :
      (fields.flatMap (fieldRequests E)).filterMap Request.width? = [] := by
    rw [List.filterMap_eq_nil_iff]
    intro request hr
    obtain ⟨field, -, hr⟩ := List.mem_flatMap.mp hr
    cases field <;> simp [fieldRequests] at hr
    · obtain rfl | rfl := hr <;> rfl
    · rw [hr]; rfl
  cases node with
  | leaf field => cases field <;> rfl
  | multi main others =>
      have several : 2 ≤ (multi main others).parts := by
        simp [parts, auxiliary, NonEmpty.length]
      rw [ownRequests, List.filterMap_append, fields, List.filter_cons_of_pos (by simpa)]
      simp [Request.width?, parts, NonEmpty.length, Nat.add_comm]
  | array key child => rfl
  | object key children =>
      obtain ⟨first, rest⟩ := children
      cases rest with
      | nil => rfl
      | cons second rest =>
          have several : 2 ≤ (object key ⟨first, second :: rest⟩).parts := by
            simp [parts, Slice.children]
          rw [List.filter_cons_of_pos (by simpa)]
          simp [ownRequests, joined, parts, Request.width?, Slice.children, NonEmpty.map,
            NonEmpty.length, Nat.add_comm]

/-- Only conjunctions of two and more are asked for. -/
theorem widths_requests (slice : Slice V) :
    (slice.requests E).filterMap Request.width? =
      (slice.postorder.map parts).filter (2 ≤ ·) := by
  rw [requests_eq, List.filterMap_flatMap]
  induction slice.postorder with
  | nil => rfl
  | cons node rest ih =>
      rw [List.flatMap_cons, ih, widths_ownRequests, List.map_cons, ← List.filter_append]
      rfl

/-- An object that is asked for has one field. -/
theorem single_ownRequests (node : Slice V) {fields : List (String × V)}
    (h : .object fields ∈ ownRequests E node) : fields.length = 1 := by
  have single (field : Field V) (h : .object fields ∈ fieldRequests E field) :
      fields.length = 1 := by
    cases field <;> simp [fieldRequests] at h <;> rw [h] <;> rfl
  cases node with
  | leaf field => exact single field h
  | multi main others =>
      obtain h | h := List.mem_append.mp h
      · obtain ⟨field, -, h⟩ := List.mem_flatMap.mp h
        exact single field h
      · cases List.mem_singleton.mp h
  | array key child =>
      simp [ownRequests] at h
      rw [h]
      rfl
  | object key children =>
      obtain ⟨first, rest⟩ := children
      cases rest <;> simp [ownRequests, joined, NonEmpty.map] at h <;> rw [h] <;> rfl

end Counts

end Slice

/-! ## The discipline -/

/-- What holds of the requests that an engine gets for a slice. -/
structure Disciplined {V : Type} (E : Engine Id V) (slice : Slice V)
    (requests : List (Request V)) : Prop where
  postorder : requests = slice.postorder.flatMap (Slice.ownRequests E)
  supplied : E.Supplied slice.schemas requests
  never : .never ∉ requests
  single : ∀ fields, .object fields ∈ requests → fields.length = 1
  several : ∀ operands, .allOf operands ∈ requests → 2 ≤ operands.length
  widths : requests.filterMap Request.width? =
    (slice.postorder.map Slice.parts).filter (2 ≤ ·)
  counts : ∀ call, (requests.map Request.call).count call =
    (slice.postorder.map (·.demand call)).sum

/-- Every engine is used with discipline, and the requests are those that the engine of terms
records. -/
theorem disciplined_requests :
    (∀ {V : Type} (E : Engine Id V) (slice : Slice V),
      Disciplined E slice (slice.requests E)) ∧
    ∀ {D : Type} (slice : Slice (Term D)),
      Term.ofSlice slice =
        (slice.lower Term.engine, (slice.requests Term.engine).map Request.call) := by
  refine ⟨fun E slice => ?_, fun {D} slice => ?_⟩
  · have widths := Slice.widths_requests E slice
    have counts := Slice.count_requests E slice
    have postorder := Slice.requests_eq E slice
    constructor
    case postorder => exact postorder
    case supplied =>
      rw [postorder]
      exact Slice.supplied_postorder slice
    case never =>
      intro h
      have none : ((slice.requests E).map Request.call).count .never = 0 := by
        rw [counts]
        simp [Slice.demand]
      exact List.count_eq_zero.mp none (List.mem_map_of_mem h)
    case single =>
      intro fields h
      rw [postorder] at h
      obtain ⟨node, -, h⟩ := List.mem_flatMap.mp h
      exact Slice.single_ownRequests E node h
    case several =>
      intro operands h
      have width : operands.length ∈ (slice.requests E).filterMap Request.width? :=
        List.mem_filterMap.mpr ⟨_, h, rfl⟩
      rw [widths, List.mem_filter] at width
      exact of_decide_eq_true width.2
    case widths => exact widths
    case counts => exact counts
  · have run := Slice.run_lowerM_noting Term.engine (fun request => [request.call]) slice
    rw [noting_calls] at run
    rw [Term.ofSlice, run, Slice.requests_eq, List.map_eq_flatMap]

end SliceContract
