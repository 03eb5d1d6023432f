import SliceContract.Proofs.Engine.Requests
import SliceContract.Proofs.Slice.Nodes

/-!
# What happens while a slice is lowered

Lowering has two effects: events are reported, and an engine is asked for validators. At every node
the events come first, then what happens inside the node, and then the requests for the node itself.
The main statement is `logs_lowerM`: it lets events and requests go into one log, and says what the
log has in the end.
-/

namespace SliceContract

namespace Slice

open Engine

/-! ## What happens at a node -/

/-- What is reported of a node: the node, and then each key that its fields or its children share,
with the key that they are found under, or the main key if they have none above them. -/
def ownEvents {S : Type} : Slice S → List Event
  | multi main others =>
    .lowering .multi none :: (multi main others).duplicateKeys.map (.sharedKey main.key)
  | object key children =>
    .lowering .object (some key) :: (object key children).duplicateKeys.map (.sharedKey key)
  | node => [.lowering node.kind node.key]

/-- A node is reported first, and then nothing but the keys that are shared there. -/
theorem ownEvents_eq {S : Type} (node : Slice S) : ∃ kind key parent,
    node.ownEvents = .lowering kind key :: node.duplicateKeys.map (.sharedKey parent) := by
  cases node with
  | leaf field => exact ⟨_, _, "", rfl⟩
  | multi main others => exact ⟨_, _, main.key, rfl⟩
  | array key child => exact ⟨_, _, "", rfl⟩
  | object key children => exact ⟨_, _, key, rfl⟩

variable {A V : Type} (E : Engine Id V)

/-- The requests for a field: a text field needs two, since its schema is built too. -/
def fieldRequests : Field V → List (Request V)
  | .text key => [.string, .object [(key, E.answer .string)]]
  | .data key v => [.object [(key, v)]]

/-- The requests for a node after those for the nodes inside it. -/
def ownRequests : Slice V → List (Request V)
  | leaf field => fieldRequests E field
  | multi main others =>
    (main :: auxiliary others).flatMap (fieldRequests E) ++
      [.allOf ⟨fieldValidator E main, (auxiliary others).map (fieldValidator E)⟩]
  | array key child =>
    [.array (child.lower E), .object [(key, E.answer (.array (child.lower E)))]]
  | object key children =>
    joined (children.map (lower E)) ++
      [.object [(key, (E.merge (children.toList.map (lower E))).run)]]

/-- What goes into a log for the events of a node. -/
def entering {S : Type} (report : Event → List A) (node : Slice S) : List A :=
  node.ownEvents.flatMap report

/-- What goes into a log for the requests of a node. -/
def leaving (note : Request V → List A) (node : Slice V) : List A :=
  (ownRequests E node).flatMap note

/-! ## What happens in a lowering -/

section Logs

variable (note : Request V → List A)

theorem logs_lowerField (field : Field V) :
    Logs (lowerField (E.noting note) field) (fieldValidator E field)
      ((fieldRequests E field).flatMap note) := by
  cases field with
  | text key =>
      rw [fieldRequests, List.flatMap_cons, List.flatMap_singleton]
      apply Logs.bind
      · exact .write _ _
      · exact .write _ _
  | data key v =>
      rw [fieldRequests, List.flatMap_singleton]
      exact .write _ _

theorem logs_lowerFields (fields : List (Field V)) :
    Logs (lowerFields (E.noting note) fields) (fields.map (fieldValidator E))
      ((fields.flatMap (fieldRequests E)).flatMap note) := by
  induction fields with
  | nil => exact .pure []
  | cons field rest ih =>
      rw [List.flatMap_cons, List.flatMap_append]
      apply Logs.bind
      · exact logs_lowerField E note field
      · exact ih.map

variable {observe : Event → StateM (List A) Unit} {report : Event → List A}
  (observed : ∀ event, Logs (observe event) () (report event))

include observed

theorem logs_reportShared (parent : String) (keys : List String) :
    Logs (reportShared observe parent keys) () ((keys.map (.sharedKey parent)).flatMap report) := by
  induction keys with
  | nil => exact .pure ()
  | cons key rest ih =>
      rw [List.map_cons, List.flatMap_cons]
      exact (observed _).bind ih

omit observed in
theorem logs_lowerAll {slices : List (Slice V)} {entries : Slice V → List A}
    (h : ∀ slice ∈ slices,
      Logs (slice.lowerM (E.noting note) observe) (slice.lower E) (entries slice)) :
    Logs (lowerM.lowerAll (E.noting note) observe slices) (slices.map (lower E))
      (slices.flatMap entries) := by
  induction slices with
  | nil => exact .pure []
  | cons slice rest ih =>
      obtain ⟨first, others⟩ := List.forall_mem_cons.mp h
      rw [List.flatMap_cons]
      exact first.bind (ih others).map

/-- The log of a lowering is that of a walk: the events of every node on the way in, and the
requests for it on the way out. -/
theorem logs_lowerM (slice : Slice V) :
    Logs (slice.lowerM (E.noting note) observe) (slice.lower E)
      (slice.walk (entering report) (leaving E note)) := by
  induction slice with
  | leaf field =>
      rw [walk_eq, lowerM, lower_leaf]
      simp only [entering, leaving, ownEvents, children, ownRequests, List.flatMap_singleton,
        List.flatMap_nil, List.append_nil]
      exact (observed _).bind (logs_lowerField E note field)
  | multi main others =>
      obtain ⟨first, rest⟩ := others
      rw [walk_eq, lowerM, lower_multi]
      simp only [entering, leaving, ownEvents, children, ownRequests, List.flatMap_nil,
        List.flatMap_append, List.append_nil]
      rw [List.flatMap_cons, List.append_assoc]
      apply (observed _).bind
      apply (logs_reportShared observed _ _).bind
      apply (logs_lowerFields E note _).bind
      -- There are at least two fields, so they are intersected.
      exact logs_merge E note ⟨_, _ :: _⟩
  | array key child ih =>
      rw [walk_eq, lowerM, lower_array]
      simp only [entering, leaving, ownEvents, children, ownRequests, List.flatMap_cons,
        List.flatMap_nil, List.append_nil, List.append_assoc]
      apply (observed _).bind
      apply ih.bind
      exact (Logs.write _ _).bind (.write _ _)
  | object key children ih =>
      obtain ⟨first, rest⟩ := children
      obtain ⟨head, others⟩ := List.forall_mem_cons.mp ih
      rw [walk_eq, lowerM, lower_object]
      simp only [entering, leaving, ownEvents, children, ownRequests, NonEmpty.toList,
        List.flatMap_cons, List.flatMap_nil, List.flatMap_append, List.append_nil,
        List.append_assoc]
      apply (observed _).bind
      apply (logs_reportShared observed _ _).bind
      apply head.bind
      apply (logs_lowerAll E note others).bind
      exact (logs_merge E note ⟨_, _⟩).bind (.write _ _)

end Logs

end Slice

end SliceContract
