import SliceContract.Proofs.Slice.Script
import SliceContract.Validator

/-!
# The events of a lowering

Whatever the engine, a lowering reports the nodes of the slice in pre-order, and directly after each
node the keys that are shared there. The main statement is `loweringEvents_preorder`.
-/

namespace SliceContract

open Slice

variable {V : Type}

namespace Slice

theorem logs_modify (event : Event) :
    Logs (modify (· ++ [event]) : StateM (List Event) Unit) () [event] := by
  intro log
  rfl

/-- A lowering that keeps a log makes the same validator as one without, and adds the events of the
nodes in pre-order. -/
theorem logs_logging (E : Engine Id V) (slice : Slice V) :
    Logs (slice.lowerM (logging E) fun event => modify (· ++ [event])) (slice.lower E)
      (slice.preorder.flatMap ownEvents) := by
  have run := logs_lowerM E (fun _ => []) logs_modify slice
  have events : entering (S := V) (fun event => [event]) = ownEvents := by
    funext node
    exact List.flatMap_singleton' _
  have requests : leaving E (fun _ => ([] : List Event)) = fun _ => [] := by
    funext node
    simp [leaving]
  rwa [Engine.noting_nothing, events, requests, walk_enter] at run

/-- Lowering reports on the nodes in pre-order. -/
theorem loweringEvents_eq (E : Engine Id V) (slice : Slice V) :
    slice.loweringEvents E = slice.preorder.flatMap ownEvents :=
  congrArg Prod.snd (logs_logging E slice [])

/-- A node is reported by a trace, and each key that is shared there by a warning. -/
theorem levels_ownEvents (node : Slice V) :
    node.ownEvents.map (·.record.level) =
      .trace :: List.replicate node.duplicateKeys.length .warn := by
  obtain ⟨kind, key, parent, events⟩ := node.ownEvents_eq
  rw [events, List.map_cons, List.map_map]
  exact congrArg (Event.Level.trace :: ·) List.map_const

end Slice

/-- One run compiles a slice, or finds that this cannot be done, and emits the events of that. -/
theorem Validator.compile_run (slice : Slice Schema) (o : Options) :
    (Validator.compile slice o).run [] = (ofSlice slice o, compileEvents slice o) := by
  have lowered : Logs (do
      let schema ← slice.lowerM (logging Schema.engine) fun event => modify (· ++ [event])
      return ofSchema schema o) (ofSlice slice o) (slice.preorder.flatMap ownEvents) :=
    (logs_logging Schema.engine slice).map
  rw [compileEvents, loweringEvents_eq]
  exact (logs_modify (.compiling slice.kind slice.depth o.draft)).bind lowered []

/-- The events of a lowering are those of the nodes in pre-order, so there are as many traces as
nodes; when a slice is compiled, its depth is reported before them, for debugging. -/
theorem loweringEvents_preorder :
    (∀ (E : Engine Id V) (slice : Slice V),
      slice.loweringEvents E = slice.preorder.flatMap ownEvents ∧
        (slice.loweringEvents E).countP (·.record.level = .trace) = slice.preorder.length) ∧
    (∀ node : Slice V, node.ownEvents.map (·.record.level) =
      .trace :: List.replicate node.duplicateKeys.length .warn) ∧
    ∀ (slice : Slice Schema) (o : Options), ∃ event,
      Validator.compileEvents slice o = event :: slice.preorder.flatMap ownEvents ∧
        event = .compiling slice.kind slice.depth o.draft ∧ event.record.level = .debug := by
  refine ⟨fun E slice => ⟨loweringEvents_eq E slice, ?_⟩, levels_ownEvents, fun slice o => ?_⟩
  · have once (node : Slice V) : node.ownEvents.countP (·.record.level = .trace) = 1 := by
      calc node.ownEvents.countP (·.record.level = .trace)
        _ = (node.ownEvents.map (·.record.level)).countP (· = .trace) := by
            rw [List.countP_map]
            rfl
        _ = 1 := by
            rw [levels_ownEvents, List.countP_cons, List.countP_replicate]
            rfl
    rw [loweringEvents_eq, List.countP_flatMap]
    simp [Function.comp_def, once]
  · refine ⟨_, ?_, rfl, rfl⟩
    rw [Validator.compileEvents, loweringEvents_eq]

end SliceContract
