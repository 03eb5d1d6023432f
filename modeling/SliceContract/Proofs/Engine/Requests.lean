import Mathlib.Data.List.Basic
import SliceContract.Engine.Term

/-!
# Requests to an engine

An engine without effects can be watched: it answers as before, and what it is asked for goes into a
log. Computations that only add to a log compose by what they add.
-/

namespace SliceContract

/-! ## Computations that add to a log -/

/-- Add entries to the log and return a value. -/
def write {A V : Type} (entries : List A) (v : V) : StateM (List A) V := do
  modify (· ++ entries)
  return v

/-- Whether a computation returns the value and adds the entries to the log, whatever the log is
before. -/
def Logs {A V : Type} (x : StateM (List A) V) (v : V) (entries : List A) : Prop :=
  ∀ log, x.run log = (v, log ++ entries)

namespace Logs

variable {A V W : Type} {entries entries' : List A} {v : V} {w : W}

theorem write (entries : List A) (v : V) : Logs (SliceContract.write entries v) v entries := by
  intro log
  rfl

theorem pure (v : V) : Logs (Pure.pure v : StateM (List A) V) v [] := by
  intro log
  rw [List.append_nil]
  rfl

theorem bind {x : StateM (List A) V} {f : V → StateM (List A) W} (hx : Logs x v entries)
    (hf : Logs (f v) w entries') : Logs (x >>= f) w (entries ++ entries') := by
  intro log
  calc (x >>= f).run log
    _ = (f (x.run log).1).run (x.run log).2 := rfl
    _ = (f v).run (log ++ entries) := by rw [hx log]
    _ = (w, log ++ (entries ++ entries')) := by rw [hf, List.append_assoc]

theorem map {x : StateM (List A) V} {f : V → W} (hx : Logs x v entries) :
    Logs (x >>= fun v => Pure.pure (f v)) (f v) entries := by
  intro log
  calc (x >>= fun v => Pure.pure (f v)).run log
    _ = (f (x.run log).1, (x.run log).2) := rfl
    _ = (f v, log ++ entries) := by rw [hx log]

end Logs

namespace Engine

/-! ## Requests -/

/-- A combinator that an engine is asked for, with what it is given. -/
inductive Request (V : Type) where
  | string
  | object (fields : List (String × V))
  | array (element : V)
  | allOf (operands : NonEmpty V)
  | never

namespace Request

variable {V : Type}

/-- The combinator that a request is for. -/
def call : Request V → Call
  | string => .string
  | object _ => .object
  | array _ => .array
  | allOf _ => .allOf
  | never => .never

/-- The validators that a combinator is given. -/
def operands : Request V → List V
  | string => []
  | object fields => fields.map (·.2)
  | array element => [element]
  | allOf operands => operands.toList
  | never => []

/-- How many validators an intersection is asked for of. -/
def width? : Request V → Option Nat
  | allOf operands => some operands.length
  | _ => none

end Request

variable {A V : Type}

/-- The validator that an engine builds on request. -/
def answer (E : Engine Id V) : Request V → V
  | .string => E.string.run
  | .object fields => (E.object fields).run
  | .array element => (E.array element).run
  | .allOf operands => (E.allOf operands).run
  | .never => E.never.run

/-- The engine that answers like another one and notes each request in a log. -/
def noting (E : Engine Id V) (note : Request V → List A) : Engine (StateM (List A)) V where
  string := write (note .string) (E.answer .string)
  object fields := write (note (.object fields)) (E.answer (.object fields))
  array element := write (note (.array element)) (E.answer (.array element))
  allOf operands := write (note (.allOf operands)) (E.answer (.allOf operands))
  never := write (note .never) (E.answer .never)

/-- An engine that notes nothing only carries the log along. -/
theorem noting_nothing (E : Engine Id V) : E.noting (fun _ => []) = Slice.logging E := by
  have pure (v : V) : write ([] : List Event) v = Pure.pure v := by
    funext log
    exact (Logs.write [] v log).trans (Logs.pure v log).symm
  simp only [noting, pure]
  rfl

theorem noting_calls (D : Type) :
    Term.engine.noting (fun request => [request.call]) = Term.recordingEngine (D := D) := rfl

/-- The requests for a merge: several validators are intersected by one request, and a single one
stands for itself. -/
def joined : NonEmpty V → List (Request V)
  | ⟨_, []⟩ => []
  | ⟨first, second :: rest⟩ => [.allOf ⟨first, second :: rest⟩]

/-- Merging notes the conjunction that it asks for, if there is more than one operand. -/
theorem logs_merge (E : Engine Id V) (note : Request V → List A) (vs : NonEmpty V) :
    Logs ((E.noting note).merge vs.toList) (E.merge vs.toList).run ((joined vs).flatMap note) := by
  match vs with
  | ⟨only, []⟩ => exact .pure only
  | ⟨first, second :: rest⟩ =>
      rw [joined, List.flatMap_singleton]
      exact .write _ _

/-! ## Supplies -/

/-- Whether every validator that a request is given is in stock from the start, or was built on an
earlier request. -/
def Supplied (E : Engine Id V) (stock : List V) : List (Request V) → Prop
  | [] => True
  | request :: rest =>
    request.operands ⊆ stock ∧ Supplied E (E.answer request :: stock) rest

namespace Supplied

variable {E : Engine Id V} {stock stock' : List V} {requests requests' : List (Request V)}

theorem mono (h : E.Supplied stock requests) (sub : stock ⊆ stock') :
    E.Supplied stock' requests := by
  induction requests generalizing stock stock' with
  | nil => trivial
  | cons request rest ih =>
      obtain ⟨given, later⟩ := h
      exact ⟨List.Subset.trans given sub, ih later (List.cons_subset_cons _ sub)⟩

/-- After requests that are supplied, more is in stock. -/
theorem append (h : E.Supplied stock requests)
    (h' : E.Supplied (requests.map E.answer ++ stock) requests') :
    E.Supplied stock (requests ++ requests') := by
  induction requests generalizing stock with
  | nil => exact h'
  | cons request rest ih =>
      obtain ⟨given, later⟩ := h
      refine ⟨given, ih later (h'.mono ?_)⟩
      intro v hv
      simp only [List.map_cons, List.mem_append, List.mem_cons] at hv ⊢
      tauto

theorem flatMap {α : Type*} {xs : List α} {f : α → List (Request V)}
    (h : ∀ x ∈ xs, E.Supplied stock (f x)) : E.Supplied stock (xs.flatMap f) := by
  induction xs with
  | nil => trivial
  | cons x rest ih =>
      obtain ⟨first, others⟩ := List.forall_mem_cons.mp h
      rw [List.flatMap_cons]
      exact first.append ((ih others).mono (List.subset_append_right _ _))

end Supplied

end Engine

end SliceContract
