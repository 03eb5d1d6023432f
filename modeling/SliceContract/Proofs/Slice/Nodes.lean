import Mathlib.Data.List.Basic
import SliceContract.Proofs.Slice.Lowering

/-!
# The nodes of a slice

The nodes of a slice are the slice itself and the slices inside it; the fields of a multi slice are
none. A walk comes to a node before the nodes inside it and leaves it after them, so what it lists
on the way in stands in pre-order, and what it lists on the way out in post-order.
-/

namespace SliceContract

namespace Slice

variable {S : Type} {α : Type*}

/-- The slices right inside a slice, in their order. -/
def children : Slice S → List (Slice S)
  | leaf _ => []
  | multi _ _ => []
  | array _ child => [child]
  | object _ children => children.toList

theorem node_induction {motive : Slice S → Prop}
    (step : ∀ slice, (∀ child ∈ slice.children, motive child) → motive slice) (slice : Slice S) :
    motive slice := by
  induction slice with
  | leaf field => exact step _ (List.forall_mem_nil _)
  | multi main others => exact step _ (List.forall_mem_nil _)
  | array key child ih => exact step _ (List.forall_mem_singleton.mpr ih)
  | object key children ih => exact step _ ih

/-! ## Walks -/

section Walk

variable (enter leave : Slice S → List α)

/-- What a walk through a slice lists: at every node `enter`, then what is listed inside, and then
`leave`. -/
def walk : Slice S → List α
  | leaf field => enter (leaf field) ++ leave (leaf field)
  | multi main others => enter (multi main others) ++ leave (multi main others)
  | array key child => enter (array key child) ++ walk child ++ leave (array key child)
  | object key ⟨first, rest⟩ =>
    enter (object key ⟨first, rest⟩) ++ (walk first ++ all rest) ++ leave (object key ⟨first, rest⟩)
where
  all : List (Slice S) → List α
    | [] => []
    | child :: rest => walk child ++ all rest

theorem walk_eq (slice : Slice S) :
    slice.walk enter leave =
      enter slice ++ slice.children.flatMap (walk enter leave) ++ leave slice := by
  have all (slices : List (Slice S)) :
      walk.all enter leave slices = slices.flatMap (walk enter leave) := by
    induction slices with
    | nil => rfl
    | cons slice rest ih => rw [walk.all, ih, List.flatMap_cons]
  cases slice with
  | leaf field => simp [walk, children]
  | multi main others => simp [walk, children]
  | array key child => simp [walk, children]
  | object key children => simp [walk, Slice.children, NonEmpty.toList, all]

end Walk

/-- The nodes of a slice, each before the nodes inside it. -/
def preorder (slice : Slice S) : List (Slice S) := slice.walk (fun node => [node]) fun _ => []

/-- The nodes of a slice, each after the nodes inside it. -/
def postorder (slice : Slice S) : List (Slice S) := slice.walk (fun _ => []) fun node => [node]

theorem preorder_eq (slice : Slice S) :
    slice.preorder = slice :: slice.children.flatMap preorder := by
  rw [preorder, walk_eq, List.append_nil]
  rfl

theorem postorder_eq (slice : Slice S) :
    slice.postorder = slice.children.flatMap postorder ++ [slice] := by
  rw [postorder, walk_eq, List.nil_append]
  rfl

/-- What is only listed on the way in is listed in pre-order. -/
theorem walk_enter (enter : Slice S → List α) (slice : Slice S) :
    slice.walk enter (fun _ => []) = slice.preorder.flatMap enter := by
  induction slice using node_induction with
  | step slice ih =>
      rw [walk_eq, preorder_eq, List.append_nil, List.flatMap_cons, List.flatMap_assoc]
      exact congrArg (enter slice ++ ·) (List.flatMap_congr ih)

/-- What is only listed on the way out is listed in post-order. -/
theorem walk_leave (leave : Slice S → List α) (slice : Slice S) :
    slice.walk (fun _ => []) leave = slice.postorder.flatMap leave := by
  induction slice using node_induction with
  | step slice ih =>
      rw [walk_eq, postorder_eq, List.nil_append, List.flatMap_append, List.flatMap_assoc,
        List.flatMap_singleton]
      exact congrArg (· ++ leave slice) (List.flatMap_congr ih)

end Slice

end SliceContract
