import SliceContract.Slice.Lowering

/-!
# Lowering without effects

Through an engine without effects a slice is lowered by four equations, one for each of its shapes.
Reports of shared keys leave no trace in them.
-/

namespace SliceContract

namespace Slice

variable {S V : Type}

/-- Induction over the children of a slice. -/
@[elab_as_elim, induction_eliminator]
theorem induction {motive : Slice S → Prop} (leaf : ∀ field, motive (leaf field))
    (multi : ∀ main others, motive (multi main others))
    (array : ∀ key child, motive child → motive (array key child))
    (object : ∀ key children, (∀ child ∈ children.toList, motive child) →
      motive (object key children)) (slice : Slice S) : motive slice := by
  apply depth.induct (motive_1 := fun slices => ∀ s ∈ slices, motive s) (motive_2 := motive)
  case case1 => exact leaf
  case case2 => exact multi
  case case3 => exact array
  case case4 =>
    intro key first rest hfirst hrest
    exact object key ⟨first, rest⟩ (List.forall_mem_cons.mpr ⟨hfirst, hrest⟩)
  case case5 => exact List.forall_mem_nil _
  case case6 => exact fun _ _ hs hrest => List.forall_mem_cons.mpr ⟨hs, hrest⟩

/-- The validator of a field. -/
def fieldValidator (engine : Engine Id V) (field : Field V) : V := (lowerField engine field).run

theorem lowerFields_eq (engine : Engine Id V) (fields : List (Field V)) :
    lowerFields engine fields = fields.map (fieldValidator engine) := by
  induction fields with
  | nil => rfl
  | cons field rest ih => exact congrArg (fieldValidator engine field :: ·) ih

theorem lowerAll_eq (engine : Engine Id V) (slices : List (Slice V)) :
    lowerM.lowerAll (m := Id) engine (fun _ => pure ()) slices = slices.map (lower engine) := by
  induction slices with
  | nil => rfl
  | cons slice rest ih => exact congrArg (lower engine slice :: ·) ih

theorem lower_leaf (engine : Engine Id V) (field : Field V) :
    (leaf field).lower engine = fieldValidator engine field := rfl

theorem lower_multi (engine : Engine Id V) (main : Field V) (others : NonEmpty (String × V)) :
    (multi main others).lower engine =
      (engine.merge ((main :: auxiliary others).map (fieldValidator engine))).run := by
  rw [← lowerFields_eq]
  rfl

theorem lower_array (engine : Engine Id V) (key : String) (child : Slice V) :
    (array key child).lower engine =
      (engine.object [(key, (engine.array (child.lower engine)).run)]).run := rfl

theorem lower_object (engine : Engine Id V) (key : String) (children : NonEmpty (Slice V)) :
    (object key children).lower engine =
      (engine.object [(key, (engine.merge (children.toList.map (lower engine))).run)]).run := by
  rw [NonEmpty.toList, List.map_cons, ← lowerAll_eq]
  rfl

end Slice

end SliceContract
