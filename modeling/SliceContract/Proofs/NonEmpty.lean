import Mathlib.Data.List.Basic
import SliceContract.NonEmpty

/-!
# Non-empty sequences as lists

The head of a sequence stands apart from its tail, so everything that is done with a sequence does
something about the head first. Whatever is done, the sequence that is held is the list that the
same operations make, if that list is not empty. The main statement is `ofList?_iff_represents`.
-/

namespace SliceContract

universe u v

namespace NonEmpty

/-! ## Reading a sequence -/

section Readers

variable {α : Type u} (xs : NonEmpty α)

namespace Walk

theorem collect_tail (rest : List α) : (⟨none, rest⟩ : Walk α).collect = rest := by
  induction rest with
  | nil =>
      rw [collect]
      rfl
  | cons x rest ih =>
      rw [collect]
      exact congrArg (x :: ·) ih

end Walk

theorem collect_walk : xs.walk.collect = xs.toList := by
  rw [Walk.collect]
  exact congrArg (xs.head :: ·) (Walk.collect_tail xs.tail)

theorem toList_toArray : xs.toArray.toList = xs.toList := by
  simp [toArray, toList]

theorem eqBy_eq (same : α → α → Bool) (xs ys : NonEmpty α) :
    xs.eqBy same ys = xs.toList.isEqv ys.toList same := rfl

/-- A sequence is known by its list. -/
theorem toList_inj {xs ys : NonEmpty α} : xs.toList = ys.toList ↔ xs = ys :=
  ⟨ext_toList, congrArg toList⟩

/-- What a sequence has to do with the list of its elements: both walks and the array come to the
elements in their order, and the list is read where the sequence is. -/
structure Represents (xs : NonEmpty α) (elements : List α) : Prop where
  walked : xs.walk.collect = elements
  gathered : xs.toArray.toList = elements
  length_eq : xs.length = elements.length
  one_le : 1 ≤ xs.length
  head_eq : elements.head? = some xs.head
  tail_eq : elements.tail = xs.tail
  remade : ofList? xs.toArray.toList = some xs

/-- Whatever can be observed of a sequence can be observed of its list. -/
theorem represents_toList : xs.Represents xs.toList where
  walked := collect_walk xs
  gathered := toList_toArray xs
  length_eq := (length_toList xs).symm
  one_le := Nat.le_add_right 1 xs.tail.length
  head_eq := rfl
  tail_eq := rfl
  remade := by rw [toList_toArray, ofList?_toList]

/-- Only the empty list makes no sequence. -/
theorem ofList?_eq_none_iff {elements : List α} : ofList? elements = none ↔ elements = [] := by
  cases elements with
  | nil => exact iff_of_true rfl rfl
  | cons x rest => exact iff_of_false nofun nofun

theorem ofList?_eq_some_iff {elements : List α} {xs : NonEmpty α} :
    ofList? elements = some xs ↔ elements = xs.toList := by
  constructor
  · intro made
    cases elements with
    | nil => cases made
    | cons x rest =>
        cases made
        rfl
  · rintro rfl
    exact ofList?_toList xs

end Readers

/-! ## Making a sequence -/

/-- Operations one after the other on what is held: a sequence is made of one element, of an element
and others, or of a list, in place of the one before, or a function is applied to its elements. -/
inductive Construction (m : Type u → Type v) : Type u → Type (max (u + 1) v) where
  | nothing {α : Type u} : Construction m α
  | singleton {α β : Type u} (before : Construction m α) (head : β) : Construction m β
  | parts {α β : Type u} (before : Construction m α) (head : β) (tail : List β) : Construction m β
  | list {α β : Type u} (before : Construction m α) (elements : List β) : Construction m β
  | map {α β : Type u} (before : Construction m α) (f : α → m β) : Construction m β

namespace Construction

variable {m : Type u → Type v} [Monad m] {α β : Type u}

/-- Apply a function to the elements of the sequence that is held, if there is one. -/
def mapHeld (f : α → m β) : Option (NonEmpty α) → m (Option (NonEmpty β))
  | none => pure none
  | some xs => some <$> xs.mapM f

/-- The sequence that is held after a construction, if there is one. -/
def held {α : Type u} : Construction m α → m (Option (NonEmpty α))
  | nothing => pure none
  | singleton before head => do
    let _ ← before.held
    return some (.singleton head)
  | parts before head tail => do
    let _ ← before.held
    return some ⟨head, tail⟩
  | list before elements => do
    let _ ← before.held
    return ofList? elements
  | map before f => do
    let held? ← before.held
    mapHeld f held?

/-- The list that the same operations make of lists. -/
def listed {α : Type u} : Construction m α → m (List α)
  | nothing => pure []
  | singleton before head => do
    let _ ← before.listed
    return [head]
  | parts before head tail => do
    let _ ← before.listed
    return head :: tail
  | list before elements => do
    let _ ← before.listed
    return elements
  | map before f => do
    let elements ← before.listed
    elements.mapM f

section

variable [LawfulMonad m]

/-- The function is applied to the elements as they are listed, with the same effects. -/
theorem mapHeld_ofList? (f : α → m β) (elements : List α) :
    mapHeld f (ofList? elements) = ofList? <$> elements.mapM f := by
  cases elements with
  | nil => simp [ofList?, mapHeld]
  | cons x rest => simp [ofList?, mapHeld, mapM]

/-- One operation after the other, what is held stays the list that has been made. -/
theorem held_eq {α : Type u} (c : Construction m α) : c.held = ofList? <$> c.listed := by
  induction c with
  | nothing => simp [held, listed, ofList?]
  | singleton before head ih => simp [held, listed, ih, ofList?, NonEmpty.singleton]
  | parts before head tail ih => simp [held, listed, ih, ofList?]
  | list before elements ih => simp [held, listed, ih]
  | map before f ih =>
      rw [held, listed, ih, map_bind, bind_map_left]
      exact bind_congr fun elements => mapHeld_ofList? f elements

end

end Construction

/-- Without effects a function is applied all at once. -/
theorem mapM_pure {m : Type u → Type v} [Monad m] [LawfulMonad m] {α β : Type u} (f : α → β)
    (xs : NonEmpty α) : (xs.mapM fun x => (pure (f x) : m β)) = pure (xs.map f) := by
  simp [mapM, map]

end NonEmpty

open NonEmpty

/-- Whatever is done, with functions of any state, the sequence that is held is the one of the list
that the same operations make, and a function without effects leaves the state alone. A list has a
sequence unless it is empty, and the sequence represents it; sequences are equal when their lists
are. -/
theorem ofList?_iff_represents :
    (∀ {σ α : Type u} (c : Construction (StateM σ) α), c.held = ofList? <$> c.listed) ∧
      (∀ {σ α β : Type u} (f : α → β) (xs : NonEmpty α),
        (xs.mapM fun x => (pure (f x) : StateM σ β)) = pure (xs.map f)) ∧
      (∀ {α : Type u} (elements : List α), (ofList? elements = none ↔ elements = []) ∧
        ∀ xs, ofList? elements = some xs ↔ xs.Represents elements) ∧
      ∀ {α : Type u} (xs ys : NonEmpty α), (xs = ys ↔ xs.toList = ys.toList) ∧
        ∀ same, xs.eqBy same ys = xs.toList.isEqv ys.toList same := by
  refine ⟨fun c => c.held_eq, mapM_pure, fun elements => ⟨ofList?_eq_none_iff, fun xs => ?_⟩,
    fun xs ys => ⟨toList_inj.symm, fun same => eqBy_eq same xs ys⟩⟩
  rw [ofList?_eq_some_iff]
  constructor
  · rintro rfl
    exact represents_toList xs
  · intro represents
    rw [← represents.walked, collect_walk]

-- Numbers are given out to the head first.
example : ((NonEmpty.mk "a" ["b", "c"]).mapM (m := StateM Nat) fun s =>
    modifyGet fun i => (toString i ++ s, i + 1)).run 0 = (⟨"0a", ["1b", "2c"]⟩, 3) := by
  rfl

end SliceContract
