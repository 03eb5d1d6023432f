/-!
# Sequences with at least one element

A head and a tail. The view `toList` forgets that the sequence is not empty; every operation is
described by what it does to that view.
-/

namespace SliceContract

structure NonEmpty (α : Type _) where
  head : α
  tail : List α
  deriving DecidableEq, Repr

namespace NonEmpty

variable {α β : Type _}

def singleton (head : α) : NonEmpty α := ⟨head, []⟩

def toList (xs : NonEmpty α) : List α := xs.head :: xs.tail

@[simp] theorem toList_mk (head : α) (tail : List α) :
    (⟨head, tail⟩ : NonEmpty α).toList = head :: tail := rfl

@[simp] theorem toList_singleton (head : α) : (singleton head).toList = [head] := rfl

theorem toList_ne_nil (xs : NonEmpty α) : xs.toList ≠ [] := List.cons_ne_nil _ _

/-- The elements of a list, if it has any. -/
def ofList? : List α → Option (NonEmpty α)
  | [] => none
  | head :: tail => some ⟨head, tail⟩

@[simp] theorem ofList?_toList (xs : NonEmpty α) : ofList? xs.toList = some xs := rfl

def length (xs : NonEmpty α) : Nat := 1 + xs.tail.length

@[simp] theorem length_toList (xs : NonEmpty α) : xs.toList.length = xs.length := by
  simp [toList, length, Nat.add_comm]

/-- Apply an effectful function once to each element, the head first. -/
def mapM {m : Type _ → Type _} [Monad m] (f : α → m β) (xs : NonEmpty α) : m (NonEmpty β) := do
  let head ← f xs.head
  let tail ← xs.tail.mapM f
  return ⟨head, tail⟩

def map (f : α → β) (xs : NonEmpty α) : NonEmpty β := ⟨f xs.head, xs.tail.map f⟩

@[simp] theorem toList_map (f : α → β) (xs : NonEmpty α) :
    (xs.map f).toList = xs.toList.map f := rfl

theorem ext_toList {xs ys : NonEmpty α} (h : xs.toList = ys.toList) : xs = ys := by
  cases xs
  cases ys
  simpa using h

/-- Equality up to a relation on elements. -/
def eqBy (same : α → α → Bool) (xs ys : NonEmpty α) : Bool :=
  same xs.head ys.head && xs.tail.isEqv ys.tail same

/-- The head put into an empty array, and the tail behind it. -/
def toArray (xs : NonEmpty α) : Array α := #[].push xs.head ++ xs.tail

/-- The elements in brackets, separated by commas. -/
def render (item : α → String) (xs : NonEmpty α) : String :=
  "[" ++ ", ".intercalate (xs.toList.map item) ++ "]"

/-- A walk along a sequence: the head until it is taken, and what is left of the tail. -/
structure Walk (α : Type _) where
  head? : Option α
  rest : List α

def walk (xs : NonEmpty α) : Walk α := ⟨some xs.head, xs.tail⟩

namespace Walk

/-- The next element, and the walk after it. -/
def next? : Walk α → Option (α × Walk α)
  | ⟨some x, rest⟩ => some (x, ⟨none, rest⟩)
  | ⟨none, x :: rest⟩ => some (x, ⟨none, rest⟩)
  | ⟨none, []⟩ => none

/-- How many elements the walk still comes to. -/
def length (w : Walk α) : Nat := w.head?.toList.length + w.rest.length

theorem length_of_next? {w w' : Walk α} {x : α} (h : w.next? = some (x, w')) :
    w.length = w'.length + 1 := by
  obtain ⟨head?, rest⟩ := w
  cases head? with
  | some y =>
    cases h
    simp [length, Nat.add_comm]
  | none =>
    cases rest with
    | nil => cases h
    | cons y rest =>
      cases h
      simp [length]

/-- Take the elements one after the other, until there are no more. -/
def collect (w : Walk α) : List α :=
  match _h : w.next? with
  | none => []
  | some (x, w') => x :: collect w'
termination_by w.length
decreasing_by
  rw [length_of_next? _h]
  exact Nat.lt_succ_self _

end Walk

end NonEmpty

end SliceContract
