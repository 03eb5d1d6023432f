import SliceContract.NonEmpty

/-!
# Engines

The combinators that a slice is lowered to. They live in a monad, so that an engine may also
record how it is used; an engine without effects lives in `Id`.
-/

namespace SliceContract

structure Engine (m : Type → Type) (V : Type) where
  /-- Accepts only strings. -/
  string : m V
  /-- Accepts objects in which every listed field is present and accepted by its validator. -/
  object : List (String × V) → m V
  /-- Accepts arrays whose every element is accepted. -/
  array : V → m V
  /-- Accepts what every validator accepts. -/
  allOf : NonEmpty V → m V
  /-- Accepts nothing. -/
  never : m V

namespace Engine

variable {m : Type → Type} [Monad m] {V : Type}

/-- Combine validators: nothing is accepted by no validator, one validator stands for itself, and
more are intersected in their order. -/
def merge (engine : Engine m V) : List V → m V
  | [] => engine.never
  | [only] => pure only
  | first :: second :: rest => engine.allOf ⟨first, second :: rest⟩

@[simp] theorem merge_nil (engine : Engine m V) : engine.merge [] = engine.never := rfl

@[simp] theorem merge_singleton (engine : Engine m V) (v : V) : engine.merge [v] = pure v := rfl

end Engine

end SliceContract
