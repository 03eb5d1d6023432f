import SliceContract.Slice.Lowering

/-!
# Terms

The engine that builds terms: every combinator is a constructor, so a lowered slice shows how it
was put together. The second engine here also records the combinators in the order of their use.
-/

namespace SliceContract

inductive Term (D : Type) where
  | data (value : D)
  | string
  | object (fields : List (String × Term D))
  | array (element : Term D)
  | allOf (operands : NonEmpty (Term D))
  | never

inductive Engine.Call where
  | string
  | object
  | array
  | allOf
  | never
  deriving DecidableEq, Repr

namespace Term

variable {D : Type}

def engine : Engine Id (Term D) where
  string := pure .string
  object fields := pure (.object fields)
  array element := pure (.array element)
  allOf operands := pure (.allOf operands)
  never := pure .never

/-- Record a call and build the term. -/
def recorded (call : Engine.Call) (term : Term D) : StateM (List Engine.Call) (Term D) := do
  modify (· ++ [call])
  return term

def recordingEngine : Engine (StateM (List Engine.Call)) (Term D) where
  string := recorded .string .string
  object fields := recorded .object (.object fields)
  array element := recorded .array (.array element)
  allOf operands := recorded .allOf (.allOf operands)
  never := recorded .never .never

/-- Lower a slice to a term, with the combinators called for it. -/
def ofSlice (slice : Slice (Term D)) : Term D × List Engine.Call :=
  (slice.lowerM recordingEngine fun _ => pure ()).run []

/-- Merge terms, with the combinators called for it. -/
def merge (terms : List (Term D)) : Term D × List Engine.Call :=
  (recordingEngine.merge terms).run []

end Term

end SliceContract
