import SliceContract.Engine.Basic
import SliceContract.Event
import SliceContract.Slice.Duplicates

/-!
# Lowering slices

A slice is lowered by recursion on its shape. A field becomes an object with one member; an array
or object slice nests what its children become under its own key; a multi slice has no key, so its
fields land beside each other.
-/

namespace SliceContract

namespace Slice

variable {m : Type → Type} [Monad m] {V : Type}

/-- An object with the field's key, whose member is a string or follows the field's schema. -/
def lowerField (engine : Engine m V) : Field V → m V
  | .text key => do
    let value ← engine.string
    engine.object [(key, value)]
  | .data key schema => engine.object [(key, schema)]

def lowerFields (engine : Engine m V) : List (Field V) → m (List V)
  | [] => pure []
  | field :: rest => do
    let value ← lowerField engine field
    let values ← lowerFields engine rest
    return value :: values

/-- Report each shared key of a slice under the given parent. -/
def reportShared (observe : Event → m Unit) (parent : String) : List String → m Unit
  | [] => pure ()
  | key :: rest => do
    observe (.sharedKey parent key)
    reportShared observe parent rest

/-- Lower a slice through an engine, reporting every slice before it is lowered. Children are
lowered in their order, and before the combinator that joins them is called. -/
def lowerM (engine : Engine m V) (observe : Event → m Unit) : Slice V → m V
  | leaf field => do
    observe (.lowering (leaf field).kind (some field.key))
    lowerField engine field
  | multi main others => do
    observe (.lowering .multi none)
    reportShared observe main.key (multi main others).duplicateKeys
    let fields ← lowerFields engine (main :: auxiliary others)
    engine.merge fields
  | array key child => do
    observe (.lowering .array (some key))
    let element ← lowerM engine observe child
    let value ← engine.array element
    engine.object [(key, value)]
  | object key ⟨first, rest⟩ => do
    observe (.lowering .object (some key))
    reportShared observe key (object key ⟨first, rest⟩).duplicateKeys
    let head ← lowerM engine observe first
    let tail ← lowerAll engine observe rest
    let value ← engine.merge (head :: tail)
    engine.object [(key, value)]
where
  lowerAll (engine : Engine m V) (observe : Event → m Unit) : List (Slice V) → m (List V)
    | [] => pure []
    | child :: rest => do
      let value ← lowerM engine observe child
      let values ← lowerAll engine observe rest
      return value :: values

/-- Lower a slice through an engine without effects. -/
def lower (engine : Engine Id V) (slice : Slice V) : V :=
  Id.run (slice.lowerM engine fun _ => pure ())

/-- An engine without effects as one that may keep a log. -/
def logging (engine : Engine Id V) : Engine (StateM (List Event)) V where
  string := pure engine.string.run
  object fields := pure (engine.object fields).run
  array element := pure (engine.array element).run
  allOf validators := pure (engine.allOf validators).run
  never := pure engine.never.run

/-- The events of lowering a slice, in their order. -/
def loweringEvents (engine : Engine Id V) (slice : Slice V) : List Event :=
  ((slice.lowerM (logging engine) fun event => modify (· ++ [event])).run []).2

end Slice

end SliceContract
