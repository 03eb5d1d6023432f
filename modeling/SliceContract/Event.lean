import SliceContract.JsonSchema.Draft
import SliceContract.Slice.Basic
import SliceContract.Text.Debug

/-!
# Diagnostic events

What the library reports while it works. An event is data; `record` gives its level, message and
fields as a log shows them.
-/

namespace SliceContract

inductive Event where
  /-- A slice is about to be lowered. -/
  | lowering (kind : Slice.Kind) (key : Option String)
  /-- Two siblings inside `parent` put content under the same key. -/
  | sharedKey (parent key : String)
  /-- A slice is about to be compiled into a validator. -/
  | compiling (kind : Slice.Kind) (depth : Nat) (draft : Draft)
  /-- A document had violations, about the given fields. -/
  | rejected (count : Nat) (fields : List String)
  /-- A tag was dropped on the way from YAML to JSON. -/
  | tagDropped (tag path : String)
  deriving DecidableEq, Repr

namespace Event

inductive Level where
  | trace
  | debug
  | warn
  deriving DecidableEq, Repr

def Level.name : Level → String
  | trace => "TRACE"
  | debug => "DEBUG"
  | warn => "WARN"

inductive Value where
  | text (value : String)
  | number (value : Nat)
  deriving DecidableEq, Repr

structure Record where
  level : Level
  message : String
  fields : List (String × Value)
  deriving DecidableEq, Repr

def record : Event → Record
  | lowering kind key =>
    ⟨.trace, "lowering slice",
      [("kind", .text kind.name), ("key", .text (Debug.optional key))]⟩
  | sharedKey parent key =>
    ⟨.warn, "sibling slices share a field key; a value must satisfy every one of them",
      [("parent", .text parent), ("key", .text key)]⟩
  | compiling kind depth draft =>
    ⟨.debug, "compiling slice validator",
      [("kind", .text kind.name), ("depth", .number depth), ("draft", .text draft.name)]⟩
  | rejected count fields =>
    ⟨.debug, "document rejected",
      [("count", .number count), ("fields", .text (Debug.list (fields.map Debug.quoted)))]⟩
  | tagDropped tag path =>
    ⟨.debug, "dropping YAML tag", [("tag", .text tag), ("path", .text path)]⟩

end Event

end SliceContract
