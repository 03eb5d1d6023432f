import SliceContract.Json.Basic
import SliceContract.Yaml.Value

/-!
# From YAML values to JSON values

Sequences become lists and mappings become objects; numbers and truth values as keys become their
text. Tags are dropped, and each is reported. The first part that JSON cannot express is an error.
-/

namespace SliceContract

namespace Yaml

/-- The keys and indices from the root to a part. -/
abbrev Keys := List String

def Keys.text (keys : Keys) : String :=
  if keys.isEmpty then "(root)" else String.join (keys.map ("/" ++ ·))

/-- A tag that JSON has no place for. -/
structure DroppedTag where
  tag : String
  keys : Keys
  deriving DecidableEq, Repr

inductive ConversionError where
  | number (keys : Keys) (value : Number)
  | key (keys : Keys) (key : Yaml)
  deriving Repr

def ConversionError.message : ConversionError → String
  | number keys value => keys.text ++ ": number " ++ value.text ++ " has no JSON representation"
  | key keys k => keys.text ++ ": unsupported mapping key " ++ k.debug

/-- A result with the tags that were dropped on the way to it. -/
structure Converted (α : Type) where
  dropped : List DroppedTag
  result : Except ConversionError α

namespace Converted

variable {α β : Type}

def ok (a : α) : Converted α := ⟨[], .ok a⟩

def fail (e : ConversionError) : Converted α := ⟨[], .error e⟩

def drop (tag : DroppedTag) : Converted Unit := ⟨[tag], .ok ()⟩

/-- Go on with a result; an error stays and drops no more tags. -/
def bind (c : Converted α) (f : α → Converted β) : Converted β :=
  match c.result with
  | .ok a => ⟨c.dropped ++ (f a).dropped, (f a).result⟩
  | .error e => ⟨c.dropped, .error e⟩

instance : Monad Converted where
  pure := ok
  bind := bind

@[simp] theorem bind_ok (a : α) (f : α → Converted β) : (ok a).bind f = f a := rfl

@[simp] theorem bind_fail (e : ConversionError) (f : α → Converted β) :
    (fail e : Converted α).bind f = fail e := rfl

end Converted

/-- The text of a key, if it has one. -/
def keyText? : Yaml → Option String
  | .string s => some s
  | .number n => some n.text
  | .bool b => some (toString b)
  | _ => none

namespace Number

/-- The number as a whole number of 64 bits with a sign. -/
def signed? : Number → Option Int
  | int n => if Int64.minValue.toInt ≤ n ∧ n ≤ Int64.maxValue.toInt then some n else none
  | _ => none

/-- The number as a whole number of 64 bits without a sign. -/
def unsigned? : Number → Option Int
  | int n => if 0 ≤ n ∧ n < UInt64.size then some n else none
  | _ => none

/-- The number as a finite double, the nearest one for a whole number. -/
def double? : Number → Option Binary64
  | int n => some (Binary64.ofInt n)
  | float x => some x
  | infinite _ | nan => none

/-- The first form that a number has: with a sign, without a sign, or as a double. -/
def toJson? (n : Number) : Option Json :=
  match n.signed? with
  | some i => some (.number (.int i))
  | none =>
    match n.unsigned? with
    | some i => some (.number (.int i))
    | none => n.double?.map fun x => .number (.float x)

theorem exists_of_toJson? {n : Number} {v : Json} (h : n.toJson? = some v) :
    ∃ m, v = .number m := by
  unfold toJson? at h
  split at h
  · next i _ => exact ⟨.int i, (Option.some.inj h).symm⟩
  · split at h
    · next i _ => exact ⟨.int i, (Option.some.inj h).symm⟩
    · obtain ⟨x, -, rfl⟩ := Option.map_eq_some_iff.mp h
      exact ⟨.float x, rfl⟩

end Number

/-- The JSON form of the part at `keys`. Of two keys with one text the later one stays. -/
def toJson (keys : Keys) : Yaml → Converted Json
  | .null => .ok .null
  | .bool b => .ok (.bool b)
  | .number n =>
    match n.toJson? with
    | some v => .ok v
    | none => .fail (.number keys n)
  | .string s => .ok (.string s)
  | .sequence xs => do return .array (← items keys 0 xs)
  | .mapping ms => do return .object (Entries.ofList (← members keys ms))
  | .tagged tag v => do
    .drop ⟨tagText tag, keys⟩
    toJson keys v
where
  items (keys : Keys) (index : Nat) : List Yaml → Converted (List Json)
    | [] => .ok []
    | x :: rest => do
      let v ← toJson (keys ++ [toString index]) x
      return v :: (← items keys (index + 1) rest)
  members (keys : Keys) : List (Yaml × Yaml) → Converted (List (String × Json))
    | [] => .ok []
    | (key, x) :: rest =>
      match keyText? key with
      | none => .fail (.key keys key)
      | some text => do
        let v ← toJson (keys ++ [text]) x
        return (text, v) :: (← members keys rest)

end Yaml

end SliceContract
