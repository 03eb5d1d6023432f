import SliceContract.Json.Compact
import SliceContract.Text.Debug

/-!
# Narrowing values

A shape describes typed values: numbers of a range, records with named fields, and so on. A JSON
value that fits is written back in the typed form; one that does not fit has a first error.
-/

namespace SliceContract

inductive Shape where
  | any
  | string
  | bool
  /-- Whole numbers from `low` to `high`, under the name of their type. -/
  | int (name : String) (low high : Int)
  | float
  | option (inner : Shape)
  | list (element : Shape)
  /-- Any keys, with values of one shape. -/
  | dictionary (value : Shape)
  /-- Named fields; other keys are ignored unless the record is strict. -/
  | record (name : String) (strict : Bool) (fields : List (String × Shape))

namespace Shape

def unsigned (bits : Nat) : Shape := int ("u" ++ toString bits) 0 ((Nat.pow 2 bits : Int) - 1)

def signed (bits : Nat) : Shape :=
  let half : Int := Nat.pow 2 (bits - 1)
  int ("i" ++ toString bits) (-half) (half - 1)

def isOption : Shape → Bool
  | option _ => true
  | _ => false

end Shape

namespace Narrowing

inductive Error where
  | wrongType (found : Json) (expected : String)
  | outOfRange (value : Int) (expected : String)
  | missingField (name : String)
  | unknownField (name : String) (known : List String)
  | tooFew (count : Nat) (record : String) (size : Nat)
  | tooMany (count : Nat)
  deriving DecidableEq, Repr

/-- What a value is called in an error. -/
def describe : Json → String
  | .null => "null"
  | .bool b => "boolean `" ++ toString b ++ "`"
  | .number (.int n) => "integer `" ++ toString n ++ "`"
  | .number (.float x) => "floating point `" ++ String.ofList (Layout.json.text x) ++ "`"
  | .string s => "string " ++ Debug.quoted s
  | .array _ => "sequence"
  | .object _ => "map"

def expectedFields (known : List String) : String :=
  let ticked := known.map fun name => "`" ++ name ++ "`"
  match ticked with
  | [] => "there are no fields"
  | [only] => "expected " ++ only
  | [first, second] => "expected " ++ first ++ " or " ++ second
  | _ => "expected one of " ++ ", ".intercalate ticked

def Error.message : Error → String
  | wrongType found expected => "invalid type: " ++ describe found ++ ", expected " ++ expected
  | outOfRange value expected =>
    "invalid value: integer `" ++ toString value ++ "`, expected " ++ expected
  | missingField name => "missing field `" ++ name ++ "`"
  | unknownField name known => "unknown field `" ++ name ++ "`, " ++ expectedFields known
  | tooFew count record size =>
    "invalid length " ++ toString count ++ ", expected struct " ++ record ++ " with " ++
      toString size ++ (if size = 1 then " element" else " elements")
  | tooMany count =>
    "invalid length " ++ toString count ++ ", expected fewer elements in array"

/-- The fields of a record in their order, from the values found under their names. An optional
field that is absent is null. -/
def collect (found : Entries Json) : List (String × Shape) → Except Error (List (String × Json))
  | [] => .ok []
  | (name, shape) :: rest =>
    match found.lookup name with
    | some v => do return (name, v) :: (← collect found rest)
    | none =>
      if shape.isOption then do return (name, .null) :: (← collect found rest)
      else .error (.missingField name)

end Narrowing

namespace Shape

open Narrowing

/-- Write a value back in the typed form. The members of a record are read in the order of the
value's keys, so the error is about the first of them that does not fit; absent fields are found
after that. A list of values in the order of the fields also fits a record. -/
def narrow : Shape → Json → Except Error Json
  | any, v => .ok v
  | string, v =>
    match v with
    | .string _ => .ok v
    | _ => .error (.wrongType v "a string")
  | bool, v =>
    match v with
    | .bool _ => .ok v
    | _ => .error (.wrongType v "a boolean")
  | int name low high, v =>
    match v with
    | .number (.int n) =>
      if low ≤ n ∧ n ≤ high then .ok v else .error (.outOfRange n name)
    | _ => .error (.wrongType v name)
  | float, v =>
    match v with
    | .number n => .ok (.number (.float n.toBinary64))
    | _ => .error (.wrongType v "f64")
  | option inner, v =>
    match v with
    | .null => .ok .null
    | _ => narrow inner v
  | list element, v =>
    match v with
    | .array xs => do return .array (← xs.mapM (narrow element))
    | _ => .error (.wrongType v "a sequence")
  | dictionary value, v =>
    match v with
    | .object ms => do
      return .object (← ms.mapM fun (key, x) => do return (key, ← narrow value x))
    | _ => .error (.wrongType v "a map")
  | record name strict fields, v =>
    match v with
    | .object ms => do
      let found ← ms.filterMapM fun (key, x) =>
        match field fields key x with
        | some narrowed => do return some (key, ← narrowed)
        | none =>
          if strict then .error (.unknownField key (fields.map (·.1))) else .ok none
      return .object (Entries.ofList (← collect found fields))
    | .array xs => do
      let found ← inOrder name fields.length 0 fields xs
      if fields.length < xs.length then .error (.tooMany xs.length)
      else return .object (Entries.ofList found)
    | _ => .error (.wrongType v ("struct " ++ name))
where
  /-- The member of a record under a key, if the record has such a field. -/
  field : List (String × Shape) → String → Json → Option (Except Error Json)
    | [], _, _ => none
    | (name, shape) :: rest, key, x =>
      if name = key then some (narrow shape x) else field rest key x
  inOrder (record : String) (size count : Nat) :
      List (String × Shape) → List Json → Except Error (List (String × Json))
    | [], _ => .ok []
    | _ :: _, [] => .error (.tooFew count record size)
    | (name, shape) :: rest, x :: xs => do
      let y ← narrow shape x
      let ys ← inOrder record size (count + 1) rest xs
      return (name, y) :: ys

end Shape

end SliceContract
