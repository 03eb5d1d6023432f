import SliceContract.Json.Basic

/-!
# The types of JSON values
-/

namespace SliceContract

inductive TypeName where
  | array
  | boolean
  | integer
  | null
  | number
  | object
  | string
  deriving DecidableEq, Repr

namespace TypeName

/-- In alphabetical order. -/
def all : List TypeName := [array, boolean, integer, null, number, object, string]

def name : TypeName → String
  | array => "array"
  | boolean => "boolean"
  | integer => "integer"
  | null => "null"
  | number => "number"
  | object => "object"
  | string => "string"

def ofName? (name : String) : Option TypeName := all.find? fun t => t.name = name

/-- Whether a value has the type. A whole double is an integer, unless integers are strict. -/
def accepts (strict : Bool) : TypeName → Json → Bool
  | array, .array _ => true
  | boolean, .bool _ => true
  | integer, .number (.int _) => true
  | integer, .number (.float x) => !strict && x.isWhole
  | null, .null => true
  | number, .number _ => true
  | object, .object _ => true
  | string, .string _ => true
  | _, _ => false

end TypeName

end SliceContract
