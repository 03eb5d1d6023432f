import SliceContract.Json.Basic

/-!
# Compact JSON text

The written form of a value: no blanks, object members in their order, and only the characters
escaped that must be.
-/

namespace SliceContract

namespace Json

def hexDigit (n : Nat) : Char := Nat.digitChar n

/-- A quote, a backslash and the characters below a space are escaped, the latter by a short
escape where there is one; every other character stands for itself. -/
def escape (c : Char) : List Char :=
  if c = '"' then ['\\', '"']
  else if c = '\\' then ['\\', '\\']
  else if c = '\x08' then ['\\', 'b']
  else if c = '\x0c' then ['\\', 'f']
  else if c = '\n' then ['\\', 'n']
  else if c = '\r' then ['\\', 'r']
  else if c = '\t' then ['\\', 't']
  else if c.toNat < 32 then
    ['\\', 'u', '0', '0', hexDigit (c.toNat / 16), hexDigit (c.toNat % 16)]
  else [c]

def quoted (s : String) : List Char := '"' :: (s.toList.flatMap escape ++ ['"'])

def Number.text : Number → List Char
  | .int value => Layout.intText value
  | .float value => Layout.json.text value

/-- The compact text of a value. -/
def text : Json → List Char
  | null => ['n', 'u', 'l', 'l']
  | bool true => ['t', 'r', 'u', 'e']
  | bool false => ['f', 'a', 'l', 's', 'e']
  | number n => n.text
  | string s => quoted s
  | array xs => '[' :: (items xs ++ [']'])
  | object ms => '{' :: (members ms ++ ['}'])
where
  items : List Json → List Char
    | [] => []
    | [x] => text x
    | x :: y :: rest => text x ++ ',' :: items (y :: rest)
  members : List (String × Json) → List Char
    | [] => []
    | [(k, x)] => quoted k ++ ':' :: text x
    | (k, x) :: m :: rest => quoted k ++ ':' :: (text x ++ ',' :: members (m :: rest))

/-- The compact text as a string. -/
def compact (v : Json) : String := String.ofList v.text

end Json

end SliceContract
