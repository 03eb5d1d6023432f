import SliceContract.Text.Unprintable

/-!
# Diagnostic quoting

Text in quotes as logs show it: every character that a reader could not see or tell apart is
escaped, by name or by code point.
-/

namespace SliceContract

namespace Debug

def hex (n : Nat) : List Char := Nat.toDigits 16 n

def escape (c : Char) : List Char :=
  if c = '\x00' then ['\\', '0']
  else if c = '\t' then ['\\', 't']
  else if c = '\n' then ['\\', 'n']
  else if c = '\r' then ['\\', 'r']
  else if c = '"' then ['\\', '"']
  else if c = '\\' then ['\\', '\\']
  else if Unicode.isPlain c then [c]
  else ['\\', 'u', '\x7b'] ++ hex c.toNat ++ ['\x7d']

def quoted (s : String) : String :=
  String.ofList ('"' :: (s.toList.flatMap escape ++ ['"']))

/-- Items between brackets, separated by commas. -/
def list (items : List String) : String := "[" ++ ", ".intercalate items ++ "]"

def optional (s : Option String) : String :=
  match s with
  | none => "None"
  | some s => "Some(" ++ quoted s ++ ")"

end Debug

end SliceContract
