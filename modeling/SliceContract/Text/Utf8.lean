/-!
# Encoded text

Which bytes are the encoding of a text, and where they stop being one.
-/

namespace SliceContract

namespace Utf8

/-- Where bytes stop being encoded text: the first byte of the character that is wrong, and how many
bytes of it there are. The number is missing if the bytes end inside a character. -/
structure Fault where
  index : Nat
  length? : Option Nat
  deriving DecidableEq, Repr

/-- The bytes from one to another. -/
structure Range where
  low : UInt8
  high : UInt8

/-- The bytes that continue a character. -/
def continuing : Range := ⟨0x80, 0xBF⟩

/-- The bytes that may follow the first byte of a character, if a character can begin with it. -/
def following? (lead : UInt8) : Option (List Range) :=
  if lead < 0x80 then some []
  else if lead < 0xC2 then none
  else if lead < 0xE0 then some [continuing]
  else if lead = 0xE0 then some [⟨0xA0, 0xBF⟩, continuing]
  else if lead = 0xED then some [⟨0x80, 0x9F⟩, continuing]
  else if lead < 0xF0 then some [continuing, continuing]
  else if lead = 0xF0 then some [⟨0x90, 0xBF⟩, continuing, continuing]
  else if lead < 0xF4 then some [continuing, continuing, continuing]
  else if lead = 0xF4 then some [⟨0x80, 0x8F⟩, continuing, continuing]
  else none

/-- The fault in the bytes after `read` bytes of a character that starts at an index; the ranges say
what is still to come of it. -/
def faultFrom? (start read : Nat) : List Range → List UInt8 → Option Fault
  | [], [] => none
  | [], lead :: rest =>
    match following? lead with
    | some ranges => faultFrom? (start + read) 1 ranges rest
    | none => some ⟨start + read, some 1⟩
  | _ :: _, [] => some ⟨start, none⟩
  | range :: more, byte :: rest =>
    if range.low ≤ byte ∧ byte ≤ range.high then faultFrom? start (read + 1) more rest
    else some ⟨start, some read⟩

/-- The fault that keeps bytes from being encoded text. -/
def fault? (bytes : List UInt8) : Option Fault := faultFrom? 0 0 [] bytes

example : fault? [0x61, 0xC3, 0xA9, 0x62] = none ∧ fault? [0x61, 0xC3] = some ⟨1, none⟩ ∧
    fault? [0x61, 0xE2, 0x82, 0x61] = some ⟨1, some 2⟩ := by
  decide

def Fault.message : Fault → String
  | ⟨index, some length⟩ =>
    "invalid utf-8 sequence of " ++ toString length ++ " bytes from index " ++ toString index
  | ⟨index, none⟩ => "incomplete utf-8 byte sequence from index " ++ toString index

end Utf8

end SliceContract
