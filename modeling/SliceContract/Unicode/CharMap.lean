import SliceContract.Text.Hex

/-!
# Maps from characters to texts

A map lists what single characters stand for, in hexadecimal: `C0:41+300` maps one character to two.
A run of characters maps to a run that begins with the value given, as in `41-5A:61`; in a run such
as `100-12E/2:101` only every second character is meant.
-/

namespace SliceContract

/-- Characters from `low` to `high`, `step` apart, and what the first of them stands for. -/
structure CharMapEntry where
  low : Nat
  high : Nat
  step : Nat
  values : List Nat
  deriving DecidableEq, Repr

structure CharMap where
  entries : List CharMapEntry
  deriving DecidableEq, Repr

namespace CharMap

def readEntry (word : List Char) : CharMapEntry :=
  let sides := word.splitOn ':'
  let key := (sides.headD []).splitOn '/'
  let bounds := ((key.headD []).splitOn '-').map Hex.number
  let low := bounds.headD 0
  ⟨low, bounds.getLast?.getD low, (key[1]?.map Hex.number).getD 1,
    ((sides[1]?.getD []).splitOn '+').map Hex.number⟩

def ofTable (text : String) : CharMap :=
  ⟨(((text.toList.map fun c => if c = '\n' then ' ' else c).splitOn ' ').filter
    fun word => !word.isEmpty).map readEntry⟩

/-- What the entry says about a code point, if it is about it. -/
def valueAt? (e : CharMapEntry) (code : Nat) : Option (List Char) :=
  if e.low ≤ code && code ≤ e.high && (code - e.low) % e.step == 0 then
    some (e.values.map fun value => Char.ofNat (value + (code - e.low)))
  else none

/-- What a character stands for. -/
def find? (m : CharMap) (c : Char) : Option (List Char) :=
  m.entries.findSome? fun e => valueAt? e c.toNat

/-- The character that stands for a text. -/
def findKey? (m : CharMap) (text : List Char) : Option Char :=
  let values := text.map Char.toNat
  (m.entries.find? fun e => e.values == values).map fun e => Char.ofNat e.low

end CharMap

end SliceContract
