/-!
# Labels in ASCII

A label of a host name that is not in ASCII is written in ASCII: its ASCII characters come first,
and what is missing follows as numbers with variable weights, each of which says how far it is from
one insertion to the next.
-/

namespace SliceContract

namespace Punycode

def base : Nat := 36
def tMin : Nat := 1
def tMax : Nat := 26
def skew : Nat := 38
def damp : Nat := 700
def initialBias : Nat := 72
def initialCode : Nat := 0x80

/-- The digit of a number below `base`. -/
def digit (n : Nat) : Char :=
  if n < 26 then Char.ofNat ('a'.toNat + n) else Char.ofNat ('0'.toNat + (n - 26))

def value? (c : Char) : Option Nat :=
  if 'a' ≤ c ∧ c ≤ 'z' then some (c.toNat - 'a'.toNat)
  else if c.isDigit then some (c.toNat - '0'.toNat + 26)
  else none

/-- Halve a distance, as it were, until it is small; with the weight of the digits so dropped. -/
def shrink : Nat → Nat → Nat → Nat × Nat
  | 0, delta, k => (delta, k)
  | fuel + 1, delta, k =>
    if delta > (base - tMin) * tMax / 2 then shrink fuel (delta / (base - tMin)) (k + base)
    else (delta, k)

/-- The bias of the next number, after a distance among so many characters. -/
def adapt (delta count : Nat) (first : Bool) : Nat :=
  let delta := if first then delta / damp else delta / 2
  let (delta, k) := shrink 64 (delta + delta / count) 0
  k + (base - tMin + 1) * delta / (delta + skew)

/-- How much the digit at a position can count before it is the last. -/
def threshold (k bias : Nat) : Nat :=
  if k ≤ bias then tMin else if k ≥ bias + tMax then tMax else k - bias

/-- A number in variable weights, from position `k` on. -/
def encodeNumber (bias : Nat) : Nat → Nat → Nat → List Char
  | 0, _, _ => []
  | fuel + 1, k, n =>
    let t := threshold k bias
    if n < t then [digit n]
    else
      digit (t + (n - t) % (base - t)) ::
        encodeNumber bias fuel (k + base) ((n - t) / (base - t))

/-- How a label is being written. -/
structure Encoding where
  delta : Nat
  bias : Nat
  /-- How many characters have been written, and how many of them were in ASCII. -/
  done : Nat
  basic : Nat
  output : List Char

/-- Pass over a character of the label when `code` is to be inserted. -/
def Encoding.pass (code : Nat) (e : Encoding) (c : Char) : Encoding :=
  if c.toNat < code then { e with delta := e.delta + 1 }
  else if c.toNat = code then
    ⟨0, adapt e.delta (e.done + 1) (e.done == e.basic), e.done + 1, e.basic,
      e.output ++ encodeNumber e.bias (e.delta + 2) base e.delta⟩
  else e

/-- The characters after the last hyphen of a label in ASCII, given those before it. -/
def encode (label : List Char) : List Char :=
  let basic := label.filter fun c => c.toNat < initialCode
  let codes := ((label.filter fun c => initialCode ≤ c.toNat).map Char.toNat).eraseDups.mergeSort
  let start : Encoding :=
    ⟨0, initialBias, basic.length, basic.length, if basic.isEmpty then [] else basic ++ ['-']⟩
  let (written, _) := codes.foldl (fun (e, previous) code =>
      let e := { e with delta := e.delta + (code - previous) * (e.done + 1) }
      let e := label.foldl (Encoding.pass code) e
      ({ e with delta := e.delta + 1 }, code + 1))
    (start, initialCode)
  written.output

/-- Read a number in variable weights: its value and what follows it. -/
def decodeNumber (bias : Nat) : Nat → Nat → Nat → List Char → Option (Nat × List Char)
  | _, _, _, [] => none
  | k, weight, value, c :: rest =>
    match value? c with
    | none => none
    | some d =>
      let t := threshold k bias
      let value := value + d * weight
      if UInt32.size ≤ value then none
      else if d < t then some (value, rest)
      else decodeNumber bias (k + base) (weight * (base - t)) value rest

/-- Insert the characters that numbers stand for into those there are. -/
def insertAll : Nat → Nat → Nat → Nat → Bool → List Char → List Char → Option (List Char)
  | 0, _, _, _, _, output, _ => some output
  | fuel + 1, code, i, bias, first, output, text =>
    if text.isEmpty then some output
    else
      match decodeNumber bias base 1 0 text with
      | none => none
      | some (delta, rest) =>
        let count := output.length + 1
        let code := code + (i + delta) / count
        let place := (i + delta) % count
        if code.isValidChar then
          insertAll fuel code (place + 1) (adapt delta count first) false
            (output.take place ++ Char.ofNat code :: output.drop place) rest
        else none

/-- The part before the last hyphen, and the part after it. A hyphen in first place separates
nothing. -/
def splitLast (text : List Char) : List Char × List Char :=
  let tail := (text.reverse.takeWhile (· != '-')).reverse
  let head := text.take (text.length - tail.length)
  if head.length ≤ 1 then ([], text) else (head.dropLast, tail)

/-- The label that a text stands for. -/
def decode? (text : List Char) : Option (List Char) :=
  let (basic, numbers) := splitLast text
  insertAll numbers.length initialCode 0 initialBias true basic numbers

end Punycode

end SliceContract
