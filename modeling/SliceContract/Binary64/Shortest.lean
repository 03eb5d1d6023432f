import SliceContract.Binary64.Basic

/-!
# The shortest decimal that reads back

A double is written with the fewest significant digits that still round to it, and with the
nearest such decimal when several have that many digits.
-/

namespace SliceContract

/-- The number `digits * 10 ^ exponent`. -/
structure Decimal where
  digits : Nat
  exponent : Int
  deriving DecidableEq, Repr

namespace Decimal

def dropZeros : Nat → Decimal → Decimal
  | 0, d => d
  | fuel + 1, d =>
    if d.digits ≠ 0 ∧ d.digits % 10 = 0 then dropZeros fuel ⟨d.digits / 10, d.exponent + 1⟩ else d

end Decimal

namespace Binary64

/-- The whole part of the decimal logarithm of a positive number. -/
def floorLog10 (q : Rat) : Int :=
  if 1 ≤ q then (Nat.toDigits 10 q.floor.toNat).length - 1
  else -(Nat.toDigits 10 (q⁻¹.ceil.toNat - 1)).length

/-- The ends of the interval of numbers that round to a positive double. -/
def roundingInterval (x : Binary64) : Rat × Rat :=
  let unit : Rat := 2 ^ x.exponent
  let below : Rat := if x.mantissa = leastNormal ∧ minExponent < x.exponent then 1 / 4 else 1 / 2
  ((x.mantissa - below) * unit, (x.mantissa + 1 / 2) * unit)

/-- Whether a nonnegative number rounds to the positive double `x`: the ends of the interval do
exactly when the significand is even. -/
def isRoundedFrom (x : Binary64) (q : Rat) : Bool :=
  let (low, high) := x.roundingInterval
  if x.mantissa % 2 = 0 then low ≤ q && q ≤ high else low < q && q < high

/-- The decimal of `count` significant digits that rounds to the positive double `x`, if any: one
of the two neighbours of the value on that grid, the nearer one if both do. -/
def nearestWithDigits (x : Binary64) (count : Nat) : Option Decimal :=
  let exponent := floorLog10 x.magnitude - count + 1
  let scaled := x.magnitude / 10 ^ exponent
  let low := scaled.floor.toNat
  let reads (d : Nat) : Bool := x.isRoundedFrom (d * 10 ^ exponent)
  match reads low, reads (low + 1) with
  | true, true =>
    let twice := 2 * (scaled - low)
    some ⟨if twice < 1 ∨ (twice = 1 ∧ low % 2 = 0) then low else low + 1, exponent⟩
  | true, false => some ⟨low, exponent⟩
  | false, true => some ⟨low + 1, exponent⟩
  | false, false => none

/-- The shortest decimal for the absolute value; seventeen digits always suffice. -/
def shortest (x : Binary64) : Decimal :=
  if x.mantissa = 0 then ⟨0, 0⟩
  else
    let found := (List.range 17).findSome? fun n => x.nearestWithDigits (n + 1)
    Decimal.dropZeros 17 (found.getD ⟨x.mantissa, 0⟩)

end Binary64

end SliceContract
