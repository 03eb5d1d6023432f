/-!
# Finite double-precision numbers

A finite double is kept as an exact dyadic value together with the sign of its zero. Arithmetic
goes through `Rat` and rounds once, to the nearest double, a tie to the even significand. No
machine floating point is involved.
-/

namespace SliceContract

/-- The number `mantissa * 2 ^ exponent`, negated if `negative`. -/
structure Binary64 where
  negative : Bool
  mantissa : Nat
  exponent : Int
  deriving DecidableEq, Repr, Inhabited

namespace Binary64

/-- The exponent of the smallest positive double. -/
def minExponent : Int := -1074

def maxExponent : Int := 971

/-- The least significand that fills all its bits. -/
def leastNormal : Nat := 4503599627370496

def zero (negative : Bool) : Binary64 := ⟨negative, 0, minExponent⟩

def magnitude (x : Binary64) : Rat := x.mantissa * 2 ^ x.exponent

/-- The exact value; both zeros have value zero. -/
def toRat (x : Binary64) : Rat := if x.negative then -x.magnitude else x.magnitude

@[simp] theorem toRat_zero (negative : Bool) : (zero negative).toRat = 0 := by
  cases negative <;> simp [toRat, magnitude, zero]

def neg (x : Binary64) : Binary64 := { x with negative := !x.negative }

@[simp] theorem neg_neg (x : Binary64) : x.neg.neg = x := by
  simp [neg]

/-- The quotient `num / den` rounded to a whole number, a half to the even neighbour. -/
def roundHalfEven (num den : Nat) : Nat :=
  let floor := num / den
  let twice := 2 * (num % den)
  if twice < den then floor
  else if den < twice then floor + 1
  else if floor % 2 = 0 then floor else floor + 1

/-- The whole part of the binary logarithm of `num / den`, for positive arguments. -/
def floorLog2 (num den : Nat) : Int :=
  let guess : Int := (num.log2 : Int) - den.log2
  if den * Nat.pow 2 guess.toNat ≤ num * Nat.pow 2 (-guess).toNat then guess else guess - 1

/-- The double nearest to `num / den` with the given sign, or `none` when it is too large. -/
def ofRatio? (negative : Bool) (num den : Nat) : Option Binary64 :=
  if num = 0 then some (zero negative) else
  let exponent := max minExponent (floorLog2 num den - 52)
  let mantissa :=
    roundHalfEven (num * Nat.pow 2 (-exponent).toNat) (den * Nat.pow 2 exponent.toNat)
  let (mantissa, exponent) :=
    if mantissa = 2 * leastNormal then (leastNormal, exponent + 1) else (mantissa, exponent)
  if exponent ≤ maxExponent then some ⟨negative, mantissa, exponent⟩ else none

/-- The double nearest to the absolute value of `q`, with the given sign. -/
def ofRat? (negative : Bool) (q : Rat) : Option Binary64 :=
  ofRatio? negative q.num.natAbs q.den

/-- The double nearest to a whole number below `2 ^ 1023` in absolute value. -/
def ofInt (n : Int) : Binary64 :=
  (ofRatio? (n < 0) n.natAbs 1).getD (zero false)

/-- The rounded product, or `none` when it is too large. -/
def mul? (x y : Binary64) : Option Binary64 :=
  ofRat? (x.negative != y.negative) (x.toRat * y.toRat)

/-- The rounded quotient by a nonzero double, or `none` when it is too large. -/
def div? (x y : Binary64) : Option Binary64 :=
  ofRat? (x.negative != y.negative) (x.toRat / y.toRat)

/-- Equality of values: the two zeros are equal. -/
def sameValue (x y : Binary64) : Bool := x.toRat == y.toRat

def isWhole (x : Binary64) : Bool := x.toRat.isInt

/-- The double nearest to `digits * 10 ^ exponent`, or `none` when it is too large. Exponents far
outside the range of doubles are answered without forming the power. -/
def ofDecimal? (negative : Bool) (digits : Nat) (exponent : Int) : Option Binary64 :=
  let size : Int := (Nat.toDigits 10 digits).length + exponent
  if digits = 0 ∨ size < -400 then some (zero negative)
  else if 400 < size then none
  else ofRat? negative (digits * 10 ^ exponent)

end Binary64

end SliceContract
