import SliceContract.Binary64.Shortest

/-!
# Written forms of doubles

The digits of a number are always the shortest that read back; a layout says where the point
stands, whether a whole number keeps a fraction, and how an exponent is signed.
-/

namespace SliceContract

/-- How the shortest digits are set out. Outside `positional` the number is written with an
exponent, which carries a plus sign if `signedExponent`. -/
structure Layout where
  positional : Int → Bool
  keepsFraction : Bool
  signedExponent : Bool

namespace Layout

/-- Decimal exponents from -5 to 15 are positional, a whole number ends in `.0`, and an exponent
always has a sign. -/
def json : Layout := ⟨fun e => -5 ≤ e && e ≤ 15, true, true⟩

/-- As `json`, but a positive exponent has no sign. -/
def yaml : Layout := { json with signedExponent := false }

/-- Always positional, a whole number has no fraction. -/
def plain : Layout := ⟨fun _ => true, false, true⟩

def intText (n : Int) : List Char :=
  if n < 0 then '-' :: Nat.toDigits 10 n.natAbs else Nat.toDigits 10 n.natAbs

def exponentText (l : Layout) (e : Int) : List Char :=
  'e' :: (if 0 ≤ e ∧ l.signedExponent then '+' :: intText e else intText e)

/-- A decimal whose digits are `digits` and whose leading digit stands at 10 to the power `e`. -/
def magnitudeText (l : Layout) (digits : List Char) (e : Int) : List Char :=
  let whole := (e + 1).toNat
  if l.positional e then
    if digits.length ≤ whole then
      digits ++ List.replicate (whole - digits.length) '0' ++
        (if l.keepsFraction then ['.', '0'] else [])
    else if 0 ≤ e then digits.take whole ++ '.' :: digits.drop whole
    else '0' :: '.' :: List.replicate (-e - 1).toNat '0' ++ digits
  else
    match digits with
    | [d] => d :: l.exponentText e
    | d :: rest => d :: '.' :: rest ++ l.exponentText e
    | [] => []

def text (l : Layout) (x : Binary64) : List Char :=
  let d := x.shortest
  let digits := Nat.toDigits 10 d.digits
  let body := l.magnitudeText digits (d.exponent + digits.length - 1)
  if x.negative then '-' :: body else body

end Layout

end SliceContract
