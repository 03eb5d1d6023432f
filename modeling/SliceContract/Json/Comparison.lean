import SliceContract.Json.Basic

/-!
# Comparing values by number

How values compare where only their numerical meaning counts: repeated elements, constants, and
divisibility.
-/

namespace SliceContract

namespace Binary64

/-- The distance from one to the next double. -/
def epsilon : Rat := 2 ^ (-52 : Int)

/-- The value of the shortest decimal. -/
def decimalValue (x : Binary64) : Rat :=
  let d := x.shortest
  (if x.negative then -1 else 1) * (d.digits * 10 ^ d.exponent)

/-- Divisibility of doubles. A whole step divides exactly, zero divides nothing. With any other step
the rounded quotient must not exceed the whole number next to it towards zero by `epsilon`; a
quotient beyond all doubles is judged by the decimals. -/
def isMultipleOf (x step : Binary64) : Bool :=
  if step.isWhole then step.toRat != 0 && x.isWhole && (x.toRat / step.toRat).isInt
  else
    match x.div? step with
    | some quotient =>
      let q := quotient.toRat
      let whole : Int := if q < 0 then q.ceil else q.floor
      q - whole < epsilon
    | none => (x.decimalValue / step.decimalValue).isInt

end Binary64

namespace Json

/-- Whether no two elements are alike. -/
def noneAlike (alike : Json → Json → Bool) : List Json → Bool
  | [] => true
  | x :: rest => !rest.any (alike x) && noneAlike alike rest

/-- The length of the longest list that counts as short. -/
def shortLength : Nat := 15

/-- Whether no two elements are equal. In a short list numbers are compared by their numerical
value; in a longer one `1` and `1.0` are different, and so are the two zeros. -/
def allDistinct (xs : List Json) : Bool :=
  if xs.length ≤ shortLength then noneAlike equivalent xs
  else noneAlike (fun x y => x = y) xs

theorem noneAlike_iff {alike : Json → Json → Bool} {xs : List Json} :
    noneAlike alike xs = true ↔ xs.Pairwise fun x y => alike x y = false := by
  induction xs with
  | nil => simp [noneAlike]
  | cons x rest ih => simp [noneAlike, ih]

/-- Strings are told apart in lists of any length. -/
theorem allDistinct_strings {names : List String} (h : names.Nodup) :
    allDistinct (names.map string) = true := by
  have apart (alike : Json → Json → Bool)
      (same : ∀ a b, alike (string a) (string b) = true → a = b) :
      noneAlike alike (names.map string) = true := by
    rw [noneAlike_iff, List.pairwise_map]
    refine h.imp fun hne => ?_
    exact Bool.eq_false_iff.mpr fun he => hne (same _ _ he)
  rw [allDistinct]
  split
  · exact apart equivalent fun _ _ he => eq_of_beq he
  · exact apart _ fun _ _ he => string.inj (of_decide_eq_true he)

/-- A number is met by every number less than `epsilon` away, any other constant by its equals. -/
def meetsConstant (expected value : Json) : Bool :=
  match expected, value with
  | number a, number b =>
    let distance := a.toBinary64.toRat - b.toBinary64.toRat
    distance < Binary64.epsilon && -Binary64.epsilon < distance
  | number _, _ => false
  | _, _ => expected.equivalent value

end Json

end SliceContract
