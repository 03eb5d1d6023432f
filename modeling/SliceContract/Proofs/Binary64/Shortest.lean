import Mathlib.Algebra.Order.Field.Power
import Mathlib.Data.Nat.Cast.Order.Ring
import Mathlib.Data.Rat.Floor
import Mathlib.Tactic.Linarith
import Mathlib.Tactic.NormNum
import Mathlib.Tactic.Positivity
import Mathlib.Tactic.Ring
import SliceContract.Binary64.Shortest

/-!
# The shortest digits read back

No number rounds to two doubles, and of the decimals with seventeen digits one rounds to any given
double. So the digits of a double say which double it is. The main statements are
`eq_of_isRoundedFrom` and `isRoundedFrom_shortest`.
-/

namespace SliceContract

/-- The value of a decimal. -/
def Decimal.toRat (d : Decimal) : ℚ := d.digits * 10 ^ d.exponent

namespace Binary64

/-- Whether sign, significand and exponent are those of a double: the significand has at most 53
bits, and fills them unless the exponent is the least one. -/
structure IsDouble (x : Binary64) : Prop where
  mantissa_lt : x.mantissa < 2 * leastNormal
  minExponent_le : minExponent ≤ x.exponent
  filled : minExponent < x.exponent → leastNormal ≤ x.mantissa

/-! ## Intervals -/

section Interval

variable {x y : Binary64} {q : ℚ}

/-- The distance from a double to the next one above it. -/
def unit (x : Binary64) : ℚ := 2 ^ x.exponent

theorem unit_pos (x : Binary64) : 0 < x.unit := by
  unfold unit
  positivity

theorem magnitude_eq (x : Binary64) : x.magnitude = x.mantissa * x.unit := rfl

/-- A number is rounded to a float if it lies in an interval around it, with the ends if the
mantissa is even. -/
theorem isRoundedFrom_iff : x.isRoundedFrom q = true ↔
    if x.mantissa % 2 = 0 then x.roundingInterval.1 ≤ q ∧ q ≤ x.roundingInterval.2
    else x.roundingInterval.1 < q ∧ q < x.roundingInterval.2 := by
  simp only [isRoundedFrom]
  split
  · simp
  · simp

/-- What rounds to a double is at most half a unit away, and less if the significand is odd. -/
theorem near_of_isRoundedFrom (h : x.isRoundedFrom q) :
    (x.mantissa - 1 / 2) * x.unit ≤ q ∧ q ≤ (x.mantissa + 1 / 2) * x.unit ∧
      (x.mantissa % 2 = 1 →
        (x.mantissa - 1 / 2) * x.unit < q ∧ q < (x.mantissa + 1 / 2) * x.unit) := by
  have low : (x.mantissa - 1 / 2) * x.unit ≤ x.roundingInterval.1 := by
    have pos := x.unit_pos
    unfold roundingInterval
    simp only
    rw [← unit]
    split <;> linarith
  have high : x.roundingInterval.2 = (x.mantissa + 1 / 2) * x.unit := rfl
  rw [isRoundedFrom_iff, high] at h
  split at h
  · next even => exact ⟨low.trans h.1, h.2, fun odd => by omega⟩
  · exact ⟨low.trans h.1.le, h.2.le, fun _ => ⟨low.trans_lt h.1, h.2⟩⟩

/-- Above the least exponent a unit below is at most half as long as above, so no interval reaches
below the units that belong to the next lower exponent. -/
theorem le_of_isRoundedFrom (hx : x.IsDouble) (above : minExponent < x.exponent)
    (h : x.isRoundedFrom q) : (leastNormal - 1 / 4) * x.unit ≤ q := by
  have pos := x.unit_pos
  have filled := hx.filled above
  by_cases least : x.mantissa = leastNormal
  · have low : x.roundingInterval.1 = (leastNormal - 1 / 4) * x.unit := by
      unfold roundingInterval
      simp only [least, above, and_self, if_true]
      rfl
    rw [isRoundedFrom_iff, low] at h
    split at h
    · exact h.1
    · exact h.1.le
  · have next : (leastNormal + 1 : ℚ) ≤ x.mantissa := by
      exact_mod_cast Nat.lt_of_le_of_ne filled (Ne.symm least)
    have near := (near_of_isRoundedFrom h).1
    nlinarith

/-- The interval of a double that fills its bits ends well before that of a greater exponent
begins. -/
theorem exponent_le_of_isRoundedFrom (hx : x.IsDouble) (hy : y.IsDouble)
    (qx : x.isRoundedFrom q) (qy : y.isRoundedFrom q) : y.exponent ≤ x.exponent := by
  by_contra! less
  have above : minExponent < y.exponent := hx.minExponent_le.trans_lt less
  have low := le_of_isRoundedFrom hy above qy
  obtain ⟨-, high, strict⟩ := near_of_isRoundedFrom qx
  have pos := x.unit_pos
  have double : 2 * x.unit ≤ y.unit := by
    have step : (2 : ℚ) ^ (x.exponent + 1) ≤ 2 ^ y.exponent :=
      zpow_le_zpow_right₀ one_le_two (by omega)
    rw [zpow_add₀ two_ne_zero, zpow_one, mul_comm] at step
    exact step
  have bound := hx.mantissa_lt
  simp only [leastNormal] at bound low
  -- only the greatest significand reaches that far, and it is odd
  by_cases full : x.mantissa = 2 * 4503599627370496 - 1
  · have high := (strict (by omega)).2
    rw [full] at high
    norm_num at high low
    linarith
  · have bound : (x.mantissa + 2 : ℚ) ≤ 2 * 4503599627370496 := by exact_mod_cast (by omega)
    norm_num at low
    nlinarith

/-- No number rounds to two doubles. -/
theorem eq_of_isRoundedFrom (hx : x.IsDouble) (hy : y.IsDouble) (qx : x.isRoundedFrom q)
    (qy : y.isRoundedFrom q) : x.mantissa = y.mantissa ∧ x.exponent = y.exponent := by
  have exponents : x.exponent = y.exponent :=
    le_antisymm (exponent_le_of_isRoundedFrom hy hx qy qx)
      (exponent_le_of_isRoundedFrom hx hy qx qy)
  have units : x.unit = y.unit := congrArg (fun e : ℤ => (2 : ℚ) ^ e) exponents
  refine ⟨?_, exponents⟩
  -- neighbours share an end at most, and the end belongs to the even one
  have le {x y : Binary64} (units : x.unit = y.unit) (qx : x.isRoundedFrom q)
      (qy : y.isRoundedFrom q) : x.mantissa ≤ y.mantissa := by
    by_contra! less
    obtain ⟨low, -, strictLow⟩ := near_of_isRoundedFrom qx
    obtain ⟨-, high, strictHigh⟩ := near_of_isRoundedFrom qy
    have pos := y.unit_pos
    rw [units] at low strictLow
    rcases Nat.lt_or_ge (y.mantissa + 1) x.mantissa with apart | next
    · have apart : (y.mantissa + 2 : ℚ) ≤ x.mantissa := by exact_mod_cast apart
      nlinarith
    · have next : x.mantissa = y.mantissa + 1 := by omega
      have same : (x.mantissa - 1 / 2 : ℚ) = y.mantissa + 1 / 2 := by
        rw [next]
        push_cast
        ring
      rw [same] at low strictLow
      rcases Nat.mod_two_eq_zero_or_one y.mantissa with even | odd
      · linarith [(strictLow (by omega)).1]
      · linarith [(strictHigh odd).2]
  exact le_antisymm (le units qx qy) (le units.symm qy qx)

/-! ## Seventeen digits -/

theorem zpow_floorLog10_le (h : 0 < q) : (10 : ℚ) ^ floorLog10 q ≤ q := by
  unfold floorLog10
  split
  · next one =>
      -- `n` has one digit more than the logarithm
      have pos : 1 ≤ q.floor := Rat.le_floor_iff.mpr (by exact_mod_cast one)
      obtain ⟨n, hn⟩ : ∃ n : ℕ, q.floor = n := Int.eq_ofNat_of_zero_le (by omega)
      rw [hn, Int.toNat_natCast]
      have digits : 10 ^ ((Nat.toDigits 10 n).length - 1) ≤ n := by
        rcases Nat.eq_zero_or_pos ((Nat.toDigits 10 n).length - 1) with zero | more
        · rw [zero]
          omega
        · by_contra! less
          have := (Nat.length_toDigits_le_iff (by omega) more).mpr less
          omega
      have length := Nat.length_toDigits_pos (b := 10) (n := n)
      calc (10 : ℚ) ^ (((Nat.toDigits 10 n).length : ℤ) - 1)
          = 10 ^ ((Nat.toDigits 10 n).length - 1) := by
            rw [← zpow_natCast]
            congr 1
            omega
        _ ≤ n := by exact_mod_cast digits
        _ = (q.floor : ℚ) := by rw [hn]; rfl
        _ ≤ q := Rat.floor_le q
  · next one =>
      have inverse : 1 < q⁻¹ := (one_lt_inv₀ h).mpr (not_le.mp one)
      have two : 1 < q⁻¹.ceil := by
        by_contra! small
        have : q⁻¹ ≤ ((1 : ℤ) : ℚ) := Rat.ceil_le_iff.mp small
        norm_num at this
        linarith
      obtain ⟨n, hn⟩ : ∃ n : ℕ, q⁻¹.ceil = n + 1 :=
        (Int.eq_ofNat_of_zero_le (by omega : 0 ≤ q⁻¹.ceil - 1)).imp fun n h => by omega
      have same : q⁻¹.ceil.toNat - 1 = n := by omega
      rw [same, zpow_neg, zpow_natCast]
      refine inv_le_of_inv_le₀ h ?_
      have digits : n < 10 ^ (Nat.toDigits 10 n).length :=
        (Nat.length_toDigits_le_iff (by omega) Nat.length_toDigits_pos).mp le_rfl
      calc q⁻¹ ≤ q⁻¹.ceil := Rat.le_ceil
        _ = ((n + 1 : ℕ) : ℚ) := by rw [hn]; push_cast; rfl
        _ ≤ 10 ^ (Nat.toDigits 10 n).length := by exact_mod_cast digits

/-- A number strictly inside the interval of a double rounds to it. -/
theorem isRoundedFrom_of_lt (low : x.roundingInterval.1 < q) (high : q < x.roundingInterval.2) :
    x.isRoundedFrom q := by
  rw [isRoundedFrom_iff]
  split
  · exact ⟨low.le, high.le⟩
  · exact ⟨low, high⟩

/-- A decimal is taken only if it is rounded back to the float. -/
theorem isRoundedFrom_of_nearestWithDigits {count : ℕ} {d : Decimal}
    (h : x.nearestWithDigits count = some d) : x.isRoundedFrom d.toRat := by
  unfold nearestWithDigits at h
  unfold Decimal.toRat
  simp only at h
  split at h
  · next low high =>
      cases h
      split
      · exact low
      · exact_mod_cast high
  · next low _ => cases h; exact low
  · next _ high => cases h; exact_mod_cast high
  · cases h

theorem magnitude_pos (pos : 0 < x.mantissa) : 0 < x.magnitude := by
  rw [magnitude_eq]
  have := x.unit_pos
  positivity

/-- A float lies inside the interval that is rounded to it. -/
theorem roundingInterval_lt : x.roundingInterval.1 < x.magnitude ∧
    x.magnitude < x.roundingInterval.2 := by
  have pos := x.unit_pos
  have low : x.roundingInterval.1 ≤ (x.mantissa - 1 / 4) * x.unit := by
    unfold roundingInterval
    simp only
    rw [← unit]
    split <;> linarith
  have high : x.roundingInterval.2 = (x.mantissa + 1 / 2) * x.unit := rfl
  rw [magnitude_eq, high]
  constructor <;> nlinarith

/-- Two neighbours around a double are not both outside its interval if the grid is finer. -/
theorem isSome_nearestWithDigits {count : ℕ} (pos : 0 < x.mantissa)
    (fine : (10 : ℚ) ^ (floorLog10 x.magnitude - count + 1) <
      x.roundingInterval.2 - x.roundingInterval.1) : (x.nearestWithDigits count).isSome := by
  unfold nearestWithDigits
  simp only
  have step_pos : (0 : ℚ) < 10 ^ (floorLog10 x.magnitude - count + 1) := by positivity
  generalize (10 : ℚ) ^ (floorLog10 x.magnitude - count + 1) = step at fine step_pos ⊢
  have floor : ((x.magnitude / step).floor.toNat : ℚ) = (x.magnitude / step).floor := by
    have nonneg : 0 ≤ (x.magnitude / step).floor :=
      Rat.le_floor_iff.mpr (by simpa using (div_pos (magnitude_pos pos) step_pos).le)
    exact_mod_cast Int.toNat_of_nonneg nonneg
  have below : ((x.magnitude / step).floor.toNat : ℚ) * step ≤ x.magnitude := by
    rw [floor, ← le_div_iff₀ step_pos]
    exact Rat.floor_le _
  have above : x.magnitude < ((x.magnitude / step).floor.toNat + 1 : ℕ) * step := by
    rw [Nat.cast_add, floor, ← div_lt_iff₀ step_pos]
    exact_mod_cast Rat.lt_floor_add_one _
  generalize (x.magnitude / step).floor.toNat = n at below above ⊢
  obtain ⟨low, high⟩ := x.roundingInterval_lt
  split
  · rfl
  · rfl
  · rfl
  · next outLow outHigh =>
      -- both are outside, so the grid is no finer than the interval
      have outLow : n * step ≤ x.roundingInterval.1 := by
        by_contra! inside
        have := isRoundedFrom_of_lt inside (below.trans_lt high)
        simp [this] at outLow
      have outHigh : x.roundingInterval.2 ≤ (n + 1 : ℕ) * step := by
        by_contra! inside
        have := isRoundedFrom_of_lt (low.trans above) inside
        push_cast at this
        simp [this] at outHigh
      push_cast at outHigh
      linarith

/-- Seventeen digits make a grid finer than any interval. -/
theorem zpow_lt_roundingInterval (hx : x.IsDouble) (pos : 0 < x.mantissa) :
    (10 : ℚ) ^ (floorLog10 x.magnitude - (17 : ℕ) + 1) <
      x.roundingInterval.2 - x.roundingInterval.1 := by
  have unit_pos := x.unit_pos
  have log : (10 : ℚ) ^ (floorLog10 x.magnitude - (17 : ℕ) + 1) * 10 ^ 16 ≤ x.mantissa * x.unit :=
    calc (10 : ℚ) ^ (floorLog10 x.magnitude - (17 : ℕ) + 1) * 10 ^ 16
        = 10 ^ floorLog10 x.magnitude := by
          rw [← zpow_natCast, ← zpow_add₀ (by norm_num)]
          congr 1
          push_cast
          ring
      _ ≤ x.magnitude := zpow_floorLog10_le (magnitude_pos pos)
      _ = x.mantissa * x.unit := x.magnitude_eq
  generalize (10 : ℚ) ^ (floorLog10 x.magnitude - (17 : ℕ) + 1) = step at log ⊢
  have bound : (x.mantissa + 1 : ℚ) ≤ 2 * leastNormal := by exact_mod_cast hx.mantissa_lt
  unfold roundingInterval
  simp only
  rw [← unit]
  split
  · next least =>
      rw [least.1] at log ⊢
      simp only [leastNormal] at log
      push_cast at log
      linarith
  · simp only [leastNormal] at bound
    push_cast at bound
    nlinarith

theorem toRat_dropZeros (fuel : ℕ) (d : Decimal) : (d.dropZeros fuel).toRat = d.toRat := by
  induction fuel generalizing d with
  | zero => rfl
  | succ fuel ih =>
      rw [Decimal.dropZeros]
      split
      · next zero =>
          rw [ih, Decimal.toRat, Decimal.toRat]
          obtain ⟨n, hn⟩ := Nat.dvd_of_mod_eq_zero zero.2
          rw [hn, Nat.mul_div_cancel_left _ (by omega), zpow_add₀ (by norm_num), zpow_one]
          push_cast
          ring
      · rfl

/-- The shortest digits of a double round to it. -/
theorem isRoundedFrom_shortest (hx : x.IsDouble) : x.isRoundedFrom x.shortest.toRat := by
  unfold shortest
  split
  · next zero =>
      have value : x.magnitude = 0 := by rw [magnitude_eq, zero, Nat.cast_zero, zero_mul]
      have inside := x.roundingInterval_lt
      rw [value] at inside
      simpa [Decimal.toRat] using isRoundedFrom_of_lt inside.1 inside.2
  · next nonzero =>
      have pos := Nat.pos_of_ne_zero nonzero
      rw [toRat_dropZeros]
      have some : ((List.range 17).findSome? fun n => x.nearestWithDigits (n + 1)).isSome := by
        rw [List.findSome?_isSome_iff]
        exact ⟨16, List.mem_range.mpr (by omega),
          isSome_nearestWithDigits pos (zpow_lt_roundingInterval hx pos)⟩
      obtain ⟨d, hd⟩ := Option.isSome_iff_exists.mp some
      rw [hd]
      obtain ⟨n, -, hn⟩ := List.exists_of_findSome?_eq_some hd
      exact isRoundedFrom_of_nearestWithDigits hn

/-- The shortest digits say which double it is. -/
theorem eq_of_toRat_shortest (hx : x.IsDouble) (hy : y.IsDouble)
    (h : x.shortest.toRat = y.shortest.toRat) :
    x.mantissa = y.mantissa ∧ x.exponent = y.exponent :=
  eq_of_isRoundedFrom hx hy (isRoundedFrom_shortest hx) (h ▸ isRoundedFrom_shortest hy)

end Interval

end Binary64

end SliceContract
