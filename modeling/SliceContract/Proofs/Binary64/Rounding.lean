import SliceContract.Proofs.Binary64.Shortest

/-!
# Rounding gives doubles

The significand that a quotient is rounded to has at most 53 bits, and fills them unless the
exponent is the least one. The main statement is `isDouble_of_ofDecimal?`.
-/

namespace SliceContract

namespace Binary64

/-! ## The scale of a quotient -/

theorem two_pow_toNat (e : ℤ) : (2 : ℚ) ^ e.toNat = 2 ^ (-e).toNat * 2 ^ e := by
  rcases le_total 0 e with nonneg | nonpos
  · obtain ⟨n, rfl⟩ := Int.eq_ofNat_of_zero_le nonneg
    simp
  · obtain ⟨n, hn⟩ := Int.eq_ofNat_of_zero_le (Int.neg_nonneg_of_nonpos nonpos)
    obtain rfl : e = -n := by omega
    simp

/-- A quotient on the grid of an exponent, compared without fractions. -/
theorem scaled_le_iff (num den : ℕ) (e : ℤ) (k : ℕ) :
    k * (den * Nat.pow 2 e.toNat) ≤ num * Nat.pow 2 (-e).toNat ↔ (k * 2 ^ e * den : ℚ) ≤ num := by
  have pos : (0 : ℚ) < 2 ^ (-e).toNat := by positivity
  have regroup : (k * (den * (2 ^ (-e).toNat * 2 ^ e)) : ℚ) =
      2 ^ (-e).toNat * (k * 2 ^ e * den) := by ring
  rw [← @Nat.cast_le ℚ]
  push_cast [Nat.pow_eq, two_pow_toNat e]
  rw [regroup, mul_comm (num : ℚ), mul_le_mul_iff_of_pos_left pos]

/-- The scale of a quotient is the power of two that it lies above. -/
theorem zpow_floorLog2_le {num den : ℕ} (hnum : 0 < num) (hden : 0 < den) :
    (2 ^ floorLog2 num den * den : ℚ) ≤ num ∧ (num : ℚ) < 2 ^ (floorLog2 num den + 1) * den := by
  have lowNum : (2 ^ (num.log2 : ℤ) : ℚ) ≤ num := by
    exact_mod_cast Nat.log2_self_le hnum.ne'
  have highNum : (num : ℚ) < 2 ^ (num.log2 + 1 : ℤ) := by
    exact_mod_cast Nat.lt_log2_self (n := num)
  have lowDen : (2 ^ (den.log2 : ℤ) : ℚ) ≤ den := by
    exact_mod_cast Nat.log2_self_le hden.ne'
  have highDen : (den : ℚ) < 2 ^ (den.log2 + 1 : ℤ) := by
    exact_mod_cast Nat.lt_log2_self (n := den)
  have exact := scaled_le_iff num den ((num.log2 : ℤ) - den.log2) 1
  rw [one_mul, Nat.cast_one, one_mul] at exact
  simp only [floorLog2]
  split
  · next reached =>
      refine ⟨exact.mp reached, highNum.trans_le ?_⟩
      calc (2 : ℚ) ^ (num.log2 + 1 : ℤ)
          = 2 ^ ((num.log2 : ℤ) - den.log2 + 1) * 2 ^ (den.log2 : ℤ) := by
            rw [← zpow_add₀ two_ne_zero]
            congr 1
            omega
        _ ≤ 2 ^ ((num.log2 : ℤ) - den.log2 + 1) * den := by gcongr
  · next missed =>
      rw [exact, not_le] at missed
      refine ⟨?_, by rwa [sub_add_cancel]⟩
      calc (2 : ℚ) ^ ((num.log2 : ℤ) - den.log2 - 1) * den
          ≤ 2 ^ ((num.log2 : ℤ) - den.log2 - 1) * 2 ^ (den.log2 + 1 : ℤ) := by gcongr
        _ = 2 ^ (num.log2 : ℤ) := by
            rw [← zpow_add₀ two_ne_zero]
            congr 1
            omega
        _ ≤ num := lowNum

/-- Rounding goes down or one up. -/
theorem roundHalfEven_bounds (num den : ℕ) :
    num / den ≤ roundHalfEven num den ∧ roundHalfEven num den ≤ num / den + 1 := by
  simp only [roundHalfEven]
  split_ifs <;> omega

theorem isDouble_zero (negative : Bool) : (zero negative).IsDouble where
  mantissa_lt := by simp [zero, leastNormal]
  minExponent_le := le_rfl
  filled := fun above => absurd above (lt_irrefl _)

/-- What a quotient is rounded to fits into a float. -/
theorem isDouble_of_ofRatio? {negative : Bool} {num den : ℕ} {x : Binary64} (hden : 0 < den)
    (h : ofRatio? negative num den = some x) : x.IsDouble := by
  unfold ofRatio? at h
  split at h
  · cases h
    exact isDouble_zero negative
  · next nonzero =>
      obtain ⟨low, high⟩ := zpow_floorLog2_le (Nat.pos_of_ne_zero nonzero) hden
      generalize floorLog2 num den = log at h low high
      generalize he : max minExponent (log - 52) = e at h
      simp only at h
      have bounds := roundHalfEven_bounds (num * Nat.pow 2 (-e).toNat) (den * Nat.pow 2 e.toNat)
      have pos : 0 < den * Nat.pow 2 e.toNat := Nat.mul_pos hden (Nat.pow_pos (by omega))
      have small : num * Nat.pow 2 (-e).toNat / (den * Nat.pow 2 e.toNat) < 2 * leastNormal := by
        rw [Nat.div_lt_iff_lt_mul pos, ← not_le, scaled_le_iff, not_le]
        refine high.trans_le ?_
        gcongr
        calc (2 : ℚ) ^ (log + 1) ≤ 2 ^ ((53 : ℤ) + e) :=
              zpow_le_zpow_right₀ one_le_two (by omega)
          _ = (2 * leastNormal : ℕ) * 2 ^ e := by
              rw [zpow_add₀ two_ne_zero]
              norm_num [leastNormal]
      have large : minExponent < e →
          leastNormal ≤ num * Nat.pow 2 (-e).toNat / (den * Nat.pow 2 e.toNat) := by
        intro above
        have exact : log = (52 : ℤ) + e := by omega
        rw [Nat.le_div_iff_mul_le pos, scaled_le_iff]
        refine le_trans (le_of_eq ?_) low
        rw [exact, zpow_add₀ two_ne_zero]
        norm_num [leastNormal]
      split at h
      · -- the significand is one bit too long, so it is halved
        split at h
        · cases h
          exact ⟨by simp [leastNormal], by simp only; omega, fun _ => le_rfl⟩
        · cases h
      · next fits =>
          split at h
          · cases h
            refine ⟨?_, ?_, fun above => (large above).trans bounds.1⟩
            · simp only
              omega
            · simp only
              omega
          · cases h

theorem isDouble_of_ofDecimal? {negative : Bool} {digits : ℕ} {exponent : ℤ} {x : Binary64}
    (h : ofDecimal? negative digits exponent = some x) : x.IsDouble := by
  simp only [ofDecimal?] at h
  split at h
  · cases h
    exact isDouble_zero negative
  · split at h
    · cases h
    · exact isDouble_of_ofRatio? (Rat.den_pos _) h

end Binary64

end SliceContract
