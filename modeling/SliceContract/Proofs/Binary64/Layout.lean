import SliceContract.Proofs.Binary64.Shortest
import SliceContract.Yaml.Resolution

/-!
# Written doubles read back

However the digits of a double are set out, the decimal that its text spells is the one that they
stand for. So no two doubles have the same text.
-/

namespace SliceContract

namespace Yaml.Resolution

/-! ## Reading digits -/

section Digits

variable {digits rest : List Char}

theorem natural?_ten (ne : digits ≠ []) (h : ∀ c ∈ digits, c.isDigit) :
    natural? 10 digits = some (Nat.ofDigitChars 10 digits 0) := by
  have fold (n : ℕ) (cs : List Char) (h : ∀ c ∈ cs, c.isDigit) :
      cs.foldlM (fun n c => (digitValue? 10 c).map (n * 10 + ·)) n =
        some (Nat.ofDigitChars 10 cs n) := by
    induction cs generalizing n with
    | nil => rfl
    | cons c cs ih =>
        have digit := h c List.mem_cons_self
        have small : c.toNat - 48 < 10 := by
          simp only [Char.isDigit, decide_eq_true_eq, Bool.and_eq_true,
            UInt32.le_iff_toNat_le] at digit
          have : c.toNat ≤ 57 := digit.2
          omega
        have value : digitValue? 10 c = some (c.toNat - '0'.toNat) := by
          simp [digitValue?, digit, small]
        rw [List.foldlM_cons, value, Nat.ofDigitChars_cons]
        simpa [Nat.mul_comm] using ih _ fun d hd => h d (List.mem_cons_of_mem _ hd)
  rw [natural?, if_neg (by simpa using ne), fold 0 digits h]

/-- Digits end where something else begins. -/
theorem takeWhile_isDigit (h : ∀ c ∈ digits, c.isDigit)
    (stop : ∀ c ∈ rest.head?, c.isDigit = false) :
    (digits ++ rest).takeWhile Char.isDigit = digits := by
  rw [List.takeWhile_append_of_pos h]
  cases rest with
  | nil => simp
  | cons c _ => simp [stop c rfl]

theorem dropWhile_isDigit (h : ∀ c ∈ digits, c.isDigit)
    (stop : ∀ c ∈ rest.head?, c.isDigit = false) :
    (digits ++ rest).dropWhile Char.isDigit = rest := by
  rw [List.dropWhile_append_of_pos h]
  cases rest with
  | nil => simp
  | cons c _ => simp [stop c rfl]

/-- Whether a text without a sign is a decimal of some value. -/
def Spells (text : List Char) (q : ℚ) : Prop := ∃ d, decimal? text = some d ∧ d.toRat = q

/-- Digits with a point in them and what follows them. -/
theorem spells_fraction (whole fraction rest : List Char) {e : ℤ}
    (hw : ∀ c ∈ whole, c.isDigit) (hf : ∀ c ∈ fraction, c.isDigit) (ne : whole ≠ [])
    (stop : ∀ c ∈ rest.head?, c.isDigit = false) (he : exponent? rest = some e) :
    Spells (whole ++ '.' :: (fraction ++ rest))
      (Nat.ofDigitChars 10 (whole ++ fraction) 0 * 10 ^ (e - fraction.length)) := by
  have point : ∀ c ∈ ('.' :: (fraction ++ rest)).head?, c.isDigit = false := by simp
  have digits : ∀ c ∈ whole ++ fraction, c.isDigit :=
    fun c hc => (List.mem_append.mp hc).elim (hw c) (hf c)
  refine ⟨⟨Nat.ofDigitChars 10 (whole ++ fraction) 0, e - fraction.length⟩, ?_, rfl⟩
  simp only [decimal?, takeWhile_isDigit hw point, dropWhile_isDigit hw point,
    takeWhile_isDigit hf stop, dropWhile_isDigit hf stop,
    natural?_ten (List.append_ne_nil_of_left_ne_nil ne fraction) digits, he]

/-- Digits without a point and what follows them. -/
theorem spells_whole (digits rest : List Char) {e : ℤ} (h : ∀ c ∈ digits, c.isDigit)
    (ne : digits ≠ []) (stop : ∀ c ∈ rest.head?, c.isDigit = false ∧ c ≠ '.')
    (he : exponent? rest = some e) :
    Spells (digits ++ rest) (Nat.ofDigitChars 10 digits 0 * 10 ^ e) := by
  have notDigit : ∀ c ∈ rest.head?, c.isDigit = false := fun c hc => (stop c hc).1
  refine ⟨⟨Nat.ofDigitChars 10 digits 0, e⟩, ?_, rfl⟩
  simp only [decimal?, takeWhile_isDigit h notDigit, dropWhile_isDigit h notDigit]
  cases rest with
  | nil => simp [natural?_ten ne h, he]
  | cons c _ =>
      have notPoint : c ≠ '.' := (stop c rfl).2
      simp [notPoint, natural?_ten ne h, he]

end Digits

end Yaml.Resolution

namespace Layout

open Yaml.Resolution

/-! ## What is spelled -/

theorem isDigit_toDigits {n : ℕ} : ∀ c ∈ Nat.toDigits 10 n, c.isDigit :=
  fun _ hc => Nat.isDigit_of_mem_toDigits (by omega) le_rfl hc

theorem ne_of_isDigit {c d : Char} (hc : c.isDigit) (hd : d.isDigit = false) : c ≠ d :=
  fun same => by rw [same, hd] at hc; cases hc

theorem isDigit_head?_toDigits {n : ℕ} : ∃ c ∈ (Nat.toDigits 10 n).head?, c.isDigit := by
  obtain ⟨c, rest, h⟩ := List.exists_cons_of_ne_nil (Nat.toDigits_ne_nil (n := n) (b := 10))
  exact ⟨c, by rw [h]; rfl, isDigit_toDigits c (h ▸ List.mem_cons_self)⟩

theorem exponent?_exponentText (l : Layout) (e : ℤ) : exponent? (l.exponentText e) = some e := by
  unfold exponentText intText
  have ne := Nat.toDigits_ne_nil (n := e.natAbs) (b := 10)
  have digits := isDigit_toDigits (n := e.natAbs)
  have value := natural?_ten ne digits
  rw [Nat.ofDigitChars_ten_toDigits] at value
  obtain ⟨c, cs, hcs⟩ := List.exists_cons_of_ne_nil ne
  rw [hcs] at value
  have first : c.isDigit := digits c (hcs ▸ List.mem_cons_self)
  have notMinus : c ≠ '-' := ne_of_isDigit first rfl
  have notPlus : c ≠ '+' := ne_of_isDigit first rfl
  rcases lt_or_ge e 0 with negative | nonneg
  · rw [if_neg (by omega), if_pos negative, hcs]
    simp [exponent?, isExponentMark, value, abs_of_neg negative]
  · rw [if_neg (by omega : ¬ e < 0), hcs]
    split
    · simp [exponent?, isExponentMark, dropPlus, value, abs_of_nonneg nonneg]
    · simp [exponent?, isExponentMark, dropPlus, value, notMinus, notPlus, abs_of_nonneg nonneg]

theorem stops_exponentText (l : Layout) (e : ℤ) :
    ∀ c ∈ (l.exponentText e).head?, c.isDigit = false ∧ c ≠ '.' := by
  simp [exponentText]

section Magnitude

variable (l : Layout) (e : ℤ) {digits : List Char} (h : ∀ c ∈ digits, c.isDigit) (ne : digits ≠ [])

include h ne

/-- Digits with a point among or before them spell the number. -/
theorem spells_positional (positional : l.positional e) :
    Spells (l.magnitudeText digits e)
      (Nat.ofDigitChars 10 digits 0 * 10 ^ (e + 1 - digits.length)) := by
  have zeros (n : ℕ) : ∀ c ∈ List.replicate n '0', c.isDigit :=
    fun c hc => by rw [List.eq_of_mem_replicate hc]; rfl
  have length_pos := List.length_pos_of_ne_nil ne
  simp only [magnitudeText, positional, if_true]
  split
  · next long =>
      -- zeros lead from the last digit to the point
      have padded : ∀ c ∈ digits ++ List.replicate ((e + 1).toNat - digits.length) '0', c.isDigit :=
        fun c hc => (List.mem_append.mp hc).elim (h c) (zeros _ c)
      have place : e + 1 - digits.length = ((e + 1).toNat - digits.length : ℕ) := by omega
      rw [place, zpow_natCast]
      split
      · convert spells_fraction _ ['0'] [] padded (by simp) (by simp [ne]) (by simp) rfl using 1
        · simp
        · rw [Nat.ofDigitChars_append, Nat.ofDigitChars_append, Nat.ofDigitChars_replicate_zero]
          simp [Nat.ofDigitChars_cons]
          ring
      · convert spells_whole _ [] padded (by simp [ne]) (by simp) rfl using 1
        rw [Nat.ofDigitChars_append, Nat.ofDigitChars_replicate_zero]
        simp
        ring
  · split
    · next short nonneg =>
        convert spells_fraction (digits.take (e + 1).toNat) (digits.drop (e + 1).toNat) []
          (fun c hc => h c (List.mem_of_mem_take hc)) (fun c hc => h c (List.mem_of_mem_drop hc))
          (by simp [ne]; omega) (by simp) rfl using 1
        · simp
        · rw [List.take_append_drop, List.length_drop]
          congr 2
          omega
    · next short negative =>
        -- zeros lead from the point to the first digit
        convert spells_fraction ['0'] (List.replicate (-e - 1).toNat '0' ++ digits) []
          (by simp) (fun c hc => (List.mem_append.mp hc).elim (zeros _ c) (h c)) (by simp)
          (by simp) rfl using 1
        · simp
        · rw [Nat.ofDigitChars_append, Nat.ofDigitChars_append, Nat.ofDigitChars_replicate_zero]
          simp only [List.length_append, List.length_replicate]
          congr 2
          push_cast
          omega

/-- Digits with an exponent spell the number. -/
theorem spells_scientific (scientific : ¬ l.positional e) :
    Spells (l.magnitudeText digits e)
      (Nat.ofDigitChars 10 digits 0 * 10 ^ (e + 1 - digits.length)) := by
  have stop := l.stops_exponentText e
  have value := l.exponent?_exponentText e
  simp only [magnitudeText, scientific]
  obtain ⟨d, rest, rfl⟩ := List.exists_cons_of_ne_nil ne
  cases rest with
  | nil =>
      convert spells_whole _ _ h ne stop value using 1
      · simp
      · simp
  | cons second rest =>
      obtain ⟨first, others⟩ := List.forall_mem_cons.mp h
      convert spells_fraction _ _ _ (List.forall_mem_singleton.mpr first) others (by simp)
        (fun c hc => (stop c hc).1) value using 1
      · simp
      · simp

/-- The text of digits spells them, with the leading one at its place. -/
theorem spells_magnitudeText : Spells (l.magnitudeText digits e)
    (Nat.ofDigitChars 10 digits 0 * 10 ^ (e + 1 - digits.length)) := by
  by_cases positional : l.positional e
  · exact l.spells_positional e h ne positional
  · exact l.spells_scientific e h ne positional

end Magnitude

/-! ## Signs -/

/-- A text with a minus sign in front, or without one. -/
def signed (negative : Bool) (text : List Char) : List Char :=
  if negative then '-' :: text else text

section Signed

variable {a b : Bool} {s t : List Char}

theorem dropSign_signed (hs : ∃ c ∈ s.head?, c.isDigit) : dropSign (signed a s) = s := by
  obtain ⟨c, hc, digit⟩ := hs
  obtain ⟨rest, rfl⟩ := List.head?_eq_some_iff.mp hc
  have notPlus : c ≠ '+' := ne_of_isDigit digit rfl
  have notMinus : c ≠ '-' := ne_of_isDigit digit rfl
  cases a <;> simp [signed, dropSign, notPlus, notMinus]

/-- A text with a sign tells the sign and the rest. -/
theorem eq_of_signed_eq (hs : ∃ c ∈ s.head?, c.isDigit) (ht : ∃ c ∈ t.head?, c.isDigit)
    (h : signed a s = signed b t) : a = b ∧ s = t := by
  have texts : s = t := by rw [← dropSign_signed hs, h, dropSign_signed ht]
  refine ⟨?_, texts⟩
  have lengths := congrArg List.length h
  rw [texts] at lengths
  cases a <;> cases b <;> simp [signed] at lengths ⊢

end Signed

theorem intText_eq (n : ℤ) : intText n = signed (n < 0) (Nat.toDigits 10 n.natAbs) := by
  simp [intText, signed]

theorem eq_of_intText_eq {m n : ℤ} (h : intText m = intText n) : m = n := by
  rw [intText_eq, intText_eq] at h
  obtain ⟨signs, digits⟩ := eq_of_signed_eq isDigit_head?_toDigits isDigit_head?_toDigits h
  have sizes := congrArg (Nat.ofDigitChars 10 · 0) digits
  simp only [Nat.ofDigitChars_ten_toDigits] at sizes
  simp only [decide_eq_decide] at signs
  omega

/-- What stands behind the sign of a written double. -/
def body (l : Layout) (x : Binary64) : List Char :=
  l.magnitudeText (Nat.toDigits 10 x.shortest.digits)
    (x.shortest.exponent + (Nat.toDigits 10 x.shortest.digits).length - 1)

theorem text_eq (l : Layout) (x : Binary64) : l.text x = signed x.negative (l.body x) := rfl

/-- The text of a float spells its shortest decimal. -/
theorem spells_body (l : Layout) (x : Binary64) : Spells (l.body x) x.shortest.toRat := by
  have place (n : ℤ) : x.shortest.exponent + n - 1 + 1 - n = x.shortest.exponent := by omega
  have spelled := l.spells_magnitudeText
    (x.shortest.exponent + (Nat.toDigits 10 x.shortest.digits).length - 1)
    (isDigit_toDigits (n := x.shortest.digits)) Nat.toDigits_ne_nil
  rwa [Nat.ofDigitChars_ten_toDigits, place] at spelled

/-- A written magnitude begins with a digit. -/
theorem isDigit_head?_magnitudeText (l : Layout) (e : ℤ) {digits : List Char}
    (h : ∀ c ∈ digits, c.isDigit) (ne : digits ≠ []) :
    ∃ c ∈ (l.magnitudeText digits e).head?, c.isDigit := by
  obtain ⟨c, rest, rfl⟩ := List.exists_cons_of_ne_nil ne
  have first : c.isDigit := h c List.mem_cons_self
  simp only [magnitudeText]
  split
  · split
    · exact ⟨c, rfl, first⟩
    · split
      · next nonneg =>
          have one : (e + 1).toNat = e.toNat + 1 := by omega
          rw [one]
          exact ⟨c, rfl, first⟩
      · exact ⟨'0', rfl, rfl⟩
  · cases rest with
    | nil => exact ⟨c, rfl, first⟩
    | cons d rest => exact ⟨c, rfl, first⟩

theorem isDigit_head?_body (l : Layout) (x : Binary64) : ∃ c ∈ (l.body x).head?, c.isDigit :=
  l.isDigit_head?_magnitudeText _ isDigit_toDigits Nat.toDigits_ne_nil

/-- No two doubles have the same text. -/
theorem eq_of_text_eq (l : Layout) {x y : Binary64} (hx : x.IsDouble) (hy : y.IsDouble)
    (h : l.text x = l.text y) : x = y := by
  obtain ⟨signs, bodies⟩ := eq_of_signed_eq (l.isDigit_head?_body x) (l.isDigit_head?_body y) h
  obtain ⟨d, hd, value⟩ := l.spells_body x
  obtain ⟨d', hd', value'⟩ := l.spells_body y
  rw [bodies, hd'] at hd
  cases hd
  obtain ⟨mantissa, exponent⟩ := Binary64.eq_of_toRat_shortest hx hy (value.symm.trans value')
  obtain ⟨_, _, _⟩ := x
  obtain ⟨_, _, _⟩ := y
  cases signs
  cases mantissa
  cases exponent
  rfl

/-- A layout that keeps fractions marks a double as one, by its point or its exponent. -/
theorem exists_mark_magnitudeText (l : Layout) (keeps : l.keepsFraction) (e : ℤ)
    {digits : List Char} (ne : digits ≠ []) :
    ∃ c ∈ l.magnitudeText digits e, c = '.' ∨ c = 'e' := by
  simp only [magnitudeText, keeps]
  split
  · refine ⟨'.', ?_, .inl rfl⟩
    split
    · simp
    · split <;> simp
  · refine ⟨'e', ?_, .inr rfl⟩
    split
    · simp [exponentText]
    · simp [exponentText]
    · exact absurd rfl ne

/-- Where floats keep a fraction, no float reads like an integer. -/
theorem text_ne_intText (l : Layout) (keeps : l.keepsFraction) (x : Binary64) (n : ℤ) :
    l.text x ≠ intText n := by
  rw [text_eq, intText_eq]
  intro h
  obtain ⟨-, bodies⟩ := eq_of_signed_eq (l.isDigit_head?_body x) isDigit_head?_toDigits h
  obtain ⟨c, hc, mark⟩ : ∃ c ∈ l.body x, c = '.' ∨ c = 'e' :=
    l.exists_mark_magnitudeText keeps _ Nat.toDigits_ne_nil
  have digit : c.isDigit := isDigit_toDigits c (bodies ▸ hc)
  rcases mark with rfl | rfl <;> cases digit

end Layout

end SliceContract
