import Mathlib.Data.List.DropRight
import SliceContract.Proofs.Location

/-!
# The innermost key of a pointer

A pointer is searched in its escaped segments, from the right. What is found is a token of the
location as it was before it was escaped: escaping keeps apart what is empty, what is a number and
what is neither, and it is undone for the segment that is found. The main statement is
`innermostKey_text`.
-/

namespace SliceContract

namespace Pointer

/-! ## Numbers among the tokens -/

/-- Whether a token is a number of 64 bits: digits after at most one plus sign. -/
def Numeral64 (token : List Char) : Prop :=
  ∃ sign digits, token = sign ++ digits ∧ (sign = [] ∨ sign = ['+']) ∧ digits ≠ [] ∧
    (∀ c ∈ digits, c.isDigit) ∧ Nat.ofDigitChars 10 digits 0 < UInt64.size

/-- Without a sign a number starts with a digit, so the sign can be told from the digits. -/
theorem numeral64_iff_of_unsigned {token : List Char} (unsigned : token.head? ≠ some '+') :
    Numeral64 token ↔
      token ≠ [] ∧ (∀ c ∈ token, c.isDigit) ∧ Nat.ofDigitChars 10 token 0 < UInt64.size := by
  constructor
  · rintro ⟨sign, digits, rfl, rfl | rfl, number⟩
    · exact number
    · exact absurd rfl unsigned
  · intro number
    exact ⟨[], token, rfl, .inl rfl, number⟩

theorem numeral64_plus_iff {digits : List Char} :
    Numeral64 ('+' :: digits) ↔
      digits ≠ [] ∧ (∀ c ∈ digits, c.isDigit) ∧ Nat.ofDigitChars 10 digits 0 < UInt64.size := by
  constructor
  · rintro ⟨sign, digits', same, rfl | rfl, number⟩
    · rw [List.nil_append] at same
      cases number.2.1 '+' (same ▸ List.mem_cons_self)
    · cases same
      exact number
  · intro number
    exact ⟨['+'], digits, rfl, .inr rfl, number⟩

theorem isIndex_iff_numeral64 (token : List Char) : isIndex token ↔ Numeral64 token := by
  by_cases signed : ∃ digits, token = '+' :: digits
  · obtain ⟨digits, rfl⟩ := signed
    rw [numeral64_plus_iff]
    simp [isIndex, indexValue?, and_assoc]
  · have unsigned : token.head? ≠ some '+' := by
      intro plus
      obtain ⟨digits, rfl⟩ := List.head?_eq_some_iff.mp plus
      exact signed ⟨digits, rfl⟩
    rw [numeral64_iff_of_unsigned unsigned, isIndex,
      indexValue?.eq_2 token fun digits plus => signed ⟨digits, plus⟩]
    simp [and_assoc]

instance : DecidablePred Numeral64 := fun token => decidable_of_iff _ (isIndex_iff_numeral64 token)

/-! ## The search -/

/-- The last token that is no number, among those after the last empty token. -/
def lastUnnumbered? (tokens : List (List Char)) : Option (List Char) :=
  ((tokens.rtakeWhile (· ≠ [])).filter fun t => ¬ Numeral64 t).getLast?

theorem lastUnnumbered?_append_empty (tokens : List (List Char)) :
    lastUnnumbered? (tokens ++ [[]]) = none := by
  rw [lastUnnumbered?, List.rtakeWhile_concat_neg _ _ _ (by simp)]
  rfl

theorem lastUnnumbered?_append_numeral {t : List Char} (h : Numeral64 t)
    (tokens : List (List Char)) : lastUnnumbered? (tokens ++ [t]) = lastUnnumbered? tokens := by
  have filled : t ≠ [] := by
    rintro rfl
    exact absurd h (by decide)
  rw [lastUnnumbered?, List.rtakeWhile_concat_pos _ _ _ (by simpa), List.filter_append]
  simp [lastUnnumbered?, h]

theorem lastUnnumbered?_append_other {t : List Char} (filled : t ≠ []) (h : ¬ Numeral64 t)
    (tokens : List (List Char)) : lastUnnumbered? (tokens ++ [t]) = some t := by
  rw [lastUnnumbered?, List.rtakeWhile_concat_pos _ _ _ (by simpa), List.filter_append]
  simp [h]

end Pointer

open Pointer

/-- The key that a pointer names is, as it was before it was escaped, the last token of the location
that is no number of 64 bits, among those after the last empty token; if there is none, the pointer
names no key. -/
theorem innermostKey_text (l : Location) :
    innermostKey (text l) = (lastUnnumbered? (l.map token)).map String.ofList := by
  induction l using List.reverseRecOn with
  | nil => rfl
  | append_singleton l step ih =>
      rw [innermostKey_append_single, List.map_append, List.map_singleton]
      by_cases empty : token step = []
      · rw [if_pos empty, empty, lastUnnumbered?_append_empty]
        rfl
      · rw [if_neg empty]
        by_cases index : isIndex (token step)
        · have numeral := (isIndex_iff_numeral64 _).mp index
          rw [if_pos index, ih, lastUnnumbered?_append_numeral numeral]
        · have other := mt (isIndex_iff_numeral64 _).mpr index
          rw [if_neg index, lastUnnumbered?_append_other empty other]
          rfl

-- What is before the empty key is not looked at, and `~01` is read as `~1`.
example : innermostKey (text [.member "a", .member "", .member "~1", .element 3, .member "+7"]) =
    some "~1" := by
  decide

end SliceContract
