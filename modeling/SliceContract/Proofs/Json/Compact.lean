import SliceContract.Json.Compact
import SliceContract.Proofs.Json.Depth
import SliceContract.Proofs.Text.Lines

/-!
# Compact text stays in one line

Whatever texts a value has inside it, its compact text has no newline: the ones in texts and keys
are escaped, and nothing else has any.
-/

namespace SliceContract

open Text

namespace Layout

/-! ## Numbers -/

/-- Whether a text is made of digits and the marks of a number. -/
def Numeral (text : List Char) : Prop := ∀ c ∈ text, c.isDigit ∨ c ∈ ['-', '+', '.', 'e']

namespace Numeral

variable {s t : List Char}

theorem append (hs : Numeral s) (ht : Numeral t) : Numeral (s ++ t) :=
  List.forall_mem_append.mpr ⟨hs, ht⟩

theorem cons {c : Char} (hc : c.isDigit ∨ c ∈ ['-', '+', '.', 'e']) (ht : Numeral t) :
    Numeral (c :: t) :=
  List.forall_mem_cons.mpr ⟨hc, ht⟩

theorem of_subset (hs : Numeral s) (sub : t ⊆ s) : Numeral t := fun c hc => hs c (sub hc)

theorem zeros (n : Nat) : Numeral (List.replicate n '0') := by
  intro c hc
  rw [List.eq_of_mem_replicate hc]
  exact .inl rfl

theorem toDigits (n : Nat) : Numeral (Nat.toDigits 10 n) :=
  fun _ hc => .inl (Nat.isDigit_of_mem_toDigits (by decide) (by decide) hc)

theorem intText (n : Int) : Numeral (intText n) := by
  rw [Layout.intText]
  split
  · exact .cons (by simp) (.toDigits _)
  · exact .toDigits _

theorem exponentText (l : Layout) (e : Int) : Numeral (l.exponentText e) := by
  rw [Layout.exponentText]
  apply cons (by simp)
  split
  · exact .cons (by simp) (.intText e)
  · exact .intText e

theorem magnitudeText (l : Layout) {digits : List Char} (h : Numeral digits) (e : Int) :
    Numeral (l.magnitudeText digits e) := by
  simp only [Layout.magnitudeText]
  split
  · split
    · apply (h.append (.zeros _)).append
      split
      · exact .cons (by simp) (.cons (.inl rfl) (List.forall_mem_nil _))
      · exact List.forall_mem_nil _
    · split
      · apply (h.of_subset (List.take_subset _ _)).append
        exact .cons (by simp) (h.of_subset (List.drop_subset _ _))
      · exact .cons (.inl rfl) (.cons (by simp) ((zeros _).append h))
  · split
    · next d =>
      exact .cons (h d List.mem_cons_self) (.exponentText l e)
    · next d rest _ =>
      obtain ⟨first, others⟩ := List.forall_mem_cons.mp h
      exact .cons first (.append (.cons (by simp) others) (.exponentText l e))
    · exact List.forall_mem_nil _

/-- The text of a number has digits, signs, points and exponent marks only. -/
theorem text (l : Layout) (x : Binary64) : Numeral (l.text x) := by
  have body := magnitudeText l (.toDigits x.shortest.digits)
    (x.shortest.exponent + (Nat.toDigits 10 x.shortest.digits).length - 1)
  rw [Layout.text]
  split
  · exact .cons (by simp) body
  · exact body

theorem newline_not_mem (h : Numeral s) : '\n' ∉ s := by
  intro newline
  obtain digit | mark := h '\n' newline
  · cases digit
  · simp at mark

end Numeral

end Layout

namespace Json

theorem newline_not_mem_number (n : Number) : '\n' ∉ n.text := by
  cases n with
  | int value => exact (Layout.Numeral.intText value).newline_not_mem
  | float value => exact (Layout.Numeral.text _ value).newline_not_mem

/-! ## Texts -/

theorem hexDigit_ne_newline : ∀ n < 16, '\n' ≠ hexDigit n := by decide

theorem newline_not_mem_escape (c : Char) : '\n' ∉ escape c := by
  rw [escape]
  split_ifs with quote backslash back feed newline ret tab control
  any_goals decide
  · have first := hexDigit_ne_newline (c.toNat / 16) (by omega)
    have second := hexDigit_ne_newline (c.toNat % 16) (by omega)
    simp [first, second]
  · simpa [eq_comm] using newline

theorem newline_not_mem_quoted (s : String) : '\n' ∉ quoted s := by
  simp [quoted, newline_not_mem_escape]

/-! ## Values -/

theorem newline_not_mem_items {xs : List Json} (h : ∀ x ∈ xs, '\n' ∉ x.text) :
    '\n' ∉ text.items xs := by
  induction xs with
  | nil => decide
  | cons x rest ih =>
      obtain ⟨first, others⟩ := List.forall_mem_cons.mp h
      cases rest with
      | nil => exact first
      | cons y rest => simp [text.items, first, ih others]

theorem newline_not_mem_members {ms : Entries Json} (h : ∀ m ∈ ms, '\n' ∉ m.2.text) :
    '\n' ∉ text.members ms := by
  induction ms with
  | nil => decide
  | cons m rest ih =>
      obtain ⟨first, others⟩ := List.forall_mem_cons.mp h
      cases rest with
      | nil => simp [text.members, newline_not_mem_quoted, first]
      | cons m rest => simp [text.members, newline_not_mem_quoted, first, ih others]

/-- The text of a value has no newlines, whatever strings are in it. -/
theorem newline_not_mem_text (v : Json) : '\n' ∉ v.text := by
  induction v using depth_induction with
  | step v ih =>
  cases v with
  | null => decide
  | bool b => cases b <;> decide
  | number n => exact newline_not_mem_number n
  | string s => exact newline_not_mem_quoted s
  | array xs =>
      have items := newline_not_mem_items fun x hx => ih x (depth_lt_of_mem_array hx)
      simp [text, items]
  | object ms =>
      have members := newline_not_mem_members fun m hm => ih m.2 (depth_lt_of_mem_object hm)
      simp [text, members]

theorem oneLine_compact (v : Json) : OneLine v.compact :=
  (oneLine_ofList v.text).mpr v.newline_not_mem_text

end Json

end SliceContract
