import Mathlib.Data.List.Basic

/-!
# Lines

A text is cut into lines at its newlines. Texts that are joined by newlines keep their lines, so
there is a line for each of them exactly when none of them has a newline itself.
-/

namespace SliceContract

namespace Text

/-- The lines of a text, at least one. -/
def lines (text : String) : List String := (text.toList.splitOn '\n').map String.ofList

/-- Whether a text has no newline. -/
def OneLine (text : String) : Prop := '\n' ∉ text.toList

instance (text : String) : Decidable (OneLine text) := inferInstanceAs (Decidable (_ ∉ _))

/-! ## Texts without newlines -/

@[simp] theorem oneLine_append (s t : String) : OneLine (s ++ t) ↔ OneLine s ∧ OneLine t := by
  simp [OneLine]

@[simp] theorem oneLine_ofList (cs : List Char) : OneLine (String.ofList cs) ↔ '\n' ∉ cs := by
  simp [OneLine]

theorem oneLine_intercalate {separator : String} (h : OneLine separator) (texts : List String) :
    OneLine (separator.intercalate texts) ↔ ∀ text ∈ texts, OneLine text := by
  induction texts with
  | nil => simp [OneLine]
  | cons text rest ih =>
      cases rest with
      | nil => simp
      | cons next rest =>
          rw [String.intercalate_cons_cons, oneLine_append, oneLine_append, ih,
            List.forall_mem_cons]
          simp [h]

theorem oneLine_toString (n : Nat) : OneLine (toString n) := by
  rw [Nat.toString_eq_ofList_toDigits, oneLine_ofList]
  intro h
  cases Nat.isDigit_of_mem_toDigits (by decide) (by decide) h

/-! ## The lines of a text -/

theorem lines_of_oneLine {text : String} (h : OneLine text) : lines text = [text] := by
  rw [lines, List.splitOn_eq_singleton h, List.map_singleton, String.ofList_toList]

theorem lines_join (s t : String) : lines (s ++ "\n" ++ t) = lines s ++ lines t := by
  have newline : (s ++ "\n" ++ t).toList = s.toList ++ '\n' :: t.toList := by simp
  rw [lines, newline, List.splitOn_append_cons_self, List.map_append]
  rfl

theorem one_le_length_lines (text : String) : 1 ≤ (lines text).length := by
  rw [lines, List.length_map]
  exact List.length_pos_iff.mpr (List.splitOn_ne_nil _ _)

theorem length_lines_eq_one_iff (text : String) : (lines text).length = 1 ↔ OneLine text := by
  constructor
  · intro one newline
    -- What stands before a newline and what stands behind it have a line each.
    obtain ⟨before, behind, parts⟩ := List.append_of_mem newline
    have cut : text = String.ofList before ++ "\n" ++ String.ofList behind := by
      apply String.toList_inj.mp
      simp [parts]
    have first := one_le_length_lines (String.ofList before)
    have second := one_le_length_lines (String.ofList behind)
    rw [cut, lines_join, List.length_append] at one
    omega
  · intro h
    rw [lines_of_oneLine h]
    rfl

/-! ## The lines of several texts -/

/-- Texts that are joined by newlines have the lines of all. -/
theorem lines_intercalate {texts : List String} (ne : texts ≠ []) :
    lines ("\n".intercalate texts) = texts.flatMap lines := by
  induction texts with
  | nil => exact absurd rfl ne
  | cons text rest ih =>
      cases rest with
      | nil => simp
      | cons next rest =>
          rw [String.intercalate_cons_cons, lines_join, ih (List.cons_ne_nil _ _)]
          rfl

theorem length_le_flatMap_lines (texts : List String) :
    texts.length ≤ (texts.flatMap lines).length := by
  induction texts with
  | nil => exact Nat.le_refl 0
  | cons text rest ih =>
      have first := one_le_length_lines text
      rw [List.flatMap_cons, List.length_append, List.length_cons]
      omega

/-- Texts have as many lines as there are of them exactly if each is of one line. -/
theorem length_flatMap_lines_iff (texts : List String) :
    (texts.flatMap lines).length = texts.length ↔ ∀ text ∈ texts, OneLine text := by
  induction texts with
  | nil => simp
  | cons text rest ih =>
      have first := one_le_length_lines text
      have others := length_le_flatMap_lines rest
      rw [List.forall_mem_cons, ← ih, ← length_lines_eq_one_iff, List.flatMap_cons,
        List.length_append, List.length_cons]
      omega

/-- The lines of texts are the texts exactly if each is of one line. -/
theorem flatMap_lines_iff (texts : List String) :
    texts.flatMap lines = texts ↔ ∀ text ∈ texts, OneLine text := by
  constructor
  · intro same
    exact (length_flatMap_lines_iff texts).mp (congrArg List.length same)
  · intro h
    calc texts.flatMap lines
      _ = texts.flatMap fun text => [text] :=
          List.flatMap_congr fun text ht => lines_of_oneLine (h text ht)
      _ = texts := List.flatMap_singleton' texts

end Text

end SliceContract
