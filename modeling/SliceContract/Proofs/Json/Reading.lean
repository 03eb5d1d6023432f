import SliceContract.Json.Compact
import SliceContract.Json.Reader
import SliceContract.Proofs.Binary64.Layout
import SliceContract.Proofs.Entries
import SliceContract.Proofs.Json.Places
import SliceContract.Proofs.Json.Depth

/-!
# Compact text is read as its value

A value without floating-point numbers is what its compact text is read as, as long as its nesting
is not too deep. Each part of the text is read wherever it stands in a longer one, and the reader
stops right behind it. The main statement is `Json.parse_compact`.
-/

namespace SliceContract

namespace Json

/-- Whether a value is no floating-point number. -/
def NotFloat (v : Json) : Prop := ∀ x, v ≠ .number (.float x)

/-! ## Compact text -/

/-- The text of a number begins with a sign or a digit. -/
theorem exists_text_number (n : Number) : ∃ c cs, n.text = c :: cs ∧ (c = '-' ∨ c.isDigit) := by
  have signed (negative : Bool) {body : List Char} (h : ∃ c ∈ body.head?, c.isDigit) :
      ∃ c cs, Layout.signed negative body = c :: cs ∧ (c = '-' ∨ c.isDigit) := by
    obtain ⟨c, head, digit⟩ := h
    obtain ⟨cs, rfl⟩ := List.head?_eq_some_iff.mp head
    cases negative with
    | false => exact ⟨c, cs, rfl, .inr digit⟩
    | true => exact ⟨'-', c :: cs, rfl, .inl rfl⟩
  cases n with
  | int n =>
      rw [Number.text, Layout.intText_eq]
      exact signed _ Layout.isDigit_head?_toDigits
  | float x =>
      rw [Number.text, Layout.text_eq]
      exact signed _ (Layout.isDigit_head?_body _ x)

/-- A text begins with no blank and closes nothing. -/
theorem exists_text (v : Json) :
    ∃ c cs, v.text = c :: cs ∧ Reader.isBlank c = false ∧ c ≠ ']' := by
  cases v with
  | null => exact ⟨'n', _, rfl, rfl, by decide⟩
  | bool b => cases b <;> exact ⟨_, _, rfl, rfl, by decide⟩
  | string s => exact ⟨'"', _, rfl, rfl, by decide⟩
  | array xs => exact ⟨'[', _, rfl, rfl, by decide⟩
  | object ms => exact ⟨'{', _, rfl, rfl, by decide⟩
  | number n =>
      obtain ⟨c, cs, written, rfl | digit⟩ := exists_text_number n
      · exact ⟨'-', cs, written, rfl, by decide⟩
      · have differs {d : Char} : d.isDigit = false → c ≠ d := Layout.ne_of_isDigit digit
        exact ⟨c, cs, written, by simp [Reader.isBlank, differs], differs rfl⟩

theorem items_cons (x : Json) (xs : List Json) :
    text.items (x :: xs) = x.text ++ xs.flatMap fun x => ',' :: x.text := by
  induction xs generalizing x with
  | nil => simp [text.items]
  | cons y rest ih => rw [text.items, ih, List.flatMap_cons, List.cons_append]

/-- A key in quotes and its value, with a colon between them. -/
def memberText (m : String × Json) : List Char := quoted m.1 ++ ':' :: m.2.text

theorem members_cons (m : String × Json) (ms : Entries Json) :
    text.members (m :: ms) = memberText m ++ ms.flatMap fun m => ',' :: memberText m := by
  induction ms generalizing m with
  | nil => simp [text.members, memberText]
  | cons y rest ih => simp [text.members, ih, memberText, List.flatMap_cons]

namespace Reader

section Takes

variable {α β γ : Type} {read : Cursor → Except Error (α × Cursor)} {written more rest : List Char}
  {x : α} {y : β}

/-- Whether a reader takes what is written for a value, wherever it stands, and leaves the rest. -/
def Takes (read : Cursor → Except Error (α × Cursor)) (written : List Char) (x : α)
    (rest : List Char) : Prop :=
  ∀ p, ∃ p', read ⟨written ++ rest, p⟩ = .ok (x, ⟨rest, p'⟩)

/-- A reader that does after a character what another one does. -/
theorem Takes.cons {c : Char} {other : Cursor → Except Error (α × Cursor)}
    (after : Takes other written x rest)
    (step : ∀ p, read ⟨c :: (written ++ rest), p⟩ = other ⟨written ++ rest, p.past c c.utf8Size⟩) :
    Takes read (c :: written) x rest := by
  intro p
  rw [List.cons_append, step]
  exact after _

theorem Takes.map (first : Takes read written x rest) (f : α → β) :
    Takes (fun s => read s >>= fun r => pure (f r.1, r.2)) written (f x) rest := by
  intro p
  obtain ⟨p', first⟩ := first p
  exact ⟨p', by simp only [first]; rfl⟩

/-- One reader after another. -/
theorem Takes.both {other : Cursor → Except Error (β × Cursor)}
    (first : Takes read written x (more ++ rest)) (second : Takes other more y rest)
    (f : α → β → γ) :
    Takes (fun s => read s >>= fun r => other r.2 >>= fun r' => pure (f r.1 r'.1, r'.2))
      (written ++ more) (f x y) rest := by
  intro p
  obtain ⟨p₁, first⟩ := first p
  obtain ⟨p₂, second⟩ := second p₁
  exact ⟨p₂, by simp only [List.append_assoc, first, second, bind, Except.bind]; rfl⟩

end Takes

theorem skipBlanks_cons {c : Char} (h : isBlank c = false) (rest : List Char) (p : Position) :
    skipBlanks ⟨c :: rest, p⟩ = ⟨c :: rest, p⟩ := by
  simp [skipBlanks, skipWhile, h]

/-! ## Strings -/

theorem value?_hexDigit : ∀ n < 16, Hex.value? (hexDigit n) = some n := by decide

theorem takes_hexEscape {a b c d : Char} {i j k l : ℕ} (ha : Hex.value? a = some i)
    (hb : Hex.value? b = some j) (hc : Hex.value? c = some k) (hd : Hex.value? d = some l)
    (rest : List Char) :
    Takes hexEscape [a, b, c, d] (((i * 16 + j) * 16 + k) * 16 + l) rest := by
  intro p
  simp only [hexEscape, List.cons_append, ha, hb, hc, hd]
  exact ⟨_, rfl⟩

/-- A control character that was written as an escape is read back. -/
theorem takes_unicodeEscape {c : Char} (h : c.toNat < 32) (rest : List Char) :
    Takes unicodeEscape ['0', '0', hexDigit (c.toNat / 16), hexDigit (c.toNat % 16)] c rest := by
  have zero : Hex.value? '0' = some 0 := rfl
  have digits := takes_hexEscape zero zero (value?_hexDigit (c.toNat / 16) (by omega))
    (value?_hexDigit (c.toNat % 16) (by omega)) rest
  have code : ((0 * 16 + 0) * 16 + c.toNat / 16) * 16 + c.toNat % 16 = c.toNat := by omega
  rw [code] at digits
  intro p
  obtain ⟨p', read⟩ := digits p
  refine ⟨p', ?_⟩
  simp only [unicodeEscape, read, bind, Except.bind]
  rw [if_neg (by omega), if_pos (by omega), Char.ofNat_toNat]
  rfl

/-- A character stands for itself, or what follows a backslash is taken for it. -/
theorem escape_cases (c : Char) :
    (Json.escape c = [c] ∧ c ≠ '"' ∧ c ≠ '\\' ∧ 32 ≤ c.toNat) ∨
      ∃ code, Json.escape c = '\\' :: code ∧ ∀ rest, Takes Reader.escape code c rest := by
  rw [Json.escape]
  split_ifs with quote backslash back feed newline ret tab control
  any_goals
    subst c
    exact .inr ⟨_, rfl, fun rest p => ⟨_, rfl⟩⟩
  · exact .inr ⟨_, rfl, fun rest p => takes_unicodeEscape control rest _⟩
  · exact .inl ⟨rfl, quote, backslash, Nat.not_lt.mp control⟩

/-- Escaped characters are read back up to the closing quote. -/
theorem takes_stringBody (cs rest : List Char) {fuel : ℕ}
    (enough : (cs.flatMap Json.escape).length ≤ fuel) :
    Takes (stringBody (fuel + 1)) (cs.flatMap Json.escape ++ ['"']) cs rest := by
  induction cs generalizing fuel with
  | nil => exact fun p => ⟨_, rfl⟩
  | cons c cs ih =>
      rw [List.flatMap_cons, List.length_append] at enough
      rw [List.flatMap_cons, List.append_assoc]
      rcases escape_cases c with ⟨plain, quote, backslash, printable⟩ | ⟨code, escaped, takes⟩
      · rw [plain, List.length_singleton] at enough
        obtain ⟨fuel, rfl⟩ := Nat.exists_eq_add_of_le' (by omega : 1 ≤ fuel)
        have others : Takes (stringBody (fuel + 1)) _ cs rest := ih (by omega)
        rw [plain]
        refine (others.map (c :: ·)).cons fun p => ?_
        simp only [stringBody, if_neg quote, if_neg backslash, if_neg (Nat.not_lt.mpr printable)]
        rfl
      · rw [escaped, List.length_cons] at enough
        obtain ⟨fuel, rfl⟩ := Nat.exists_eq_add_of_le' (by omega : 1 ≤ fuel)
        have others : Takes (stringBody (fuel + 1)) _ cs rest := ih (by omega)
        rw [escaped]
        refine ((takes _).both others (· :: ·)).cons fun p => ?_
        simp only [stringBody]
        rfl

theorem takes_string (text : String) (rest : List Char) :
    Takes string (text.toList.flatMap Json.escape ++ ['"']) text rest := by
  have body : Takes (fun s => stringBody (s.rest.length + 1) s)
      (text.toList.flatMap Json.escape ++ ['"']) text.toList rest := by
    intro p
    refine takes_stringBody text.toList rest ?_ p
    simp only [List.length_append]
    omega
  have read := body.map String.ofList
  rw [String.ofList_toList] at read
  exact read

/-! ## Numbers -/

/-- Whether a value may end before a text. -/
def Ends (rest : List Char) : Prop := ∀ c ∈ rest.head?, c ∈ [',', ']', '\x7d']

theorem le_ofDigitChars (digits : List Char) (n : ℕ) : n ≤ Nat.ofDigitChars 10 digits n := by
  rw [Nat.ofDigitChars_eq_ofDigitChars_zero]
  exact (Nat.le_mul_of_pos_left n (Nat.pow_pos (by decide))).trans (Nat.le_add_right _ _)

/-- All digits of a number below the limit are kept. -/
theorem keptDigits_of_lt {digits : List Char} {n : ℕ}
    (h : Nat.ofDigitChars 10 digits n < significandLimit) :
    keptDigits n digits = (Nat.ofDigitChars 10 digits n, digits.length) := by
  induction digits generalizing n with
  | nil => rfl
  | cons c rest ih =>
      rw [Nat.ofDigitChars_cons, Nat.mul_comm 10 n] at h ⊢
      have fits : fits n (digitValue c) = true :=
        decide_eq_true ((le_ofDigitChars rest _).trans_lt h)
      rw [keptDigits, if_pos fits, digitValue, ih h]
      rfl

/-- Only zero has a leading zero. -/
theorem toDigits_head_ne_zero {n : ℕ} (positive : 0 < n) : '0' ∉ (Nat.toDigits 10 n).head? := by
  have one_digit : ∀ n < 10, 0 < n → '0' ∉ [Nat.digitChar n].head? := by decide
  induction n using Nat.strongRecOn with
  | ind n ih =>
  rcases Nat.lt_or_ge n 10 with small | large
  · rw [Nat.toDigits_of_lt_base small]
    exact one_digit n small positive
  · rw [Nat.toDigits_of_base_le (by decide) large,
      List.head?_append_of_ne_nil _ Nat.toDigits_ne_nil]
    exact ih (n / 10) (Nat.div_lt_self positive (by decide)) (Nat.div_pos large (by decide))

theorem skipWhile_isDigit {digits rest : List Char} (h : ∀ c ∈ digits, c.isDigit)
    (stop : ∀ c ∈ rest.head?, c.isDigit = false) (p : Position) :
    ∃ p', skipWhile Char.isDigit (digits ++ rest) p = ⟨rest, p'⟩ := by
  induction digits generalizing p with
  | nil =>
      cases rest with
      | nil => exact ⟨p, rfl⟩
      | cons c rest => exact ⟨p, by simp [skipWhile, stop c rfl]⟩
  | cons c digits ih =>
      obtain ⟨first, others⟩ := List.forall_mem_cons.mp h
      obtain ⟨p', skipped⟩ := ih others (p.past c c.utf8Size)
      exact ⟨p', by rw [List.cons_append, skipWhile, if_pos first, skipped]⟩

namespace Ends

variable {rest : List Char}

theorem cons {c : Char} (h : c ∈ [',', ']', '\x7d']) (rest : List Char) : Ends (c :: rest) := by
  intro d hd
  cases hd
  exact h

variable {test : Char → Bool}

theorem head_eq_false (ends : Ends rest)
    (h : test ',' = false ∧ test ']' = false ∧ test '\x7d' = false) :
    ∀ c ∈ rest.head?, test c = false := by
  intro c hc
  have marks := ends c hc
  simp only [List.mem_cons, List.not_mem_nil, or_false] at marks
  rcases marks with rfl | rfl | rfl
  · exact h.1
  · exact h.2.1
  · exact h.2.2

theorem peekIs_eq_false (ends : Ends rest)
    (h : test ',' = false ∧ test ']' = false ∧ test '\x7d' = false) (p : Position) :
    peekIs test ⟨rest, p⟩ = false := by
  cases rest with
  | nil => rfl
  | cons c rest => exact ends.head_eq_false h c rfl

end Ends

/-- The digits of a number are taken for it. After a minus sign zero, and what is beyond half of the
limit, would be taken for a floating-point number. -/
theorem takes_unsigned (negative : Bool) {n : ℕ} (small : n < significandLimit)
    (half : negative → 0 < n ∧ n ≤ significandLimit / 2) {rest : List Char} (ends : Ends rest) :
    Takes (unsigned negative) (Nat.toDigits 10 n) (.int (if negative then -n else n)) rest := by
  intro p
  obtain ⟨c, more, digits⟩ := List.exists_cons_of_ne_nil (Nat.toDigits_ne_nil (n := n) (b := 10))
  have all : ∀ d ∈ c :: more, d.isDigit := digits ▸ Layout.isDigit_toDigits
  have stop : ∀ d ∈ rest.head?, d.isDigit = false := ends.head_eq_false ⟨rfl, rfl, rfl⟩
  have value : Nat.ofDigitChars 10 (c :: more) 0 = n := digits ▸ Nat.ofDigitChars_ten_toDigits
  have taken : leadingDigits (c :: (more ++ rest)) = c :: more :=
    Yaml.Resolution.takeWhile_isDigit all stop
  have kept : keptDigits 0 (c :: more) = (n, (c :: more).length) := by
    rw [keptDigits_of_lt (value.symm ▸ small), value]
  have leading : ¬(c = '0' ∧ peekIs Char.isDigit (Cursor.next ⟨c :: (more ++ rest), p⟩)) := by
    -- Zero is one digit, and no value goes on with a digit where it may end.
    rintro ⟨zero, another⟩
    have nothing : n = 0 := by
      by_contra positive
      exact toDigits_head_ne_zero (Nat.pos_of_ne_zero positive) (by rw [digits, zero]; rfl)
    subst nothing
    cases digits
    cases another.symm.trans (ends.peekIs_eq_false ⟨rfl, rfl, rfl⟩ _)
  obtain ⟨p', skipped⟩ := skipWhile_isDigit all stop p
  have point : peekIs (· = '.') ⟨rest, p'⟩ = false := ends.peekIs_eq_false ⟨rfl, rfl, rfl⟩ p'
  have exponent : peekIs (fun d => d = 'e' || d = 'E') ⟨rest, p'⟩ = false :=
    ends.peekIs_eq_false ⟨rfl, rfl, rfl⟩ p'
  refine ⟨p', ?_⟩
  rw [digits]
  rw [List.cons_append] at skipped ⊢
  simp only [unsigned, all c List.mem_cons_self, leading, taken, kept, skipDigits, skipped, point,
    exponent]
  cases negative with
  | false => simp
  | true =>
      obtain ⟨positive, bound⟩ := half rfl
      have whole : ¬(n = 0 ∨ significandLimit / 2 < n) := by omega
      simp [whole]

/-! ## Lists -/

/-- Whether a reader of values takes the text of a value for it, wherever a value may end. -/
def Reads (item : Cursor → Except Error (Json × Cursor)) (x : Json) : Prop :=
  ∀ rest, Ends rest → Takes item x.text x rest

section Containers

variable {item : Cursor → Except Error (Json × Cursor)}

/-- A value may end before the others and what closes the list of them. -/
theorem ends_flatMap {α : Type} (f : α → List Char) (xs : List α) {c : Char}
    (h : c ∈ [',', ']', '\x7d']) (rest : List Char) :
    Ends ((xs.flatMap fun x => ',' :: f x) ++ [c] ++ rest) := by
  cases xs with
  | nil => exact .cons h rest
  | cons x xs => exact .cons (by decide) _

/-- The elements after the first are read back up to the closing bracket. -/
theorem takes_moreItems {xs : List Json} (h : ∀ x ∈ xs, Reads item x) (rest : List Char) {fuel : ℕ}
    (enough : (xs.flatMap fun x => ',' :: x.text).length ≤ fuel) :
    Takes (moreItems item (fuel + 1)) ((xs.flatMap fun x => ',' :: x.text) ++ [']']) xs rest := by
  induction xs generalizing fuel with
  | nil => exact fun p => ⟨_, rfl⟩
  | cons x xs ih =>
      obtain ⟨first, others⟩ := List.forall_mem_cons.mp h
      rw [List.flatMap_cons, List.length_append, List.length_cons] at enough
      obtain ⟨fuel, rfl⟩ := Nat.exists_eq_add_of_le' (by omega : 1 ≤ fuel)
      have others : Takes (moreItems item (fuel + 1)) _ xs rest := ih others (by omega)
      rw [List.flatMap_cons, List.append_assoc]
      have first := first _ (ends_flatMap (c := ']') text xs (by decide) rest)
      refine (first.both others (· :: ·)).cons fun p => ?_
      obtain ⟨c, cs, written, blank, close⟩ := x.exists_text
      simp only [written, List.cons_append, moreItems]
      rw [skipBlanks_cons rfl]
      simp only [Cursor.next]
      rw [skipBlanks_cons blank]
      simp only [if_neg close]
      rfl

theorem takes_items {xs : List Json} (h : ∀ x ∈ xs, Reads item x) (rest : List Char) :
    Takes (items item) (text.items xs ++ [']']) xs rest := by
  cases xs with
  | nil => exact fun p => ⟨_, rfl⟩
  | cons x xs =>
      obtain ⟨first, others⟩ := List.forall_mem_cons.mp h
      -- The rest of the text is longer than what is left of the list.
      have more : Takes (fun s => moreItems item (s.rest.length + 1) s)
          ((xs.flatMap fun x => ',' :: x.text) ++ [']']) xs rest :=
        fun p => takes_moreItems others rest (by simp only [List.length_append]; omega) p
      have first := first _ (ends_flatMap (c := ']') text xs (by decide) rest)
      rw [items_cons, List.append_assoc]
      intro p
      obtain ⟨p', read⟩ := first.both more (· :: ·) p
      refine ⟨p', ?_⟩
      obtain ⟨c, cs, written, blank, close⟩ := x.exists_text
      rw [← read]
      simp only [written, List.cons_append, items]
      rw [skipBlanks_cons blank]
      simp only [if_neg close]

theorem takes_member {m : String × Json} (h : Reads item m.2) {rest : List Char}
    (ends : Ends rest) : Takes (member item) (memberText m) m rest := by
  intro p
  obtain ⟨p₁, key⟩ := takes_string m.1 (':' :: (m.2.text ++ rest)) (p.past '"' '"'.utf8Size)
  obtain ⟨p₂, value⟩ := h rest ends (p₁.past ':' ':'.utf8Size)
  have written : memberText m ++ rest =
      '"' :: (m.1.toList.flatMap Json.escape ++ ['"'] ++ ':' :: (m.2.text ++ rest)) := by
    simp [memberText, quoted]
  refine ⟨p₂, ?_⟩
  rw [written]
  simp only [member, Cursor.next, key, bind, Except.bind]
  rw [skipBlanks_cons rfl]
  simp only [if_true, value]
  rfl

theorem takes_moreMembers {ms : Entries Json} (h : ∀ m ∈ ms, Reads item m.2) (rest : List Char)
    {fuel : ℕ} (enough : (ms.flatMap fun m => ',' :: memberText m).length ≤ fuel) :
    Takes (moreMembers item (fuel + 1)) ((ms.flatMap fun m => ',' :: memberText m) ++ ['\x7d'])
      ms rest := by
  induction ms generalizing fuel with
  | nil => exact fun p => ⟨_, rfl⟩
  | cons m ms ih =>
      obtain ⟨first, others⟩ := List.forall_mem_cons.mp h
      rw [List.flatMap_cons, List.length_append, List.length_cons] at enough
      obtain ⟨fuel, rfl⟩ := Nat.exists_eq_add_of_le' (by omega : 1 ≤ fuel)
      have first := takes_member first (ends_flatMap (c := '\x7d') memberText ms (by decide) rest)
      have others : Takes (moreMembers item (fuel + 1)) _ ms rest := ih others (by omega)
      rw [List.flatMap_cons, List.append_assoc]
      refine (first.both others (· :: ·)).cons fun p => ?_
      simp only [memberText, quoted, List.cons_append, moreMembers]
      rw [skipBlanks_cons rfl]
      simp only [Cursor.next]
      rw [skipBlanks_cons rfl]
      rfl

theorem takes_objectMembers {ms : Entries Json} (h : ∀ m ∈ ms, Reads item m.2)
    (rest : List Char) :
    Takes (objectMembers item) (text.members ms ++ ['\x7d']) ms rest := by
  cases ms with
  | nil => exact fun p => ⟨_, rfl⟩
  | cons m ms =>
      obtain ⟨first, others⟩ := List.forall_mem_cons.mp h
      have first := takes_member first (ends_flatMap (c := '\x7d') memberText ms (by decide) rest)
      have more : Takes (fun s => moreMembers item (s.rest.length + 1) s)
          ((ms.flatMap fun m => ',' :: memberText m) ++ ['\x7d']) ms rest :=
        fun p => takes_moreMembers others rest (by simp only [List.length_append]; omega) p
      rw [members_cons, List.append_assoc]
      intro p
      obtain ⟨p', read⟩ := first.both more (· :: ·) p
      refine ⟨p', ?_⟩
      rw [← read]
      simp only [memberText, quoted, List.cons_append, objectMembers]
      rw [skipBlanks_cons rfl]
      rfl

end Containers

/-! ## Values -/

variable {levels : ℕ}

theorem reads_null : Reads (value levels) null := fun rest _ p => ⟨_, by rw [value.eq_def]; rfl⟩

theorem reads_bool (b : Bool) : Reads (value levels) (bool b) := by
  intro rest _ p
  cases b <;> exact ⟨_, by rw [value.eq_def]; rfl⟩

theorem reads_string (s : String) : Reads (value levels) (.string s) := by
  intro rest _
  refine ((takes_string s rest).map Json.string).cons fun p => ?_
  rw [value.eq_def, skipBlanks_cons rfl]
  rfl

theorem value_digit {c : Char} (h : c.isDigit) (rest : List Char) (p : Position) :
    value levels ⟨c :: rest, p⟩ =
      unsigned false ⟨c :: rest, p⟩ >>= fun r => pure (.number r.1, r.2) := by
  have differs {d : Char} : d.isDigit = false → c ≠ d := Layout.ne_of_isDigit h
  have blank : isBlank c = false := by simp [isBlank, differs]
  rw [value.eq_def, skipBlanks_cons blank]
  have n : c ≠ 'n' := differs rfl
  have t : c ≠ 't' := differs rfl
  have f : c ≠ 'f' := differs rfl
  have minus : c ≠ '-' := differs rfl
  simp only [if_neg n, if_neg t, if_neg f, if_neg minus, if_pos h]

/-- An integer that fits into 64 bits is read back. -/
theorem reads_int {n : ℤ} (fits : Fits64 (.number (.int n))) :
    Reads (value levels) (.number (.int n)) := by
  intro rest ends
  obtain ⟨low, high⟩ := fits n rfl
  have size : UInt64.size = significandLimit := rfl
  rw [Int64.toInt_minValue] at low
  rw [size] at high
  rw [text, Number.text, Layout.intText]
  have small : n.natAbs < significandLimit := by
    rw [significandLimit] at high ⊢
    omega
  split_ifs with negative
  · have back : -(n.natAbs : ℤ) = n := by omega
    have half : 0 < n.natAbs ∧ n.natAbs ≤ significandLimit / 2 := by
      rw [significandLimit]
      omega
    have digits := takes_unsigned true small (fun _ => half) ends
    rw [if_pos rfl, back] at digits
    refine (digits.map Json.number).cons fun p => ?_
    rw [value.eq_def, skipBlanks_cons rfl]
    rfl
  · have back : (n.natAbs : ℤ) = n := by omega
    have positive : ¬(false = true) := Bool.false_ne_true
    have digits := takes_unsigned false small (absurd · positive) ends
    rw [if_neg positive, back] at digits
    intro p
    obtain ⟨p', read⟩ := digits.map Json.number p
    obtain ⟨c, cs, written⟩ :=
      List.exists_cons_of_ne_nil (Nat.toDigits_ne_nil (n := n.natAbs) (b := 10))
    have digit : c.isDigit := Layout.isDigit_toDigits c (written ▸ List.mem_cons_self)
    refine ⟨p', ?_⟩
    rw [written, List.cons_append] at read ⊢
    rw [value_digit digit, ← read]

/-- An array is read back one level further out than its elements. -/
theorem reads_array {xs : List Json} (h : ∀ x ∈ xs, Reads (value levels) x) :
    Reads (value (levels + 1)) (array xs) := by
  intro rest _
  refine ((takes_items h rest).map Json.array).cons fun p => ?_
  rw [value, skipBlanks_cons rfl]
  rfl

/-- An object is read back one level further out than its members. -/
theorem reads_object {ms : Entries Json} (ordered : ms.Ordered)
    (h : ∀ m ∈ ms, Reads (value levels) m.2) : Reads (value (levels + 1)) (object ms) := by
  intro rest _
  have members := (takes_objectMembers h rest).map fun ms => Json.object (Entries.ofList ms)
  rw [Entries.ofList_eq_self ordered] at members
  refine members.cons fun p => ?_
  rw [value, skipBlanks_cons rfl]
  rfl

/-- The induction is on the depth, since a value is read with one level less than what holds it. -/
theorem reads_value {v : Json} (formed : v.WellFormed) (fits : v.Everywhere Fits64)
    (floatless : v.Everywhere NotFloat) (shallow : v.depth ≤ levels) : Reads (value levels) v := by
  induction v using depth_induction generalizing levels with
  | step v ih =>
  cases v with
  | null => exact reads_null
  | bool b => exact reads_bool b
  | string s => exact reads_string s
  | number n =>
      cases n with
      | int n => exact reads_int ((everywhere_number _).mp fits)
      | float x => exact absurd rfl ((everywhere_number _).mp floatless x)
  | array xs =>
      obtain ⟨levels, rfl⟩ : ∃ inside, levels = inside + 1 :=
        Nat.exists_eq_add_one_of_ne_zero (by rw [depth] at shallow; omega)
      refine reads_array fun x hx => ?_
      have inside := depth_lt_of_mem_array hx
      exact ih x inside ((wellFormed_array xs).mp formed x hx) ((everywhere_array.mp fits).2 x hx)
        ((everywhere_array.mp floatless).2 x hx) (by omega)
  | object ms =>
      obtain ⟨levels, rfl⟩ : ∃ inside, levels = inside + 1 :=
        Nat.exists_eq_add_one_of_ne_zero (by rw [depth] at shallow; omega)
      obtain ⟨ordered, members⟩ := (wellFormed_object ms).mp formed
      refine reads_object ordered fun m hm => ?_
      have inside := depth_lt_of_mem_object hm
      exact ih m.2 inside (members m hm) (((everywhere_object ordered).mp fits).2 m hm)
        (((everywhere_object ordered).mp floatless).2 m hm) (by omega)

end Reader

open Reader

/-- The compact text of a value without floating-point numbers reads back as the value. -/
theorem parse_compact {v : Json} (formed : v.WellFormed) (fits : v.Everywhere Fits64)
    (floatless : v.Everywhere NotFloat) (shallow : v.depth ≤ levelLimit) :
    parse v.compact = .ok v := by
  have ends : Ends [] := nofun
  obtain ⟨p, read⟩ := reads_value formed fits floatless shallow [] ends .start
  rw [List.append_nil] at read
  rw [parse, compact, String.toList_ofList, Reader.read, Cursor.ofText, read]
  rfl

end Json

end SliceContract
