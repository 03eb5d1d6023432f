import Mathlib.Data.List.Infix
import SliceContract.Location

/-!
# Pointers of composed locations

A pointer is written one step at a time, and the pointer of a location inside another is the one
text after the other. The innermost key of a longer pointer is looked for in its last part first;
only a part that names no key leaves the search to what stands before it.
-/

namespace SliceContract

namespace Pointer

/-- The pointer that goes one member further. -/
def member (pointer key : String) : String :=
  pointer ++ "/" ++ String.ofList (escape key.toList)

/-- The pointer that goes one element further. -/
def element (pointer : String) (index : Nat) : String := pointer ++ "/" ++ toString index

@[simp] theorem text_nil : text [] = [] := rfl

theorem text_cons (step : Step) (location : Location) :
    text (step :: location) = '/' :: (escape (token step) ++ text location) := rfl

@[simp] theorem text_append (l l' : Location) : text (l ++ l') = text l ++ text l' :=
  List.flatMap_append

@[simp] theorem toList_render (location : Location) : (render location).toList = text location :=
  String.toList_ofList

/-- The empty pointer is that of the value itself. -/
theorem render_eq_empty_iff {l : Location} : render l = "" ↔ l = [] := by
  rw [← String.toList_inj, toList_render]
  cases l with
  | nil => exact iff_of_true rfl rfl
  | cons step rest =>
      rw [text_cons]
      exact iff_of_false (List.cons_ne_nil _ _) (List.cons_ne_nil _ _)

theorem render_append (l l' : Location) : render (l ++ l') = render l ++ render l' := by
  rw [render, text_append, String.ofList_append]
  rfl

theorem render_single (step : Step) :
    render [step] = "/" ++ String.ofList (escape (token step)) := by
  rw [render, text_cons, text_nil, List.append_nil, ← List.singleton_append, String.ofList_append]

theorem render_append_member (l : Location) (key : String) :
    render (l ++ [.member key]) = member (render l) key := by
  rw [render_append, render_single, member, String.append_assoc]
  rfl

theorem escape_cons (c : Char) (rest : List Char) :
    escape (c :: rest) = escapeChar c ++ escape rest :=
  List.flatMap_cons

theorem escape_eq_self {token : List Char} (h : ∀ c ∈ token, c ≠ '~' ∧ c ≠ '/') :
    escape token = token := by
  induction token with
  | nil => rfl
  | cons c rest ih =>
      obtain ⟨⟨tilde, slash⟩, hrest⟩ := List.forall_mem_cons.mp h
      rw [escape_cons, escapeChar, if_neg tilde, if_neg slash, ih hrest]
      rfl

/-- Every tilde and every slash is written as two characters. -/
theorem length_escape (token : List Char) :
    (escape token).length = token.length + token.countP fun c => c = '~' || c = '/' := by
  induction token with
  | nil => rfl
  | cons c rest ih =>
      rw [escape_cons, List.length_append, ih, List.length_cons, List.countP_cons, escapeChar]
      by_cases tilde : c = '~'
      · simp only [tilde, if_true, List.length_cons, List.length_nil, decide_true, Bool.true_or]
        omega
      · by_cases slash : c = '/'
        · simp [slash]; omega
        · simp [tilde, slash]; omega

/-- A token needs no escaping if it has neither a tilde nor a slash. -/
theorem escape_eq_self_iff {token : List Char} :
    escape token = token ↔ ∀ c ∈ token, c ≠ '~' ∧ c ≠ '/' := by
  constructor
  · intro same
    have lengths := length_escape token
    rw [same, Nat.left_eq_add, List.countP_eq_zero] at lengths
    simpa using lengths
  · exact escape_eq_self

theorem ne_of_isDigit {c : Char} (h : c.isDigit) : c ≠ '~' ∧ c ≠ '/' := by
  constructor <;> rintro rfl <;> simp at h

theorem isDigit_of_mem_element {index : Nat} : ∀ c ∈ token (.element index), c.isDigit :=
  fun _ hc => Nat.isDigit_of_mem_toDigits (by decide) (by decide) hc

theorem render_append_element (l : Location) (index : Nat) :
    render (l ++ [.element index]) = element (render l) index := by
  have digits : escape (token (.element index)) = Nat.toDigits 10 index :=
    escape_eq_self fun c hc => ne_of_isDigit (isDigit_of_mem_element c hc)
  rw [render_append, render_single, digits, element, String.append_assoc,
    Nat.toString_eq_ofList_toDigits]

theorem render_append_entry (l : Location) (keyword key : String) :
    render (l ++ [.member keyword, .member key]) = member (member (render l) keyword) key := by
  rw [List.append_cons, render_append_member, render_append_member]

theorem render_append_branch (l : Location) (keyword : String) (index : Nat) :
    render (l ++ [.member keyword, .element index]) =
      element (member (render l) keyword) index := by
  rw [List.append_cons, render_append_element, render_append_member]

private theorem takeWhile_prefix_append {α : Type*} (p : α → Bool) (xs ys : List α) :
    xs.takeWhile p <+: (xs ++ ys).takeWhile p := by
  rw [List.takeWhile_append]
  split
  · exact (List.takeWhile_prefix p).trans (List.prefix_append xs _)
  · exact List.prefix_refl _

/-- Once a pointer names a key, what stands before it does not matter. -/
theorem innermostKey_append {l' : Location} {key : String}
    (h : innermostKey (text l') = some key) (l : Location) :
    innermostKey (text (l ++ l')) = some key := by
  cases l' with
  | nil => cases h
  | cons step rest =>
      obtain ⟨segment, hs, rfl⟩ := Option.map_eq_some_iff.mp h
      refine Option.map_eq_some_iff.mpr ⟨segment, ?_, rfl⟩
      -- The empty segment before the first slash ends the search in the shorter pointer.
      have last (xs : List (List Char)) :
          (xs ++ [[]]).takeWhile (fun segment => !segment.isEmpty) =
            xs.takeWhile fun segment => !segment.isEmpty := by
        induction xs with
        | nil => rfl
        | cons x rest ih => rw [List.cons_append, List.takeWhile_cons, List.takeWhile_cons, ih]
      rw [text_cons, segments, ← List.nil_append ('/' :: _), List.splitOn_append_cons_self,
        List.splitOn_nil, List.reverse_append, List.reverse_singleton, last] at hs
      rw [text_append, text_cons, segments, List.splitOn_append_cons_self, List.reverse_append]
      exact (takeWhile_prefix_append _ _ _).find?_eq_some hs

/-! ## Reading a pointer back -/

/-- An escaped token has no slash, and so pointers can be split at slashes. -/
theorem slash_not_mem_escape (token : List Char) : '/' ∉ escape token := by
  intro h
  obtain ⟨c, -, hc⟩ := List.mem_flatMap.mp h
  rw [escapeChar] at hc
  split at hc
  · simp at hc
  · split at hc
    · simp at hc
    · next slash => exact slash (List.mem_singleton.mp hc).symm

/-- A token whose slashes are read is left with its tildes escaped. -/
private theorem unescapeSlash_escape (token : List Char) :
    unescapeSlash (escape token) =
      token.flatMap fun c => if c = '~' then ['~', '0'] else [c] := by
  induction token with
  | nil => rfl
  | cons c rest ih =>
      rw [escape_cons, List.flatMap_cons, ← ih, escapeChar]
      by_cases tilde : c = '~'
      · subst tilde
        rfl
      · by_cases slash : c = '/'
        · subst slash
          rfl
        · rw [if_neg tilde, if_neg slash, if_neg tilde]
          exact unescapeSlash.eq_2 c _ fun _ h => absurd h tilde

/-- Tildes that are escaped are restored. -/
private theorem unescapeTilde_escaped (token : List Char) :
    unescapeTilde (token.flatMap fun c => if c = '~' then ['~', '0'] else [c]) = token := by
  induction token with
  | nil => rfl
  | cons c rest ih =>
      rw [List.flatMap_cons]
      by_cases tilde : c = '~'
      · subst tilde
        exact congrArg ('~' :: ·) ih
      · rw [if_neg tilde, List.singleton_append,
          unescapeTilde.eq_2 c _ fun _ h => absurd h tilde, ih]

/-- Escaping loses nothing, since the tildes are read after the slashes. -/
theorem unescape_escape (token : List Char) : unescape (escape token) = token := by
  rw [unescape, unescapeSlash_escape, unescapeTilde_escaped]

theorem segments_append_single (l : Location) (step : Step) :
    segments (text (l ++ [step])) = segments (text l) ++ [escape (token step)] := by
  rw [text_append, text_cons, text_nil, List.append_nil, segments, segments,
    List.splitOn_append_cons_self, List.splitOn_eq_singleton (slash_not_mem_escape _)]

/-- The pieces of a pointer are an empty one and its escaped tokens. -/
theorem segments_text (l : Location) :
    segments (text l) = [] :: l.map fun step => escape (token step) := by
  induction l using List.reverseRecOn with
  | nil => rfl
  | append_singleton l step ih =>
      rw [segments_append_single, ih, List.map_append, List.cons_append]
      rfl

/-! ## Indices -/

theorem isDigit_of_isIndex {segment : List Char} (h : isIndex segment) :
    ∀ c ∈ segment, c.isDigit ∨ c = '+' := by
  have digits {p : Bool} {n : Nat} {ds : List Char}
      (h : (if !ds.isEmpty && ds.all Char.isDigit && p then some n else none).isSome) :
      ∀ c ∈ ds, c.isDigit := by
    rw [Option.isSome_ite, Bool.and_eq_true, Bool.and_eq_true] at h
    exact List.all_eq_true.mp h.1.2
  cases segment with
  | nil => exact List.forall_mem_nil _
  | cons first rest =>
      by_cases plus : first = '+'
      · subst plus
        exact List.forall_mem_cons.mpr ⟨.inr rfl, fun c hc => .inl (digits h c hc)⟩
      · rw [isIndex, indexValue?.eq_2 _ fun _ h => plus (List.cons.inj h).1] at h
        exact fun c hc => .inl (digits h c hc)

/-- Escaping does not change whether a token reads like an index. -/
theorem isIndex_escape (token : List Char) : isIndex (escape token) = isIndex token := by
  -- An escaped character is part of no index, and neither is the tilde written for it.
  have plain {segment : List Char} (h : isIndex segment) : ∀ c ∈ segment, c ≠ '~' ∧ c ≠ '/' := by
    intro c hc
    rcases isDigit_of_isIndex h c hc with digit | rfl
    · exact ne_of_isDigit digit
    · decide
  by_cases h : ∀ c ∈ token, c ≠ '~' ∧ c ≠ '/'
  · rw [escape_eq_self h]
  · have escaped : '~' ∈ escape token := by
      simp only [not_forall, not_and_or, not_not] at h
      obtain ⟨c, hc, h⟩ := h
      refine List.mem_flatMap.mpr ⟨c, hc, ?_⟩
      rcases h with rfl | rfl <;> decide
    rw [Bool.eq_iff_iff]
    exact iff_of_false (fun index => (plain index '~' escaped).1 rfl) fun index => h (plain index)

/-- The token of an index reads like an index, if it fits into 64 bits. -/
theorem isIndex_element {index : Nat} (h : index < UInt64.size) :
    isIndex (token (.element index)) := by
  have unsigned : ∀ rest, token (.element index) = '+' :: rest → False := by
    intro rest hrest
    have plus : '+' ∈ token (.element index) := hrest ▸ List.mem_cons_self
    cases isDigit_of_mem_element '+' plus
  rw [isIndex, indexValue?.eq_2 _ unsigned, List.all_eq_true.mpr isDigit_of_mem_element, token,
    Nat.ofDigitChars_ten_toDigits]
  simp [h, Nat.toDigits_ne_nil]

/-! ## The innermost key -/

@[simp] theorem innermostKey_nil : innermostKey [] = none := rfl

/-- The key is looked for from the last step: an empty token ends the search, an index is passed
over, and any other token is the key. -/
theorem innermostKey_append_single (l : Location) (step : Step) :
    innermostKey (text (l ++ [step])) =
      if token step = [] then none
      else if isIndex (token step) then innermostKey (text l)
      else some (String.ofList (token step)) := by
  have escaped : escape (token step) = [] ↔ token step = [] := by
    refine ⟨fun h => ?_, fun h => by rw [h]; rfl⟩
    rw [← unescape_escape (token step), h]
    rfl
  rw [innermostKey, segments_append_single, List.reverse_append, List.reverse_singleton,
    List.singleton_append, List.takeWhile_cons]
  by_cases empty : token step = []
  · rw [if_pos empty, escaped.mpr empty]
    rfl
  · rw [if_neg empty, if_pos (by simpa [escaped] using empty), List.find?_cons, isIndex_escape]
    cases isIndex (token step) with
    | true => rfl
    | false => simp [unescape_escape]

/-- The key that is read off a pointer is the token of a step, and neither empty nor an index. -/
theorem exists_token_of_innermostKey {l : Location} {key : String}
    (h : innermostKey (text l) = some key) :
    ∃ step ∈ l, key.toList = token step ∧ token step ≠ [] ∧ ¬ isIndex (token step) := by
  induction l using List.reverseRecOn with
  | nil => cases h
  | append_singleton l step ih =>
      rw [innermostKey_append_single] at h
      split at h
      · cases h
      · next filled =>
          split at h
          · obtain ⟨inner, hi, found⟩ := ih h
            exact ⟨inner, List.mem_append_left _ hi, found⟩
          · next plain =>
              cases h
              exact ⟨step, by simp, String.toList_ofList, filled, plain⟩

end Pointer

end SliceContract
