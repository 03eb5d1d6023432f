import Mathlib.Data.List.Basic
import Mathlib.Data.List.Dedup
import Mathlib.Data.List.Induction
import Mathlib.Data.List.NodupEquivFin
import SliceContract.Occurrences

/-!
# The order of occurrences

While a list is read from its front, each of its elements is met once or more often. What is noted
down whenever something is met for the `n`-th time, counted from zero, stands in the order of these
places. The main statements are `pairwise_distinct` for first occurrences, and `pairwise_repeats`
for second ones.
-/

namespace SliceContract

section Noting

variable {α β : Type*} {p : β → Bool} {n : Nat} {bs : List β}

/-- What is added behind the place of an occurrence does not move it. -/
theorem findIdxNth_append_of_lt_countP (h : n < bs.countP p) (more : List β) :
    (bs ++ more).findIdxNth p n = bs.findIdxNth p n := by
  induction bs generalizing n with
  | nil => cases h
  | cons b rest ih =>
      rw [List.cons_append, List.findIdxNth_cons, List.findIdxNth_cons]
      rw [List.countP_cons] at h
      by_cases hb : p b
      · rw [if_pos hb] at h
        by_cases first : n = 0
        · simp [first, hb]
        · have later : n - 1 < rest.countP p := by omega
          simp only [if_neg first, if_pos hb, ih later]
      · rw [if_neg hb] at h
        by_cases first : n = 0
        · subst first
          simp only [if_true, if_neg hb, ih h]
        · simp only [if_neg first, if_neg hb, ih h]

/-- An element that is added at the end is the next occurrence. -/
theorem findIdxNth_append_singleton {b : β} (h : bs.countP p = n) (hb : p b) :
    (bs ++ [b]).findIdxNth p n = bs.length := by
  have here : bs.countPBefore p bs.length = n := List.countPBefore_length.trans h
  have last : (bs ++ [b]).countPBefore p bs.length = n := by
    rw [List.countPBefore_eq_countP_take, List.take_left, h]
  have bound : bs.length < (bs ++ [b]).length := by simp
  have met : p (bs ++ [b])[bs.length] := by simpa using hb
  rw [← last]
  exact List.findIdxNth_countPBefore_of_lt_length_of_pos met

/-- Whether a list is in the order of the places where its elements are met for the `n`-th time;
`meets` says which element is met where. -/
def InOrderOf (meets : α → β → Bool) (n : Nat) (bs : List β) (found : List α) : Prop :=
  found.Pairwise fun x y => bs.findIdxNth (meets x) n < bs.findIdxNth (meets y) n

variable {meets : α → β → Bool} {found : List α}

/-- The order stays while the list is read on. -/
theorem InOrderOf.append (h : InOrderOf meets n bs found)
    (met : ∀ x ∈ found, n < bs.countP (meets x)) (more : List β) :
    InOrderOf meets n (bs ++ more) found := by
  refine List.Pairwise.imp_of_mem (fun {x y} hx hy before => ?_) h
  rw [findIdxNth_append_of_lt_countP (met x hx), findIdxNth_append_of_lt_countP (met y hy)]
  exact before

/-- Something that is met for the `n`-th time comes last. -/
theorem InOrderOf.snoc (h : InOrderOf meets n bs found)
    (met : ∀ x ∈ found, n < bs.countP (meets x)) {x : α} {b : β}
    (now : bs.countP (meets x) = n) (hb : meets x b) :
    InOrderOf meets n (bs ++ [b]) (found ++ [x]) := by
  refine List.pairwise_append.mpr ⟨h.append met [b], List.pairwise_singleton _ x, ?_⟩
  intro y hy z hz
  cases List.mem_singleton.mp hz
  rw [findIdxNth_append_of_lt_countP (met y hy), findIdxNth_append_singleton now hb]
  exact List.findIdxNth_lt_length_of_lt_countP (met y hy)

end Noting

variable {α β : Type*} [BEq α]

/-! ## First occurrences -/

theorem distinct_append_singleton (xs : List α) (x : α) :
    distinct (xs ++ [x]) =
      if (distinct xs).contains x then distinct xs else distinct xs ++ [x] := by
  rw [distinct, List.foldl_append]
  rfl

theorem mem_distinct [LawfulBEq α] {x : α} {xs : List α} : x ∈ distinct xs ↔ x ∈ xs := by
  induction xs using List.reverseRecOn with
  | nil => exact Iff.rfl
  | append_singleton xs y ih =>
      rw [distinct_append_singleton, List.mem_append, List.mem_singleton]
      split
      · next again =>
          rw [List.contains_iff_mem] at again
          rw [ih]
          refine ⟨.inl, fun h => h.elim id fun same => ?_⟩
          subst same
          exact ih.mp again
      · rw [List.mem_append, List.mem_singleton, ih]

theorem distinct_perm_dedup {γ : Type*} [DecidableEq γ] (xs : List γ) :
    (distinct xs).Perm xs.dedup := by
  rw [List.perm_ext_iff_of_nodup (nodup_distinct xs) xs.nodup_dedup]
  exact fun x => mem_distinct.trans List.mem_dedup.symm

/-- The distinct keys of a list come in the order in which they are met first. -/
theorem pairwise_distinct [LawfulBEq α] (key : β → Option α) (bs : List β) :
    (distinct (bs.filterMap key)).Pairwise fun x y =>
      bs.findIdx (fun b => key b == some x) < bs.findIdx (fun b => key b == some y) := by
  suffices order : InOrderOf (fun x b => key b == some x) 0 bs (distinct (bs.filterMap key)) by
    simpa only [InOrderOf, List.findIdxNth_zero] using order
  -- From the right: the pass over a longer list is the pass over its front, and one step.
  induction bs using List.reverseRecOn with
  | nil => exact List.Pairwise.nil
  | append_singleton bs b ih =>
      have met : ∀ x ∈ distinct (bs.filterMap key), 0 < bs.countP fun b => key b == some x := by
        intro x hx
        rw [mem_distinct, List.mem_filterMap] at hx
        obtain ⟨b, hb, found⟩ := hx
        exact List.countP_pos_iff.mpr ⟨b, hb, by simp [found]⟩
      rw [List.filterMap_append]
      cases hk : key b with
      | none =>
          simp only [List.filterMap_cons, hk, List.filterMap_nil, List.append_nil]
          exact ih.append met [b]
      | some x =>
          simp only [List.filterMap_cons, hk, List.filterMap_nil]
          rw [distinct_append_singleton]
          split
          · exact ih.append met [b]
          · next new =>
              refine ih.snoc met ?_ (by simp [hk])
              rw [List.contains_iff_mem, mem_distinct, List.mem_filterMap] at new
              rw [List.countP_eq_zero]
              exact fun c hc same => new ⟨c, hc, eq_of_beq same⟩

/-! ## Second occurrences -/

private theorem repeats_go_append [LawfulBEq α] (seen found xs : List α) (x : α) :
    repeats.go seen found (xs ++ [x]) =
      if x ∈ seen ∨ x ∈ xs then
        if (repeats.go seen found xs).contains x then repeats.go seen found xs
        else repeats.go seen found xs ++ [x]
      else repeats.go seen found xs := by
  -- What was seen changes on the way, so the equation is about any `seen`.
  induction xs generalizing seen found with
  | nil => by_cases hx : x ∈ seen <;> simp [repeats.go, hx]
  | cons y rest ih =>
      rw [List.cons_append, repeats.go, repeats.go]
      by_cases hy : seen.contains y
      · have seenBefore : (x ∈ seen ∨ x ∈ y :: rest) ↔ (x ∈ seen ∨ x ∈ rest) := by
          rw [List.contains_iff_mem] at hy
          rw [List.mem_cons]
          refine ⟨fun h => ?_, fun h => h.imp_right .inr⟩
          rcases h with h | rfl | h
          · exact .inl h
          · exact .inl hy
          · exact .inr h
        simp only [if_pos hy, ih, seenBefore]
      · have seenNow : (x ∈ seen ∨ x ∈ y :: rest) ↔ (x ∈ y :: seen ∨ x ∈ rest) := by
          rw [List.mem_cons, List.mem_cons, or_left_comm, or_assoc]
        simp only [if_neg hy, ih, seenNow]

/-- An element is noted down when it is met for the second time, and only then. -/
theorem repeats_append_singleton [LawfulBEq α] (xs : List α) (x : α) :
    repeats (xs ++ [x]) = if xs.count x = 1 then repeats xs ++ [x] else repeats xs := by
  have noted : (repeats xs).contains x ↔ 2 ≤ xs.count x := by
    rw [List.contains_iff_mem, mem_repeats_iff]
  have met : x ∈ [] ∨ x ∈ xs ↔ 0 < xs.count x := by
    rw [List.count_pos_iff]
    simp
  rw [repeats, repeats_go_append, ← repeats]
  by_cases once : xs.count x = 1
  · rw [if_pos once, if_pos (met.mpr (by omega)), if_neg (mt noted.mp (by omega))]
  · rw [if_neg once]
    by_cases before : 0 < xs.count x
    · rw [if_pos (met.mpr before), if_pos (noted.mpr (by omega))]
    · rw [if_neg (mt met.mp before)]

/-- What occurs again stands at two places. -/
theorem mem_repeats_iff_exists_places {γ : Type*} [DecidableEq γ] {x : γ} {xs : List γ} :
    x ∈ repeats xs ↔ ∃ i j : Nat, i < j ∧ xs[i]? = some x ∧ xs[j]? = some x := by
  rw [mem_repeats_iff, ← List.duplicate_iff_two_le_count, List.duplicate_iff_exists_distinct_get]
  constructor
  · rintro ⟨i, j, before, hi, hj⟩
    refine ⟨i, j, before, ?_, ?_⟩
    · rw [hi, List.get_eq_getElem, List.getElem?_eq_getElem]
    · rw [hj, List.get_eq_getElem, List.getElem?_eq_getElem]
  · rintro ⟨i, j, before, hi, hj⟩
    obtain ⟨boundᵢ, rfl⟩ := List.getElem?_eq_some_iff.mp hi
    obtain ⟨boundⱼ, same⟩ := List.getElem?_eq_some_iff.mp hj
    exact ⟨⟨i, boundᵢ⟩, ⟨j, boundⱼ⟩, before, rfl, same.symm⟩

/-- The elements that occur again come in the order of their second occurrences. -/
theorem pairwise_repeats [LawfulBEq α] (xs : List α) :
    (repeats xs).Pairwise fun x y => xs.idxOfNth x 1 < xs.idxOfNth y 1 := by
  suffices order : InOrderOf (fun x y => y == x) 1 xs (repeats xs) from order
  induction xs using List.reverseRecOn with
  | nil => exact List.Pairwise.nil
  | append_singleton xs x ih =>
      have met : ∀ y ∈ repeats xs, 1 < xs.countP (· == y) := fun y hy =>
        (mem_repeats_iff xs).mp hy
      rw [repeats_append_singleton]
      split
      · next once => exact ih.snoc met once BEq.rfl
      · exact ih.append met [x]

end SliceContract
