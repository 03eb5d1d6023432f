/-!
# Occurrences in a list

Which elements a list has, and which it has more than once.
-/

namespace SliceContract

variable {α : Type _} [BEq α]

/-- The elements of a list, each once, first seen first. -/
def distinct (xs : List α) : List α :=
  xs.foldl (fun found x => if found.contains x then found else found ++ [x]) []

/-- The elements that occur again, each once, in the order of their second occurrences. -/
def repeats (xs : List α) : List α := go [] [] xs
where
  go (seen found : List α) : List α → List α
    | [] => found
    | x :: rest =>
      if seen.contains x then go seen (if found.contains x then found else found ++ [x]) rest
      else go (x :: seen) found rest

@[simp] theorem distinct_nil : distinct ([] : List α) = [] := rfl

@[simp] theorem distinct_singleton (x : α) : distinct [x] = [x] := rfl

private theorem nodup_snoc_unless [LawfulBEq α] {found : List α} (h : found.Nodup) (x : α) :
    (if found.contains x then found else found ++ [x]).Nodup := by
  split
  · exact h
  · next hx =>
    have hmem : x ∉ found := fun hm => hx (List.contains_iff_mem.mpr hm)
    refine List.nodup_append.mpr ⟨h, List.pairwise_singleton _ x, ?_⟩
    intro y hy z hz e
    rw [List.mem_singleton.mp hz] at e
    exact hmem (e ▸ hy)

private theorem mem_snoc_unless [LawfulBEq α] {found : List α} {x y : α} :
    x ∈ (if found.contains y then found else found ++ [y]) ↔ x ∈ found ∨ x = y := by
  split
  · next hy =>
    rw [List.contains_iff_mem] at hy
    constructor
    · exact .inl
    · rintro (hx | rfl)
      · exact hx
      · exact hy
  · simp

theorem nodup_distinct [LawfulBEq α] (xs : List α) : (distinct xs).Nodup := by
  have step : ∀ found : List α, found.Nodup →
      (xs.foldl (fun found x => if found.contains x then found else found ++ [x]) found).Nodup := by
    induction xs with
    | nil => exact fun _ h => h
    | cons x rest ih => exact fun _ h => ih _ (nodup_snoc_unless h x)
  exact step [] List.nodup_nil

@[simp] theorem repeats_nil : repeats ([] : List α) = [] := rfl

@[simp] theorem repeats_singleton (x : α) : repeats [x] = [] := rfl

private theorem nodup_repeats_go [LawfulBEq α] {seen found : List α} (h : found.Nodup)
    (xs : List α) : (repeats.go seen found xs).Nodup := by
  induction xs generalizing seen found with
  | nil => exact h
  | cons x rest ih =>
      rw [repeats.go]
      split
      · exact ih (nodup_snoc_unless h x)
      · exact ih h

theorem nodup_repeats [LawfulBEq α] (xs : List α) : (repeats xs).Nodup :=
  nodup_repeats_go List.nodup_nil xs

/-- An element that was seen needs to occur once more, and any other one twice. -/
private theorem mem_repeats_go [LawfulBEq α] {x : α} (seen found xs : List α) :
    x ∈ repeats.go seen found xs ↔
      x ∈ found ∨ 2 ≤ (if seen.contains x then 1 else 0) + xs.count x := by
  induction xs generalizing seen found with
  | nil =>
      have once : ¬ 2 ≤ (if seen.contains x then 1 else 0) := by
        split <;> decide
      exact (or_iff_left once).symm
  | cons y rest ih =>
      rw [repeats.go, List.count_cons]
      by_cases same : y = x
      · subst same
        by_cases hy : seen.contains y
        · have twice : 2 ≤ 1 + (rest.count y + 1) := by omega
          rw [if_pos hy, ih, mem_snoc_unless, if_pos hy, if_pos BEq.rfl]
          exact iff_of_true (.inl (.inr rfl)) (.inr twice)
        · rw [if_neg hy, ih, if_neg hy, if_pos BEq.rfl, if_pos (by simp), Nat.zero_add,
            Nat.add_comm]
      · by_cases hy : seen.contains y
        · rw [if_pos hy, ih, mem_snoc_unless]
          simp [same, Ne.symm same]
        · rw [if_neg hy, ih]
          simp [same, Ne.symm same]

/-- What occurs again is what the list has at least twice. -/
theorem mem_repeats_iff [LawfulBEq α] {x : α} (xs : List α) :
    x ∈ repeats xs ↔ 2 ≤ xs.count x := by
  rw [repeats, mem_repeats_go]
  simp

/-- Nothing occurs again exactly in a list without duplicates. -/
theorem repeats_eq_nil_iff [LawfulBEq α] (xs : List α) : repeats xs = [] ↔ xs.Nodup := by
  simp only [List.eq_nil_iff_forall_not_mem, mem_repeats_iff, List.nodup_iff_count]
  exact forall_congr' fun x => Nat.not_le.trans Nat.lt_succ_iff

end SliceContract
