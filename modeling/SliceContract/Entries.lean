/-!
# Key-ordered entries

Association lists kept in increasing order of their keys, one entry a key. Text keys are ordered
by code point.
-/

namespace SliceContract

/-- Entries with strictly increasing keys; `Ordered` states the order. -/
abbrev Entries (α : Type _) := List (String × α)

namespace Entries

variable {α : Type _}

/-- Each key is below every later one. -/
def Ordered (entries : Entries α) : Prop := entries.Pairwise fun a b => a.1 < b.1

instance (entries : Entries α) : Decidable (Ordered entries) :=
  inferInstanceAs (Decidable (List.Pairwise _ _))

/-- Set the value of a key, in the place its order gives it. -/
def put (key : String) (value : α) : Entries α → Entries α
  | [] => [(key, value)]
  | (k, v) :: rest =>
    if key = k then (k, value) :: rest
    else if key < k then (key, value) :: (k, v) :: rest
    else (k, v) :: put key value rest

/-- Set the keys one after another, so that the last value of a repeated key stays. -/
def ofList (pairs : List (String × α)) : Entries α :=
  pairs.foldl (fun entries pair => put pair.1 pair.2 entries) []

def keys (entries : Entries α) : List String := entries.map (·.1)

@[simp] theorem ofList_nil : ofList ([] : List (String × α)) = [] := rfl

@[simp] theorem ofList_single (key : String) (value : α) :
    ofList [(key, value)] = [(key, value)] := rfl

theorem lookup_cons (other key : String) (value : α) (rest : Entries α) :
    List.lookup other ((key, value) :: rest) =
      if other = key then some value else rest.lookup other := by
  rw [List.lookup_cons]
  by_cases h : other = key
  · simp [h]
  · rw [beq_false_of_ne h, if_neg h]

theorem mem_of_lookup {entries : Entries α} {key : String} {value : α}
    (h : entries.lookup key = some value) : (key, value) ∈ entries := by
  induction entries with
  | nil => cases h
  | cons entry rest ih =>
    rw [lookup_cons] at h
    by_cases hk : key = entry.1
    · rw [if_pos hk, Option.some.injEq] at h
      rw [hk, ← h]
      exact List.mem_cons_self
    · rw [if_neg hk] at h
      exact List.mem_cons_of_mem _ (ih h)

@[simp] theorem lookup_put_self (key : String) (value : α) (entries : Entries α) :
    (put key value entries).lookup key = some value := by
  induction entries with
  | nil => simp [put]
  | cons entry rest ih =>
    obtain ⟨k, v⟩ := entry
    rw [put]
    split
    · next h => simp [h]
    · next h => split <;> simp [lookup_cons, h, ih]

theorem lookup_put_of_ne {key other : String} (h : other ≠ key) (value : α) (entries : Entries α) :
    (put key value entries).lookup other = entries.lookup other := by
  induction entries with
  | nil => simp [put, lookup_cons, h]
  | cons entry rest ih =>
    obtain ⟨k, v⟩ := entry
    rw [put]
    split
    · next hk => subst hk; simp [lookup_cons, h]
    · split <;> simp [lookup_cons, h, ih]

/-- Of two different keys one is the lower. -/
private theorem lt_of_ne_of_not_lt {a b : String} (hne : a ≠ b) (h : ¬ a < b) : b < a := by
  have hle : b ≤ a := String.not_lt.mp h
  by_cases hlt : b < a
  · exact hlt
  · exact absurd (String.le_antisymm (String.not_lt.mp hlt) hle) hne

theorem key_mem_put {key k : String} {value v : α} {entries : Entries α}
    (h : (k, v) ∈ put key value entries) : k = key ∨ (k, v) ∈ entries := by
  induction entries with
  | nil => simp_all [put]
  | cons entry rest ih =>
    obtain ⟨k', v'⟩ := entry
    rw [put] at h
    split at h
    · next he =>
      rcases List.mem_cons.mp h with h | h
      · exact .inl ((Prod.mk.inj h).1.trans he.symm)
      · exact .inr (List.mem_cons_of_mem _ h)
    · split at h
      · rcases List.mem_cons.mp h with h | h
        · exact .inl (Prod.mk.inj h).1
        · exact .inr h
      · rcases List.mem_cons.mp h with h | h
        · exact .inr (h ▸ List.mem_cons_self)
        · exact (ih h).imp_right (List.mem_cons_of_mem _)

theorem ordered_put {entries : Entries α} (h : Ordered entries) (key : String) (value : α) :
    Ordered (put key value entries) := by
  induction entries with
  | nil => simp [put, Ordered]
  | cons entry rest ih =>
    obtain ⟨k, v⟩ := entry
    obtain ⟨hk, hrest⟩ := List.pairwise_cons.mp h
    rw [put]
    split
    · exact List.pairwise_cons.mpr ⟨hk, hrest⟩
    · next hne =>
      split
      · next hlt =>
        refine List.pairwise_cons.mpr ⟨fun b hb => ?_, h⟩
        rcases List.mem_cons.mp hb with rfl | hb
        · exact hlt
        · exact String.lt_trans hlt (hk b hb)
      · next hlt =>
        refine List.pairwise_cons.mpr ⟨fun b hb => ?_, ih hrest⟩
        rcases key_mem_put (k := b.1) (v := b.2) hb with hb | hb
        · exact hb ▸ lt_of_ne_of_not_lt hne hlt
        · exact hk b hb

theorem forall_mem_put {p : α → Prop} {entries : Entries α} {value : α} (hv : p value)
    (h : ∀ e ∈ entries, p e.2) (key : String) : ∀ e ∈ put key value entries, p e.2 := by
  induction entries with
  | nil => simp [put, hv]
  | cons entry rest ih =>
    obtain ⟨k, v⟩ := entry
    obtain ⟨hfirst, hrest⟩ := List.forall_mem_cons.mp h
    rw [put]
    split
    · exact List.forall_mem_cons.mpr ⟨hv, hrest⟩
    · split
      · exact List.forall_mem_cons.mpr ⟨hv, h⟩
      · exact List.forall_mem_cons.mpr ⟨hfirst, ih hrest⟩

/-- Setting keys in any order leaves them in increasing order, each once. -/
theorem ordered_ofList (pairs : List (String × α)) : Ordered (ofList pairs) := by
  have step : ∀ entries : Entries α, Ordered entries →
      Ordered (pairs.foldl (fun entries pair => put pair.1 pair.2 entries) entries) := by
    induction pairs with
    | nil => exact fun _ h => h
    | cons pair rest ih => exact fun entries h => ih _ (ordered_put h _ _)
  exact step [] List.Pairwise.nil

theorem forall_mem_ofList {p : α → Prop} {pairs : List (String × α)} (h : ∀ e ∈ pairs, p e.2) :
    ∀ e ∈ ofList pairs, p e.2 := by
  have step : ∀ entries : Entries α, (∀ e ∈ entries, p e.2) →
      ∀ e ∈ pairs.foldl (fun entries pair => put pair.1 pair.2 entries) entries, p e.2 := by
    induction pairs with
    | nil => exact fun _ he => he
    | cons pair rest ih =>
      obtain ⟨hfirst, hrest⟩ := List.forall_mem_cons.mp h
      exact fun entries he => ih hrest _ (forall_mem_put hfirst he _)
  exact step [] fun _ he => absurd he List.not_mem_nil

theorem put_map {β : Type _} (f : α → β) (key : String) (value : α) (entries : Entries α) :
    put key (f value) (entries.map fun e => (e.1, f e.2)) =
      (put key value entries).map fun e => (e.1, f e.2) := by
  induction entries with
  | nil => rfl
  | cons entry rest ih =>
    rw [List.map_cons, put, put]
    split
    · rfl
    · split
      · rfl
      · rw [ih, List.map_cons]

/-- Values may be replaced before or after the keys are set. -/
theorem ofList_map {β : Type _} (f : α → β) (pairs : List (String × α)) :
    ofList (pairs.map fun e => (e.1, f e.2)) = (ofList pairs).map fun e => (e.1, f e.2) := by
  have step : ∀ entries : Entries α,
      (pairs.map fun e => (e.1, f e.2)).foldl (fun entries pair => put pair.1 pair.2 entries)
          (entries.map fun e => (e.1, f e.2)) =
        (pairs.foldl (fun entries pair => put pair.1 pair.2 entries) entries).map
          fun e => (e.1, f e.2) := by
    induction pairs with
    | nil => exact fun _ => rfl
    | cons pair rest ih =>
      intro entries
      rw [List.foldl_cons, ← ih, ← put_map]
      rfl
  exact step []

end Entries

end SliceContract
