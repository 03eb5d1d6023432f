import Mathlib.Data.List.Dedup
import Mathlib.Data.List.Induction
import SliceContract.Entries
import SliceContract.Proofs.Occurrences

/-!
# What is found after keys are set

Keys may be set more than once. What is found under a key is what it was set to last, and a key
that is set again costs the list one entry. Keys that are set in their order make the same list.
-/

namespace SliceContract

namespace Entries

variable {α : Type*}

/-- Of the values that a key is set to, the last one is found. -/
theorem lookup_ofList (pairs : List (String × α)) (key : String) :
    (ofList pairs).lookup key = pairs.reverse.lookup key := by
  have step (entries : Entries α) :
      (pairs.foldl (fun entries pair => put pair.1 pair.2 entries) entries).lookup key =
        (pairs.reverse.lookup key).or (entries.lookup key) := by
    induction pairs generalizing entries with
    | nil => simp
    | cons pair rest ih =>
        rw [List.foldl_cons, ih, List.reverse_cons, List.lookup_append, Option.or_assoc]
        congr 1
        by_cases h : key = pair.1
        · rw [h, lookup_put_self, lookup_cons, if_pos rfl]
          rfl
        · rw [lookup_put_of_ne h, lookup_cons, if_neg h]
          rfl
  rw [ofList, step, List.lookup_nil, Option.or_none]

/-- Values may be replaced before or after one of them is looked up. -/
theorem lookup_map {β : Type*} (f : α → β) (entries : Entries α) (key : String) :
    List.lookup key (entries.map fun e => (e.1, f e.2)) = (entries.lookup key).map f := by
  induction entries with
  | nil => rfl
  | cons entry rest ih =>
      rw [List.map_cons, lookup_cons, lookup_cons, ih]
      split <;> rfl

theorem mem_keys_iff {entries : Entries α} {key : String} :
    key ∈ entries.map (·.1) ↔ entries.lookup key ≠ none := by
  rw [Ne, List.lookup_eq_none_iff, List.mem_map]
  constructor
  · rintro ⟨entry, mem, rfl⟩ none
    simpa using none entry mem
  · intro some
    by_contra absent
    refine some fun entry mem => bne_iff_ne.mpr fun same => absent ⟨entry, mem, same.symm⟩

theorem nodup_keys {entries : Entries α} (h : Ordered entries) : (entries.map (·.1)).Nodup := by
  rw [List.Nodup, List.pairwise_map]
  refine List.Pairwise.imp (fun {a b} below same => ?_) h
  exact String.lt_irrefl b.1 (same ▸ below)

/-- The keys that are set, each once. -/
theorem keys_ofList_perm (pairs : List (String × α)) :
    ((ofList pairs).map (·.1)).Perm (pairs.map (·.1)).dedup := by
  rw [List.perm_ext_iff_of_nodup (nodup_keys (ordered_ofList pairs)) (List.nodup_dedup _)]
  intro key
  have set : key ∈ pairs.map (·.1) ↔ key ∈ pairs.reverse.map (·.1) := by simp
  rw [List.mem_dedup, set, mem_keys_iff, mem_keys_iff, lookup_ofList]

/-- The keys that are set, in another order than that in which they are set first. -/
theorem keys_ofList_perm_distinct (pairs : List (String × α)) :
    ((ofList pairs).map (·.1)).Perm (distinct (pairs.map (·.1))) :=
  (keys_ofList_perm pairs).trans (distinct_perm_dedup _).symm

/-- As many keys are kept as are set exactly if none is set twice. -/
theorem length_ofList_eq_iff (pairs : List (String × α)) :
    (ofList pairs).length = pairs.length ↔ (pairs.map (·.1)).Nodup := by
  have kept : (ofList pairs).length = (pairs.map (·.1)).dedup.length := by
    rw [← (keys_ofList_perm pairs).length_eq, List.length_map]
  have set : pairs.length = (pairs.map (·.1)).length := (List.length_map _).symm
  rw [kept, set, ← List.dedup_eq_self]
  exact ⟨(List.dedup_sublist _).eq_of_length, congrArg List.length⟩

/-- A key is found with the value of the last pair that sets it. -/
theorem lookup_ofList_eq_some_iff {pairs : List (String × α)} {key : String} {x : α} :
    (ofList pairs).lookup key = some x ↔
      ∃ before after, pairs = before ++ (key, x) :: after ∧ ∀ p ∈ after, p.1 ≠ key := by
  rw [lookup_ofList, List.lookup_eq_some_iff]
  constructor
  · rintro ⟨after, before, h, apart⟩
    refine ⟨before.reverse, after.reverse, by simpa using congrArg List.reverse h, fun p hp => ?_⟩
    exact (bne_iff_ne.mp (apart p (List.mem_reverse.mp hp))).symm
  · rintro ⟨before, after, rfl, apart⟩
    refine ⟨after.reverse, before.reverse, by simp, fun p hp => ?_⟩
    exact bne_iff_ne.mpr (apart p (List.mem_reverse.mp hp)).symm

/-- If no key is set twice, each is found with its value. -/
theorem lookup_ofList_of_mem {pairs : List (String × α)} (h : (pairs.map (·.1)).Nodup)
    {pair : String × α} (mem : pair ∈ pairs) : (ofList pairs).lookup pair.1 = some pair.2 := by
  obtain ⟨before, after, rfl⟩ := List.append_of_mem mem
  refine lookup_ofList_eq_some_iff.mpr ⟨before, after, rfl, fun other hother same => ?_⟩
  rw [List.map_append, List.map_cons, List.nodup_append, List.nodup_cons] at h
  exact h.2.1.1 (same ▸ List.mem_map_of_mem hother)

theorem put_append {entries : Entries α} {key : String} (value : α)
    (h : ∀ e ∈ entries, e.1 < key) : put key value entries = entries ++ [(key, value)] := by
  induction entries with
  | nil => rfl
  | cons first rest ih =>
      obtain ⟨below, others⟩ := List.forall_mem_cons.mp h
      have apart : key ≠ first.1 := fun same => String.lt_irrefl key (same ▸ below)
      rw [put, if_neg apart, if_neg (String.lt_asymm below), ih others, List.cons_append]

/-- Entries that are in order stay as they are. -/
theorem ofList_eq_self {entries : Entries α} (h : entries.Ordered) : ofList entries = entries := by
  induction entries using List.reverseRecOn with
  | nil => rfl
  | append_singleton entries last ih =>
      obtain ⟨before, -, below⟩ := List.pairwise_append.mp h
      rw [ofList, List.foldl_append, ← ofList, ih before]
      exact put_append last.2 fun e he => below e he last (List.mem_singleton_self last)

end Entries

end SliceContract
