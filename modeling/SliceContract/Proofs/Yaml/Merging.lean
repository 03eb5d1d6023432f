import Mathlib.Data.List.TakeWhile
import SliceContract.Proofs.Yaml.KeyTexts
import SliceContract.Yaml.Merge

/-!
# Merged mappings

What is merged into a mapping is said without the errors that stop merging, and a resolved tree is
described part by part. The main statements are `exists_mergeKey_iff`, on the merge key that comes
in with a merged mapping, and `everyMapping_properKeys_resolved`.
-/

namespace SliceContract

namespace Yaml

namespace Merge

/-! ## Entries -/

section Entries

variable {α β : Type}

/-- Entries with their values changed. -/
def mapValues (f : α → β) (entries : List (Yaml × α)) : List (Yaml × β) :=
  entries.map (Prod.map id f)

theorem withoutKey_mapValues (f : α → β) (entries : List (Yaml × α)) :
    withoutKey (mapValues f entries) = mapValues f (withoutKey entries) := by
  simp only [withoutKey, mapValues, List.takeWhile_map, List.dropWhile_map, Function.comp_def,
    Prod.map_fst, id]
  cases entries.dropWhile fun entry => !isMergeKey entry.1 with
  | nil => rfl
  | cons _ after =>
      simp only [List.map_cons, List.getLast?_map]
      cases after.getLast? with
      | none => rfl
      | some last => simp [List.map_dropLast]

/-- Which entries are added depends on the keys only. -/
theorem add_mapValues (f : α → β) (entries : List (Yaml × α)) (entry : Yaml × α) :
    add (mapValues f entries) (Prod.map id f entry) = mapValues f (add entries entry) := by
  have known : (mapValues f entries).any (fun known => entry.1.same known.1) =
      entries.any fun known => entry.1.same known.1 := by
    rw [mapValues, List.any_map]
    rfl
  rw [add, add, Prod.map_fst, id, known]
  split
  · rfl
  · rw [mapValues, mapValues, List.map_append, List.map_singleton]

/-- What is merged depends on keys alone. -/
theorem combine_mapValues (f : α → β) (own : List (Yaml × α)) (sources : List (List (Yaml × α))) :
    combine (mapValues f own) (sources.map (mapValues f)) = mapValues f (combine own sources) := by
  have fold (more known : List (Yaml × α)) :
      (mapValues f more).foldl add (mapValues f known) = mapValues f (more.foldl add known) := by
    induction more generalizing known with
    | nil => rfl
    | cons entry rest ih =>
        rw [List.foldl_cons, ← ih, ← add_mapValues]
        rfl
  have flatten : (sources.map (mapValues f)).flatten = mapValues f sources.flatten := by
    rw [mapValues, List.map_flatten]
    rfl
  rw [combine, combine, withoutKey_mapValues, flatten, fold]

end Entries

/-! ## Sources -/

/-- The entries of a mapping. -/
def entries? : Yaml → Option (List (Yaml × Yaml))
  | .mapping entries => some entries
  | _ => none

/-- The mappings that a value under the merge key stands for. -/
def sourcesIn : Yaml → List (List (Yaml × Yaml))
  | .mapping entries => [entries]
  | .sequence xs => xs.filterMap entries?
  | _ => []

/-- The mappings under the merge key. -/
def sources (entries : List (Yaml × Yaml)) : List (List (Yaml × Yaml)) :=
  match entries.find? fun entry => isMergeKey entry.1 with
  | some entry => sourcesIn entry.2
  | none => []

/-- The entries of a mapping after merging. -/
def merged (entries : List (Yaml × Yaml)) : List (Yaml × Yaml) := combine entries (sources entries)

theorem resolveEntries_eq (entries : List (Yaml × Yaml)) :
    resolveEntries entries = mapValues resolveMerges entries := by
  induction entries with
  | nil => rw [resolveEntries]; rfl
  | cons entry rest ih => rw [resolveEntries, ih]; rfl

/-- The sources in a list are its mappings, resolved. -/
theorem elementSources_ok {xs : List Yaml} {found : List (List (Yaml × Except MergeError Yaml))}
    (h : elementSources xs = .ok found) :
    found = (xs.filterMap entries?).map (mapValues resolveMerges) := by
  induction xs generalizing found with
  | nil => rw [elementSources] at h; cases h; rfl
  | cons x rest ih =>
      unfold elementSources at h
      split at h
      · cases hrest : elementSources rest with
        | error e => rw [hrest] at h; cases h
        | ok more =>
            rw [hrest] at h
            cases h
            simp only [entries?, List.filterMap_cons, List.map_cons, ih hrest, resolveEntries_eq]
      · cases h
      · cases h
      · cases h

/-- The sources of a mapping are resolved before they are merged. -/
theorem mergeSources_ok {entries : List (Yaml × Yaml)}
    {found : List (List (Yaml × Except MergeError Yaml))} (h : mergeSources entries = .ok found) :
    found = (sources entries).map (mapValues resolveMerges) := by
  induction entries with
  | nil => rw [mergeSources] at h; cases h; rfl
  | cons entry rest ih =>
      obtain ⟨key, x⟩ := entry
      unfold mergeSources at h
      split at h
      · next isKey =>
          simp only [sources, List.find?_cons, isKey]
          split at h
          · cases h
            rw [resolveEntries_eq]
            rfl
          · exact elementSources_ok h
          · cases h
          · cases h
      · next notKey =>
          simp only [sources, List.find?_cons, notKey]
          exact ih h

theorem finishItems_ok {results : List (Except MergeError Yaml)} {xs : List Yaml}
    (h : finishItems results = .ok xs) :
    List.Forall₂ (fun result x => result = .ok x) results xs := by
  induction results generalizing xs with
  | nil => cases h; exact .nil
  | cons result rest ih =>
      rw [finishItems] at h
      cases hrest : finishItems rest with
      | error e => rw [hrest] at h; cases h
      | ok more =>
          cases result with
          | error e => rw [hrest] at h; cases h
          | ok x =>
              rw [hrest] at h
              cases h
              exact .cons rfl (ih hrest)

/-- Entries are resolved if all their values are; the keys stay. -/
theorem finishEntries_ok {results : List (Yaml × Except MergeError Yaml)}
    {entries : List (Yaml × Yaml)} (h : finishEntries results = .ok entries) :
    List.Forall₂ (fun result entry => result = (entry.1, .ok entry.2)) results entries := by
  induction results generalizing entries with
  | nil => cases h; exact .nil
  | cons result rest ih =>
      obtain ⟨key, result⟩ := result
      rw [finishEntries] at h
      cases hrest : finishEntries rest with
      | error e => rw [hrest] at h; cases h
      | ok more =>
          cases result with
          | error e => rw [hrest] at h; cases h
          | ok x =>
              rw [hrest] at h
              cases h
              exact .cons rfl (ih hrest)

/-! ## What is merged -/

section Merged

variable {ms known more : List (Yaml × Yaml)} {e first : Yaml × Yaml}

/-- The order aside, taking the merge key out leaves the other entries. -/
theorem withoutKey_perm (ms : List (Yaml × Yaml)) :
    (withoutKey ms).Perm (ms.eraseP fun e => isMergeKey e.1) := by
  have split := List.takeWhile_append_dropWhile (p := fun e => !isMergeKey e.1) (l := ms)
  have free : ∀ e ∈ ms.takeWhile fun e => !isMergeKey e.1, ¬ isMergeKey e.1 :=
    fun e he => by simpa using List.mem_takeWhile_imp he
  simp only [withoutKey]
  generalize ms.takeWhile (fun e => !isMergeKey e.1) = before at split free ⊢
  cases found : ms.dropWhile fun e => !isMergeKey e.1 with
  | nil =>
      rw [found, List.append_nil] at split
      rw [← split, List.eraseP_of_forall_not free]
  | cons key after =>
      have isKey : isMergeKey key.1 := by
        have head := List.head_dropWhile_not (fun e : Yaml × Yaml => !isMergeKey e.1)
          (l := ms) (by simp [found])
        simpa [found] using head
      have erased : ms.eraseP (fun e => isMergeKey e.1) = before ++ after := by
        rw [← split, found, List.eraseP_append_right _ free]
        simp [isKey]
      rw [erased]
      cases last : after.getLast? with
      | none => simp [List.getLast?_eq_none_iff.mp last]
      | some e =>
          obtain ⟨init, rfl⟩ := List.getLast?_eq_some_iff.mp last
          simpa using (List.perm_append_singleton e init).symm.append_left before

/-! ### One entry more -/

theorem mem_add_of_mem (h : e ∈ known) : e ∈ add known first := by
  rw [add]
  split
  · exact h
  · exact List.mem_append_left _ h

theorem mem_add (h : e ∈ add known first) : e ∈ known ∨ e = first := by
  rw [add] at h
  split at h
  · exact .inl h
  · simpa using h

theorem isMergeKey_of_same {a b : Yaml} (ha : isMergeKey a) (h : a.same b) : isMergeKey b := by
  cases a <;> cases b <;> simp_all [isMergeKey, same]

theorem same_of_isMergeKey {a b : Yaml} (ha : isMergeKey a) (hb : isMergeKey b) : a.same b := by
  cases a <;> cases b <;> simp_all [isMergeKey, same]

/-- A merge key is added like every other key. -/
theorem exists_mergeKey_add : (∃ e ∈ add known first, isMergeKey e.1) ↔
    (∃ e ∈ known, isMergeKey e.1) ∨ isMergeKey first.1 := by
  rw [add]
  split
  · next old =>
      obtain ⟨e, he, same⟩ := List.any_eq_true.mp old
      exact (or_iff_left_of_imp fun key => ⟨e, he, isMergeKey_of_same key same⟩).symm
  · simp [or_and_right, exists_or]

/-- Adding an entry keeps keys distinct, since a known key is not added. -/
theorem distinctKeys_add (h : DistinctKeys known) : DistinctKeys (add known first) := by
  rw [add]
  split
  · exact h
  · next new =>
      rw [DistinctKeys, List.pairwise_append]
      exact ⟨h, List.pairwise_singleton _ _, by simpa using new⟩

/-! ### All entries -/

theorem mem_foldl_add_of_mem (h : e ∈ known) : e ∈ more.foldl add known := by
  induction more generalizing known with
  | nil => exact h
  | cons first rest ih => exact ih (mem_add_of_mem h)

/-- Each entry of the result was known or is one of those added. -/
theorem mem_foldl_add (h : e ∈ more.foldl add known) : e ∈ known ∨ e ∈ more := by
  induction more generalizing known with
  | nil => exact .inl h
  | cons first rest ih =>
      rcases ih h with found | found
      · rcases mem_add found with found | rfl
        · exact .inl found
        · exact .inr List.mem_cons_self
      · exact .inr (List.mem_cons_of_mem _ found)

/-- A merge key is kept if it was known, and taken over from what is added. -/
theorem exists_mergeKey_foldl_add : (∃ e ∈ more.foldl add known, isMergeKey e.1) ↔
    (∃ e ∈ known, isMergeKey e.1) ∨ ∃ e ∈ more, isMergeKey e.1 := by
  induction more generalizing known with
  | nil => simp
  | cons first rest ih =>
      rw [List.foldl_cons, ih, exists_mergeKey_add, or_assoc, List.exists_mem_cons_iff]

theorem distinctKeys_foldl_add (h : DistinctKeys known) : DistinctKeys (more.foldl add known) := by
  induction more generalizing known with
  | nil => exact h
  | cons first rest ih => exact ih (distinctKeys_add h)

/-- A merged mapping has its own entries and entries of its sources. -/
theorem mem_merged (h : e ∈ merged ms) : e ∈ ms ∨ ∃ source ∈ sources ms, e ∈ source := by
  refine (mem_foldl_add h).imp (fun own => ?_) List.mem_flatten.mp
  exact List.mem_of_mem_eraseP ((withoutKey_perm ms).mem_iff.mp own)

/-- Of the entries of a mapping without repeated keys only the one that is taken out has the merge
key. -/
theorem not_isMergeKey_of_mem_withoutKey (distinct : DistinctKeys ms) (h : e ∈ withoutKey ms) :
    ¬ isMergeKey e.1 := by
  have erased := (withoutKey_perm ms).mem_iff.mp h
  rcases List.exists_or_eq_self_of_eraseP (fun e : Yaml × Yaml => isMergeKey e.1) ms with
    none | ⟨key, before, after, free, isKey, rfl, rest⟩
  · exact List.eraseP_eq_self_iff.mp none e (none ▸ erased)
  · rw [rest] at erased
    rw [DistinctKeys, List.pairwise_append, List.pairwise_cons] at distinct
    rcases List.mem_append.mp erased with he | he
    · exact free e he
    · intro also
      have := distinct.2.1.1 e he
      rw [same_of_isMergeKey also isKey] at this
      cases this

/-- After merging the merge key is there if it came in with a source. -/
theorem exists_mergeKey_iff (distinct : DistinctKeys ms) :
    (∃ e ∈ merged ms, isMergeKey e.1) ↔ ∃ source ∈ sources ms, ∃ e ∈ source, isMergeKey e.1 := by
  have own : ¬ ∃ e ∈ withoutKey ms, isMergeKey e.1 :=
    fun ⟨_, he, key⟩ => not_isMergeKey_of_mem_withoutKey distinct he key
  rw [merged, combine, exists_mergeKey_foldl_add, or_iff_right own]
  simp only [List.mem_flatten]
  constructor
  · rintro ⟨e, ⟨source, hsource, he⟩, key⟩
    exact ⟨source, hsource, e, he, key⟩
  · rintro ⟨source, hsource, e, he, key⟩
    exact ⟨e, ⟨source, hsource, he⟩, key⟩

/-! ### Keys after merging -/

/-- The entry that takes the place of the merge key comes before entries that it followed. -/
theorem distinctKeys_withoutKey (h : DistinctKeys ms)
    (texts : ∀ e ∈ withoutKey ms, (keyText? e.1).isSome) : DistinctKeys (withoutKey ms) := by
  have both : (ms.eraseP fun e => isMergeKey e.1).Pairwise fun a b =>
      b.1.same a.1 = false ∧ a.1.same b.1 = false := by
    refine (List.Pairwise.sublist List.eraseP_sublist h).imp_of_mem fun {a b} ha hb apart => ?_
    have hasText (e) (he : e ∈ ms.eraseP fun e => isMergeKey e.1) : (keyText? e.1).isSome :=
      texts e ((withoutKey_perm ms).mem_iff.mpr he)
    exact ⟨apart, by rwa [same_comm (hasText a ha) (hasText b hb)]⟩
  exact (((withoutKey_perm ms).pairwise_iff fun apart => apart.symm).mpr both).imp And.left

/-- Proper keys stay proper when mappings are merged. -/
theorem properKeys_merged (own : ProperKeys ms) (others : ∀ source ∈ sources ms, ProperKeys source)
    (texts : ∀ e ∈ merged ms, (keyText? e.1).isSome) : ProperKeys (merged ms) where
  distinct := by
    refine distinctKeys_foldl_add (distinctKeys_withoutKey own.distinct fun e he => texts e ?_)
    exact mem_foldl_add_of_mem he
  doubles := by
    intro e he
    rcases mem_merged he with mem | ⟨source, hsource, mem⟩
    · exact own.doubles e mem
    · exact (others source hsource).doubles e mem

end Merged

end Merge

open Merge

/-! ## Resolved parts -/

theorem resolveItems_eq (xs : List Yaml) : resolveItems xs = xs.map resolveMerges := by
  induction xs with
  | nil => rw [resolveItems]; rfl
  | cons x rest ih => rw [resolveItems, ih]; rfl

theorem resolveMerges_sequence {xs : List Yaml} {r : Yaml}
    (h : resolveMerges (.sequence xs) = .ok r) :
    ∃ ys, r = .sequence ys ∧ List.Forall₂ (fun x y => resolveMerges x = .ok y) xs ys := by
  rw [resolveMerges] at h
  cases hys : finishItems (resolveItems xs) with
  | error e => rw [hys] at h; cases h
  | ok ys =>
      rw [hys] at h
      cases h
      have parts := finishItems_ok hys
      rw [resolveItems_eq, List.forall₂_map_left_iff] at parts
      exact ⟨ys, rfl, parts⟩

/-- A mapping is merged with its sources and then resolved entry by entry. -/
theorem resolveMerges_mapping {ms : List (Yaml × Yaml)} {r : Yaml}
    (h : resolveMerges (.mapping ms) = .ok r) :
    ∃ rs, r = .mapping rs ∧
      List.Forall₂ (fun e e' => e'.1 = e.1 ∧ resolveMerges e.2 = .ok e'.2) (merged ms) rs := by
  rw [resolveMerges] at h
  cases hs : mergeSources ms with
  | error e => rw [hs] at h; cases h
  | ok found =>
      cases hrs : finishEntries (combine (resolveEntries ms) found) with
      | error e => rw [hs] at h; simp only [bind, Except.bind, hrs] at h; cases h
      | ok rs =>
          rw [hs] at h
          simp only [bind, Except.bind, hrs] at h
          cases h
          have parts := finishEntries_ok hrs
          rw [resolveEntries_eq, mergeSources_ok hs, combine_mapValues, mapValues,
            List.forall₂_map_left_iff] at parts
          exact ⟨rs, rfl, parts.imp fun e e' same => by simpa [eq_comm, Prod.ext_iff] using same⟩

theorem resolveMerges_tagged {tag : String} {x r : Yaml}
    (h : resolveMerges (.tagged tag x) = .ok r) :
    ∃ y, r = .tagged tag y ∧ resolveMerges x = .ok y := by
  rw [resolveMerges] at h
  cases hy : resolveMerges x with
  | error e => rw [hy] at h; cases h
  | ok y =>
      rw [hy] at h
      cases h
      exact ⟨y, rfl, rfl⟩

/-- A mapping that is merged is a part of the mapping that it is merged into. -/
theorem hasPart_source {ms source : List (Yaml × Yaml)} (h : source ∈ sources ms) :
    (mapping ms).HasPart (mapping source) := by
  rw [sources] at h
  split at h
  · next entry found =>
      refine .value (List.mem_of_find?_eq_some found) ?_
      cases hx : entry.2 with
      | mapping entries =>
          rw [hx] at h
          cases List.mem_singleton.mp h
          exact .self _
      | sequence xs =>
          rw [hx] at h
          obtain ⟨x, hxs, hx⟩ := List.mem_filterMap.mp h
          cases x with
          | mapping entries => cases hx; exact .element hxs (.self _)
          | _ => cases hx
      | _ => rw [hx] at h; cases h
  · cases h

/-- What is merged into a mapping is a part of it. -/
theorem hasPart_of_mem_merged {ms : List (Yaml × Yaml)} {e : Yaml × Yaml} (h : e ∈ merged ms) :
    (mapping ms).HasPart e.2 := by
  rcases mem_merged h with own | ⟨source, hsource, he⟩
  · exact .value own (.self _)
  · exact (hasPart_source hsource).trans (.value he (.self _))

/-- A tree and what it is resolved to are of one kind. -/
theorem resolveMerges_kind {tree r : Yaml} (h : resolveMerges tree = .ok r) :
    (∀ ys, r = .sequence ys → ∃ xs, tree = .sequence xs) ∧
      (∀ rs, r = .mapping rs → ∃ ms, tree = .mapping ms) ∧
      ∀ tag y, r = .tagged tag y → ∃ x, tree = .tagged tag x := by
  cases tree with
  | sequence xs =>
      obtain ⟨ys, rfl, -⟩ := resolveMerges_sequence h
      exact ⟨fun _ _ => ⟨xs, rfl⟩, by simp, by simp⟩
  | mapping ms =>
      obtain ⟨rs, rfl, -⟩ := resolveMerges_mapping h
      exact ⟨by simp, fun _ _ => ⟨ms, rfl⟩, by simp⟩
  | tagged tag x =>
      obtain ⟨y, rfl, -⟩ := resolveMerges_tagged h
      exact ⟨by simp, by simp, fun _ _ same => ⟨x, by cases same; rfl⟩⟩
  | null | bool | number | string =>
      rw [resolveMerges] at h
      cases h
      simp

/-- Every part of a resolved tree is what a part of the tree is resolved to. -/
theorem HasPart.of_resolveMerges {r y : Yaml} (part : r.HasPart y) {tree : Yaml}
    (h : resolveMerges tree = .ok r) : ∃ x, tree.HasPart x ∧ resolveMerges x = .ok y := by
  induction part generalizing tree with
  | self r => exact ⟨tree, .self tree, h⟩
  | element mem part ih =>
      obtain ⟨xs, rfl⟩ := (resolveMerges_kind h).1 _ rfl
      obtain ⟨ys, same, parts⟩ := resolveMerges_sequence h
      cases same
      obtain ⟨x, hx, resolved⟩ := exists_mem_of_forall₂ parts.flip mem
      obtain ⟨z, inner, hz⟩ := ih resolved
      exact ⟨z, .element hx inner, hz⟩
  | value mem part ih =>
      obtain ⟨ms, rfl⟩ := (resolveMerges_kind h).2.1 _ rfl
      obtain ⟨rs, same, parts⟩ := resolveMerges_mapping h
      cases same
      obtain ⟨e, he, -, resolved⟩ := exists_mem_of_forall₂ parts.flip mem
      obtain ⟨z, inner, hz⟩ := ih resolved
      exact ⟨z, (hasPart_of_mem_merged he).trans inner, hz⟩
  | untagged part ih =>
      obtain ⟨x, rfl⟩ := (resolveMerges_kind h).2.2 _ _ rfl
      obtain ⟨y, same, resolved⟩ := resolveMerges_tagged h
      cases same
      obtain ⟨z, inner, hz⟩ := ih resolved
      exact ⟨z, .untagged inner, hz⟩

/-- Keys stay proper while merge keys are resolved, if the resolved tree has texts for its keys. -/
theorem everyMapping_properKeys_resolved {tree r : Yaml} (h : resolveMerges tree = .ok r)
    (keys : tree.EveryMapping ProperKeys)
    (texts : r.EveryMapping fun ms => ∀ e ∈ ms, (keyText? e.1).isSome) :
    r.EveryMapping ProperKeys := by
  intro rs part
  obtain ⟨x, inner, resolved⟩ := part.of_resolveMerges h
  obtain ⟨ms, rfl⟩ := (resolveMerges_kind resolved).2.1 _ rfl
  obtain ⟨rs, same, parts⟩ := resolveMerges_mapping resolved
  cases same
  have sameKeys : (merged ms).map (·.1) = rs.map (·.1) := by
    rw [← List.forall₂_eq_eq_eq, List.forall₂_map_left_iff, List.forall₂_map_right_iff]
    exact parts.imp fun _ _ resolved => resolved.1.symm
  refine (properKeys_merged (keys ms inner) ?_ fun e he => ?_).congr sameKeys
  · exact fun source hsource => keys source (inner.trans (hasPart_source hsource))
  · obtain ⟨e', he', key, -⟩ := exists_mem_of_forall₂ parts he
    exact key ▸ texts rs part e' he'

/-! ## Loaded parts -/

/-- Whether a value is what a tree becomes once its merge keys are resolved. -/
def Loads (tree : Yaml) (v : Json) : Prop := ∃ r, resolveMerges tree = .ok r ∧ r.Becomes v

theorem Loads.sequence {xs : List Yaml} {v : Json} (h : (sequence xs).Loads v) :
    ∃ vs, v = .array vs ∧ List.Forall₂ Loads xs vs := by
  obtain ⟨r, hr, becomes⟩ := h
  obtain ⟨ys, rfl, resolved⟩ := resolveMerges_sequence hr
  obtain ⟨vs, rfl, converted⟩ := becomes.sequence
  exact ⟨vs, rfl, forall₂_trans (fun _ y _ hy hv => ⟨y, hy, hv⟩) resolved converted⟩

/-- A mapping loads as an object made of its merged entries. -/
theorem Loads.mapping {ms : List (Yaml × Yaml)} {v : Json} (h : (mapping ms).Loads v) :
    ∃ ps, v = .object (Entries.ofList ps) ∧
      List.Forall₂ (fun e p => keyText? e.1 = some p.1 ∧ e.2.Loads p.2) (merged ms) ps := by
  obtain ⟨r, hr, becomes⟩ := h
  obtain ⟨rs, rfl, resolved⟩ := resolveMerges_mapping hr
  obtain ⟨ps, rfl, converted⟩ := becomes.mapping
  refine ⟨ps, rfl, forall₂_trans (fun e e' p resolve convert => ?_) resolved converted⟩
  exact ⟨resolve.1 ▸ convert.1, e'.2, resolve.2, convert.2⟩

theorem Loads.tagged {tag : String} {x : Yaml} {v : Json} (h : (tagged tag x).Loads v) :
    x.Loads v := by
  obtain ⟨r, hr, becomes⟩ := h
  obtain ⟨y, rfl, hy⟩ := resolveMerges_tagged hr
  exact ⟨y, hy, becomes.tagged⟩

end Yaml

end SliceContract
