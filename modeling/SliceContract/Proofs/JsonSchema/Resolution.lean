import Mathlib.Data.List.Basic
import SliceContract.JsonSchema.Compiled
import SliceContract.Proofs.Entries

/-!
# What references name

A reference names a part of its document: a resource, a part of one that a pointer leads to, or a
schema with an anchor. So following references never leads out of the parts that are listed as
targets.
-/

namespace SliceContract

namespace Reference

/-! ## Pointers -/

theorem mem_walks_self (site : Site) (c : Context) (v : Json) : ⟨c, v⟩ ∈ walks site c v := by
  cases v <;> exact List.mem_cons_self

theorem walks_subset_items (site : Site) (c : Context) {xs : List Json} {i k : Nat} {x : Json}
    (h : xs[k]? = some x) :
    walks (site.step c.draft (.element (i + k)))
      ((site.step c.draft (.element (i + k))).context c x) x ⊆ walks.items site c i xs := by
  induction xs generalizing i k with
  | nil => cases h
  | cons y rest ih =>
      rw [walks.items]
      cases k with
      | zero =>
          obtain rfl := Option.some.inj h
          exact List.subset_append_left _ _
      | succ k =>
          have further := ih (i := i + 1) h
          rw [Nat.succ_add_eq_add_succ] at further
          exact List.subset_append_of_subset_right _ further

theorem walks_subset_members {site : Site} {c : Context} {ms : List (String × Json)} {key : String}
    {x : Json} (h : (key, x) ∈ ms) :
    walks (site.step c.draft (.member key)) ((site.step c.draft (.member key)).context c x) x ⊆
      walks.members site c ms := by
  induction ms with
  | nil => cases h
  | cons m rest ih =>
      rw [walks.members]
      rcases List.mem_cons.mp h with rfl | h
      · exact List.subset_append_left _ _
      · exact List.subset_append_of_subset_right _ (ih h)

/-- Where a pointer leads on from a step is listed with the parts of the whole. -/
theorem walks_subset_of_step? {site : Site} {c : Context} {v x : Json} {token : List Char}
    {step : Step} (h : v.step? token = some (step, x)) :
    walks (site.step c.draft step) ((site.step c.draft step).context c x) x ⊆ walks site c v := by
  cases v with
  | array xs =>
      obtain ⟨i, -, h⟩ := Option.bind_eq_some_iff.mp h
      obtain ⟨y, hy, h⟩ := Option.map_eq_some_iff.mp h
      cases h
      have inside := walks_subset_items site c (i := 0) hy
      rw [Nat.zero_add] at inside
      exact List.subset_cons_of_subset _ inside
  | object ms =>
      obtain ⟨y, hy, h⟩ := Option.map_eq_some_iff.mp h
      cases h
      exact List.subset_cons_of_subset _ (walks_subset_members (Entries.mem_of_lookup hy))
  | _ => cases h

/-- Where a pointer leads is a part of the value. -/
theorem mem_walks_of_follow {pointer : String} {site : Site} {c : Context} {v : Json}
    {tokens : List (List Char)} {s : Subschema} (h : follow pointer site c v tokens = .ok s) :
    s ∈ walks site c v := by
  induction tokens generalizing site c v with
  | nil => exact Except.ok.inj h ▸ mem_walks_self site c v
  | cons token rest ih =>
      rw [follow.eq_def] at h
      dsimp only at h
      split at h
      · next hs => exact walks_subset_of_step? hs (ih h)
      · split at h <;> cases h
      · cases h

/-! ## Resources and anchors -/

/-- A resource is the document or a schema in it. -/
theorem mem_of_resource? {root s : Subschema} {uri : Uri} (h : root.resource? uri = some s) :
    s ∈ root :: root.schemas := by
  rw [Subschema.resource?] at h
  cases hf : root.schemas.reverse.find? fun s =>
      decide (s.context.base = uri) && s.isResource with
  | some found =>
      rw [hf] at h
      obtain rfl := Option.some.inj h
      exact List.mem_cons_of_mem _ (List.mem_reverse.mp (List.mem_of_find?_eq_some hf))
  | none =>
      rw [hf] at h
      obtain ⟨-, h⟩ := Option.ite_none_right_eq_some.mp h
      obtain rfl := Option.some.inj h
      exact List.mem_cons_self

theorem mem_of_anchored? {root s : Subschema} {base : Uri} {anchor : String}
    (h : root.anchored? base anchor = some s) : s ∈ root.schemas :=
  List.mem_reverse.mp (List.mem_of_find?_eq_some h)

theorem mem_targets {root s : Subschema} (h : s ∈ root :: root.schemas) {target : Subschema}
    (ht : target ∈ walks .schema s.context s.document) : target ∈ targets root :=
  List.mem_flatMap.mpr ⟨s, h, ht⟩

/-- Whatever is located in a known resource is among the targets. -/
theorem mem_targets_of_locate {root resource s : Subschema} {uri : Uri} {fragment : List Char}
    (known : resource ∈ root :: root.schemas) (h : locate root resource uri fragment = .ok s) :
    s ∈ targets root := by
  rw [locate.eq_def] at h
  split at h
  · exact mem_targets known (Except.ok.inj h ▸ mem_walks_self _ _ _)
  · dsimp only at h
    split at h
    · exact mem_targets known (mem_walks_of_follow h)
    · cases h
  · dsimp only at h
    split at h
    · next found =>
        refine mem_targets (List.mem_cons_of_mem _ (mem_of_anchored? found)) ?_
        exact Except.ok.inj h ▸ mem_walks_self _ _ _
    · cases h

/-- What a reference names is one of the targets in the document. -/
theorem mem_targets_of_resolve {root s : Subschema} {r : Reference} (h : resolve root r = .ok s) :
    s ∈ targets root := by
  rw [resolve] at h
  split at h
  · cases h
  · next found => exact mem_targets_of_locate (mem_of_resource? found) h
  · cases h

/-- The references in a target are listed among those that can be reached. -/
theorem mem_reachable {root s : Subschema} (h : s ∈ root :: targets root) {r : Reference}
    (hr : s.read.RefersTo r) : r ∈ reachable root :=
  List.mem_flatMap.mpr ⟨s, h, List.mem_filterMap.mpr ⟨.reference r, hr, rfl⟩⟩

end Reference

end SliceContract
