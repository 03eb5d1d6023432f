import SliceContract.Proofs.Yaml.Tour

/-!
# Tags are dropped

A conversion has the same result with and without the tags of nodes, and reports each tag that it
comes across. The main statement is `toJson_untag`.
-/

namespace SliceContract

namespace Yaml

/-- A tree without the tags of its nodes. Keys are left as they are. -/
def untag : Yaml → Yaml
  | .sequence xs => .sequence (items xs)
  | .mapping ms => .mapping (entries ms)
  | .tagged _ x => untag x
  | .null => .null
  | .bool b => .bool b
  | .number n => .number n
  | .string s => .string s
where
  items : List Yaml → List Yaml
    | [] => []
    | x :: rest => untag x :: items rest
  entries : List (Yaml × Yaml) → List (Yaml × Yaml)
    | [] => []
    | (key, x) :: rest => (key, untag x) :: entries rest

theorem untag_items (xs : List Yaml) : untag.items xs = xs.map untag := by
  induction xs with
  | nil => rfl
  | cons x rest ih => rw [untag.items, ih, List.map_cons]

theorem untag_entries (ms : List (Yaml × Yaml)) :
    untag.entries ms = ms.map fun e => (e.1, e.2.untag) := by
  induction ms with
  | nil => rfl
  | cons e rest ih => rw [untag.entries, ih, List.map_cons]

/-! ## No tags are left -/

/-- No way leads to a tag after the tags are taken off. -/
theorem not_leads_tagged (tree : Yaml) (way : Way) (tag : String) (x : Yaml) :
    ¬ tree.untag.Leads way (.node (.tagged tag x)) := by
  intro leads
  induction tree using induction generalizing way with
  | null | bool | number | string => rw [untag] at leads; cases leads
  | sequence xs ih =>
      rw [untag, untag_items] at leads
      cases leads with
      | element at? inner =>
          rw [List.getElem?_map] at at?
          obtain ⟨y, found, rfl⟩ := Option.map_eq_some_iff.mp at?
          exact ih y (List.mem_of_getElem? found) _ inner
  | mapping ms _ ih =>
      rw [untag, untag_entries] at leads
      cases leads with
      | value at? inner =>
          rw [List.getElem?_map] at at?
          obtain ⟨e, found, rfl⟩ := Option.map_eq_some_iff.mp at?
          exact ih e (List.mem_of_getElem? found) _ inner
  | tagged _ y ih =>
      rw [untag] at leads
      exact ih way leads

/-! ## The same result -/

theorem result_items_congr {f : Yaml → Yaml} {xs : List Yaml}
    (h : ∀ x ∈ xs, ∀ keys, (toJson keys (f x)).result = (toJson keys x).result)
    (keys : Keys) (i : ℕ) :
    (toJson.items keys i (xs.map f)).result = (toJson.items keys i xs).result := by
  induction xs generalizing i with
  | nil => rfl
  | cons x rest ih =>
      obtain ⟨first, others⟩ := List.forall_mem_cons.mp h
      rw [List.map_cons, toJson.items, toJson.items, Converted.result_bind, Converted.result_bind,
        first]
      congr 1
      funext v
      rw [Converted.result_bind, Converted.result_bind, ih others]

theorem result_members_congr {f : Yaml → Yaml} {ms : List (Yaml × Yaml)}
    (h : ∀ e ∈ ms, ∀ keys, (toJson keys (f e.2)).result = (toJson keys e.2).result)
    (keys : Keys) :
    (toJson.members keys (ms.map fun e => (e.1, f e.2))).result =
      (toJson.members keys ms).result := by
  induction ms with
  | nil => rfl
  | cons e rest ih =>
      obtain ⟨first, others⟩ := List.forall_mem_cons.mp h
      rw [List.map_cons, toJson.members, toJson.members]
      cases keyText? e.1 with
      | none => rfl
      | some text =>
          simp only [Converted.result_bind]
          rw [first]
          congr 1
          funext v
          rw [ih others]

/-- Taking off the tags of values does not change the result. -/
theorem result_untag (keys : Keys) (tree : Yaml) :
    (toJson keys tree.untag).result = (toJson keys tree).result := by
  induction tree using induction generalizing keys with
  | null | bool | number | string => rw [untag]
  | sequence xs ih =>
      rw [untag, untag_items, toJson, toJson, Converted.result_bind, Converted.result_bind,
        result_items_congr fun x hx keys => ih x hx keys]
  | mapping ms _ ih =>
      rw [untag, untag_entries, toJson, toJson, Converted.result_bind, Converted.result_bind,
        result_members_congr fun e he keys => ih e he keys]
  | tagged tag x ih =>
      rw [untag, ih, toJson, Converted.result_bind]
      rfl

/-! ## The tags that are reported -/

/-- A tag is reported at every tag that is passed. -/
theorem isSome_dropped?_iff {keys : Keys} {tree : Yaml} {way : Way} (h : way ∈ tree.cleared) :
    (dropped? keys tree way).isSome ↔ (tree.tag? way).isSome := by
  obtain ⟨l, place⟩ := exists_location?_of_mem_cleared h
  rw [dropped?, place]
  cases tree.tag? way <;> simp

/-- A conversion succeeds if and only if it comes to the end of every way. -/
theorem toJson_ok_iff_met (keys : Keys) (tree : Yaml) :
    (∃ v, (toJson keys tree).result = .ok v) ↔ ∀ way, tree.Met way := by
  rcases toJson_cases keys tree with ⟨v, clear, result⟩ | ⟨first, o, l, offence, -, result⟩
  · rw [result]
    refine iff_of_true ⟨v, rfl⟩ fun way other o h => ?_
    cases (clear other).symm.trans h.offends
  · rw [result]
    refine iff_of_false nofun fun met => ?_
    exact absurd rfl (met first first o offence).ne

/-- Tags do not matter for the result of a conversion. Those that are come across before anything
offends, which are all of them if nothing does, are reported, each once and in document order. -/
theorem toJson_untag (keys : Keys) (tree : Yaml) :
    (∀ way, tree.untag.tag? way = none) ∧
      (toJson keys tree.untag).result = (toJson keys tree).result ∧
      ((∃ v, (toJson keys tree).result = .ok v) ↔ ∀ way, tree.Met way) ∧
      ∃ tags : List Way, tags.Pairwise Way.Before ∧
        (∀ way, way ∈ tags ↔ (tree.tag? way).isSome ∧ tree.Met way) ∧
        (toJson keys tree).dropped.map some = tags.map (dropped? keys tree) := by
  refine ⟨fun way => ?_, result_untag keys tree, toJson_ok_iff_met keys tree,
    tree.cleared.filter fun way => (dropped? keys tree way).isSome, ?_, fun way => ?_, ?_⟩
  · rw [Option.eq_none_iff_forall_ne_some]
    intro tag tagged
    obtain ⟨x, leads⟩ := tag?_eq_some_iff.mp tagged
    exact not_leads_tagged tree way tag x leads
  · exact (pairwise_cleared tree).sublist List.filter_sublist
  · rw [List.mem_filter]
    constructor
    · rintro ⟨mem, dropped⟩
      exact ⟨(isSome_dropped?_iff mem).mp dropped, (mem_cleared_iff.mp mem).2⟩
    · rintro ⟨tagged, met⟩
      obtain ⟨tag, tagged'⟩ := Option.isSome_iff_exists.mp tagged
      obtain ⟨x, leads⟩ := tag?_eq_some_iff.mp tagged'
      have mem := mem_cleared_iff.mpr ⟨⟨_, site?_eq_some_iff.mpr leads⟩, met⟩
      exact ⟨mem, (isSome_dropped?_iff mem).mpr tagged⟩
  · rw [dropped_toJson, List.map_filterMap_some_eq_filter_map_isSome, List.filter_map]
    rfl

end Yaml

end SliceContract
