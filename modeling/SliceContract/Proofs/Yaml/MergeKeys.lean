import SliceContract.Proofs.Answers
import SliceContract.Proofs.Json.Places
import SliceContract.Proofs.Yaml.Merging
import SliceContract.Proofs.Yaml.Reading

/-!
# Merge keys that are left

Merging goes through a document once. A merge key that comes in with a merged mapping is not
resolved, and stays in the document as a member. The main statement is
`validateYaml_noMergeKey_iff`.
-/

namespace SliceContract

namespace Yaml

open Merge

/-! ## Parts that are kept -/

/-- Whether the value of a tree keeps the value of a node. Merged entries count as entries, and of
entries whose keys have one text the last is kept. -/
inductive Keeps : Yaml → Yaml → Prop where
  | self (x : Yaml) : Keeps x x
  | element {xs : List Yaml} {x y : Yaml} (mem : x ∈ xs) : Keeps x y → Keeps (sequence xs) y
  | value {ms before after : List (Yaml × Yaml)} {e : Yaml × Yaml} {y : Yaml}
      (split : merged ms = before ++ e :: after)
      (last : ∀ later ∈ after, keyText? later.1 ≠ keyText? e.1) : Keeps e.2 y → Keeps (mapping ms) y
  | untagged {tag : String} {x y : Yaml} : Keeps x y → Keeps (tagged tag x) y

theorem Keeps.trans {x y z : Yaml} (hxy : x.Keeps y) (hyz : y.Keeps z) : x.Keeps z := by
  induction hxy with
  | self => exact hyz
  | element mem _ ih => exact .element mem (ih hyz)
  | value split last _ ih => exact .value split last (ih hyz)
  | untagged _ ih => exact .untagged (ih hyz)

/-- What a collection was loaded from, behind its tags. -/
theorem collection_of_loads {tree : Yaml} {v : Json} (h : tree.Loads v) :
    (∀ vs, v = .array vs → ∃ xs, tree.Keeps (sequence xs) ∧ (sequence xs).Loads v) ∧
      ∀ os, v = .object os → ∃ ms, tree.Keeps (mapping ms) ∧ (mapping ms).Loads v := by
  induction tree using induction with
  | null | bool | string =>
      obtain ⟨r, hr, keys, hv⟩ := h
      rw [resolveMerges] at hr
      cases hr
      cases hv
      simp
  | number n =>
      obtain ⟨r, hr, becomes⟩ := h
      rw [resolveMerges] at hr
      cases hr
      obtain ⟨m, rfl⟩ := Number.exists_of_toJson? becomes.number
      simp
  | sequence xs _ =>
      obtain ⟨vs, rfl, -⟩ := h.sequence
      exact ⟨fun _ _ => ⟨xs, .self _, h⟩, by simp⟩
  | mapping ms _ _ =>
      obtain ⟨ps, rfl, -⟩ := h.mapping
      exact ⟨by simp, fun _ _ => ⟨ms, .self _, h⟩⟩
  | tagged tag x ih =>
      obtain ⟨arrays, objects⟩ := ih h.tagged
      exact ⟨fun vs hv => (arrays vs hv).imp fun _ found => ⟨.untagged found.1, found.2⟩,
        fun os hv => (objects os hv).imp fun _ found => ⟨.untagged found.1, found.2⟩⟩

/-- A member of an object was loaded from the value of the last entry that has its key's text. -/
theorem exists_keeps_of_lookup {tree : Yaml} {os : Entries Json} {key : String} {u : Json}
    (h : tree.Loads (.object os)) (found : os.lookup key = some u) :
    ∃ x, tree.Keeps x ∧ x.Loads u := by
  obtain ⟨ms, kept, loads⟩ := (collection_of_loads h).2 os rfl
  obtain ⟨ps, same, parts⟩ := loads.mapping
  cases same
  obtain ⟨before, after, rfl, last⟩ := Entries.lookup_ofList_eq_some_iff.mp found
  obtain ⟨before', e, after', split, entry, others⟩ := forall₂_append_cons parts
  refine ⟨e.2, kept.trans (.value split (fun later hlater same => ?_) (.self _)), entry.2⟩
  obtain ⟨p, hp, text, -⟩ := exists_mem_of_forall₂ others hlater
  rw [text, entry.1] at same
  exact last p hp (Option.some.inj same)

/-- An element of a loaded array comes from a kept part. -/
theorem exists_keeps_of_getElem? {tree : Yaml} {vs : List Json} {i : ℕ} {u : Json}
    (h : tree.Loads (.array vs)) (found : vs[i]? = some u) : ∃ x, tree.Keeps x ∧ x.Loads u := by
  obtain ⟨xs, kept, loads⟩ := (collection_of_loads h).1 vs rfl
  obtain ⟨vs, same, parts⟩ := loads.sequence
  cases same
  obtain ⟨x, hx, loaded⟩ := exists_mem_of_forall₂ parts.flip (List.mem_of_getElem? found)
  exact ⟨x, kept.trans (.element hx (.self _)), loaded⟩

/-- At every place of a value is the value of a node that is kept. -/
theorem exists_keeps_of_at? {tree : Yaml} {v w : Json} {place : Location} (h : tree.Loads v)
    (found : v.at? place = some w) : ∃ y, tree.Keeps y ∧ y.Loads w := by
  induction place generalizing tree v with
  | nil =>
      cases found
      exact ⟨tree, .self _, h⟩
  | cons step rest ih =>
      have inner : ∃ u, (∃ x, tree.Keeps x ∧ x.Loads u) ∧ u.at? rest = some w := by
        cases step with
        | member key =>
            cases v with
            | object os =>
                rw [Json.at?_member] at found
                obtain ⟨u, hu, further⟩ := Option.bind_eq_some_iff.mp found
                exact ⟨u, exists_keeps_of_lookup h hu, further⟩
            | _ => cases found
        | element i =>
            cases v with
            | array vs =>
                rw [Json.at?_element] at found
                obtain ⟨u, hu, further⟩ := Option.bind_eq_some_iff.mp found
                exact ⟨u, exists_keeps_of_getElem? h hu, further⟩
            | _ => cases found
      obtain ⟨u, ⟨x, kept, loaded⟩, further⟩ := inner
      obtain ⟨y, keeps, hy⟩ := ih loaded further
      exact ⟨y, kept.trans keeps, hy⟩

/-- The value of a node that is kept is at some place. -/
theorem exists_at?_of_keeps {tree y : Yaml} {v : Json} (kept : tree.Keeps y) (h : tree.Loads v) :
    ∃ place w, v.at? place = some w ∧ y.Loads w := by
  induction kept generalizing v with
  | self x => exact ⟨[], v, Json.at?_nil v, h⟩
  | element mem _ ih =>
      obtain ⟨vs, rfl, parts⟩ := h.sequence
      obtain ⟨u, hu, loaded⟩ := exists_mem_of_forall₂ parts mem
      obtain ⟨i, hi⟩ := List.mem_iff_getElem?.mp hu
      obtain ⟨place, w, found, hw⟩ := ih loaded
      exact ⟨.element i :: place, w, by rw [Json.at?_element, hi]; exact found, hw⟩
  | value split last _ ih =>
      obtain ⟨ps, rfl, parts⟩ := h.mapping
      rw [split] at parts
      obtain ⟨before, p, after, rfl, entry, others⟩ := forall₂_append_cons parts.flip
      obtain ⟨place, w, found, hw⟩ := ih entry.2
      have hp : (Entries.ofList (before ++ p :: after)).lookup p.1 = some p.2 := by
        refine Entries.lookup_ofList_eq_some_iff.mpr ⟨before, after, rfl, fun q hq same => ?_⟩
        obtain ⟨later, hlater, key, -⟩ := exists_mem_of_forall₂ others hq
        exact last later hlater (by rw [key, entry.1, same])
      exact ⟨.member p.1 :: place, w, by rw [Json.at?_member, hp]; exact found, hw⟩
  | untagged _ ih => exact ih h.tagged

/-- What is kept is a part. -/
theorem Keeps.hasPart {tree y : Yaml} (h : tree.Keeps y) : tree.HasPart y := by
  induction h with
  | self x => exact .self x
  | element mem _ ih => exact .element mem ih
  | @value ms before after e y split _ _ ih =>
      exact (hasPart_of_mem_merged (by simp [split])).trans ih
  | untagged _ ih => exact .untagged ih

/-! ## Merge keys -/

/-- Whether no mapping that is merged into another has a merge key. -/
def SourcesPlain (ms : List (Yaml × Yaml)) : Prop :=
  ∀ source ∈ sources ms, ∀ e ∈ source, ¬ isMergeKey e.1

/-- Only the merge key has its text. -/
theorem keyText?_eq_mergeKey {key : Yaml} : keyText? key = some "<<" ↔ isMergeKey key := by
  constructor
  · intro h
    rcases keyText?_eq_some h with rfl | ⟨n, rfl, text⟩ | ⟨b, rfl, text⟩
    · rfl
    · obtain ⟨c, hc, first⟩ := n.lead_text
      rw [text] at hc
      cases hc
      exact absurd first (by decide)
    · exact absurd text (by cases b <;> decide)
  · intro h
    cases key with
    | string s => rw [keyText?, of_decide_eq_true h]
    | _ => cases h

/-- No object of a value has the merge key as a member if and only if no mapping that was merged
had one. -/
theorem noMergeKey_iff {tree : Yaml} {v : Json} (h : tree.Loads v)
    (keys : tree.EveryMapping ProperKeys) :
    (∀ place, v.at? (place ++ [.member "<<"]) = none) ↔
      ∀ ms, tree.Keeps (mapping ms) → SourcesPlain ms := by
  have members {ms : List (Yaml × Yaml)} (kept : tree.Keeps (mapping ms)) {w : Json}
      (hw : (mapping ms).Loads w) : w.at? [.member "<<"] = none ↔ SourcesPlain ms := by
    obtain ⟨ps, rfl, parts⟩ := hw.mapping
    have absent : (Entries.ofList ps).lookup "<<" = none ↔ ¬ ∃ e ∈ merged ms, isMergeKey e.1 := by
      rw [Entries.lookup_ofList, List.lookup_eq_none_iff]
      constructor
      · rintro none ⟨e, he, key⟩
        obtain ⟨p, hp, text, -⟩ := exists_mem_of_forall₂ parts he
        rw [keyText?_eq_mergeKey.mpr key] at text
        exact bne_iff_ne.mp (none p (List.mem_reverse.mpr hp)) (Option.some.inj text)
      · intro none p hp
        obtain ⟨e, he, text, -⟩ := exists_mem_of_forall₂ parts.flip (List.mem_reverse.mp hp)
        exact bne_iff_ne.mpr fun same => none ⟨e, he, keyText?_eq_mergeKey.mp (same ▸ text)⟩
    have distinct := (keys ms kept.hasPart).distinct
    rw [Json.at?_member, Option.bind_eq_none_iff]
    simp only [Json.at?_nil, reduceCtorEq, imp_false]
    rw [← Option.eq_none_iff_forall_ne_some, absent, exists_mergeKey_iff distinct, SourcesPlain]
    push Not
    rfl
  constructor
  · intro none ms kept
    obtain ⟨place, w, found, hw⟩ := exists_at?_of_keeps kept h
    have := none place
    rw [Json.at?_append, found] at this
    exact (members kept hw).mp this
  · intro plain place
    rw [Json.at?_append, Option.bind_eq_none_iff]
    intro w found
    obtain ⟨y, kept, hy⟩ := exists_keeps_of_at? h found
    cases w with
    | object os =>
        obtain ⟨ms, inner, hms⟩ := (collection_of_loads hy).2 os rfl
        exact (members (kept.trans inner) hms).mpr (plain ms (kept.trans inner))
    | _ => rfl

end Yaml

/-! ## Documents -/

/-- A loaded text has all the entries of the tree that is left after merging if and only if no key
in that tree that is text spells a key of another kind. The keys of a text are proper, whatever it
is. -/
theorem heldIn_iff_of_loadsYaml {text : String} {v : Json} (h : Loading.LoadsYaml text v) :
    ∃ resolved, (Yaml.toJson [] resolved).result = .ok v ∧
      (resolved.HeldIn v ↔ resolved.EveryMapping Yaml.NoneSpelled) := by
  obtain ⟨tree, resolved, read, merge, converted⟩ := h
  have becomes : resolved.Becomes v := ⟨[], converted⟩
  exact ⟨resolved, converted, becomes.heldIn_iff (Yaml.everyMapping_properKeys_resolved merge
    (Yaml.everyMapping_properKeys_ofText read) becomes.texts)⟩

/-- A YAML document that is accepted has no merge key left if and only if no mapping that was
merged had one. -/
theorem validateYaml_noMergeKey_iff {w : Validator} {text : String} {v : Json}
    (h : (w.validateYaml text).2 = some (.ok v)) :
    ∃ tree, Yaml.ofText text.toList = .ok tree ∧
      ((∀ place, v.at? (place ++ [.member "<<"]) = none) ↔
        ∀ ms, tree.Keeps (.mapping ms) → Yaml.SourcesPlain ms) := by
  have answers : w.AnswersLoaded .yaml (Loading.LoadsYaml text) (w.validateYaml text).2 :=
    Validator.answersLoaded (fun _ => Loading.fromYaml_ok_iff) fun _ => Loading.format_of_fromYaml
  obtain ⟨tree, resolved, read, merge, becomes⟩ := ((answers.accepted v).mp h).1
  exact ⟨tree, read, Yaml.noMergeKey_iff ⟨resolved, merge, [], becomes⟩
    (Yaml.everyMapping_properKeys_ofText read)⟩

/-- A list of three mappings; the second merges the first and the third the second. -/
def chainedMerges : String := "- &a {x: 1}\n- &b {<<: *a, y: 2}\n- {<<: *b, z: 3}\n"

/-- The merge key of the second mapping comes into the third one and stays. -/
def chainedMerged : Json :=
  .array [.object [("x", .number (.int 1))],
    .object [("x", .number (.int 1)), ("y", .number (.int 2))],
    .object [("<<", .object [("x", .number (.int 1))]), ("y", .number (.int 2)),
      ("z", .number (.int 3))]]

/-- Every document conforms. -/
def Validator.any : Validator := ⟨⟨Schema.any.document, .standard⟩⟩

/-- The merged mapping keeps the merge key of its source. -/
theorem validateYaml_chainedMerges :
    (Validator.any.validateYaml chainedMerges).2 = some (.ok chainedMerged) := by
  have answer : (Validator.any.validateYaml chainedMerges).2.bind Except.toOption =
      some chainedMerged := by
    decide +kernel
  obtain ⟨result, accepted, same⟩ := Option.bind_eq_some_iff.mp answer
  cases result with
  | error e => cases same
  | ok v => rw [accepted, Option.some.inj same]

theorem at?_chainedMerged : chainedMerged.at? ([.element 2] ++ [.member "<<"]) =
    some (.object [("x", .number (.int 1))]) := by
  decide +kernel

theorem not_sourcesPlain_chainedMerges : ∃ tree ms, Yaml.ofText chainedMerges.toList = .ok tree ∧
    tree.Keeps (.mapping ms) ∧ ¬ Yaml.SourcesPlain ms := by
  obtain ⟨tree, read, plain⟩ := validateYaml_noMergeKey_iff validateYaml_chainedMerges
  have unplain : ¬ ∀ ms, tree.Keeps (.mapping ms) → Yaml.SourcesPlain ms := by
    intro all
    cases at?_chainedMerged.symm.trans (plain.mpr all [.element 2])
  push Not at unplain
  obtain ⟨ms, kept, not⟩ := unplain
  exact ⟨tree, ms, read, kept, not⟩

/-- Not every merge key is resolved. -/
theorem exists_mergeKey_chainedMerges :
    ¬ ∀ v, (Validator.any.validateYaml chainedMerges).2 = some (.ok v) →
      ∀ place, v.at? (place ++ [.member "<<"]) = none := by
  intro none
  cases at?_chainedMerged.symm.trans (none _ validateYaml_chainedMerges [.element 2])

end SliceContract
