import SliceContract.Proofs.JsonSchema.Deciding
import SliceContract.Proofs.JsonSchema.Following
import SliceContract.Proofs.JsonSchema.Resolution

/-!
# What references lead to

Which references a schema in a document leads to when they are followed. The main statements are
`build_iff_leads`: a document compiles exactly when its draft and every schema that it leads to
raise no objection; and `judge_answer_congr`: two documents in which the references that a schema
leads to name the same schemas give that schema the same judge.
-/

namespace SliceContract

open JsonSchema

/-- Whether no part of the schema is unfit. -/
def JsonSchema.Fit (s : JsonSchema) : Prop := ∀ o, .objection o ∉ s.demands

namespace Compiled

/-- The schema that a reference names in the document, if it names one. -/
def resolved (c : Compiled) (r : Reference) : Except Reference.Error Subschema :=
  Reference.resolve c.root r

/-- Whether a reference names a fit schema. -/
def Leads (c : Compiled) (r : Reference) : Prop := ∃ s, c.resolved r = .ok s ∧ s.read.Fit

/-- The references that a schema leads to. -/
inductive Reaches (c : Compiled) (start : JsonSchema) : Reference → Prop where
  | direct {r : Reference} (h : start.RefersTo r) : Reaches c start r
  | onward {r next : Reference} {s : Subschema} (before : Reaches c start r)
      (resolves : c.resolved r = .ok s) (h : s.read.RefersTo next) : Reaches c start next

/-! ## Meeting demands -/

/-- References that are each taken once from those of the document. -/
structure Listed (c : Compiled) (seen : List Reference) : Prop where
  nodup : seen.Nodup
  subset : seen ⊆ Reference.reachable c.root

/-- What meeting demands has achieved when the seen references have grown. -/
structure Met (c : Compiled) (seen : List Reference) (demands : List Demand)
    (seen' : List Reference) : Prop where
  listed : c.Listed seen'
  kept : seen ⊆ seen'
  fit : ∀ o, .objection o ∉ demands
  named : ∀ r, .reference r ∈ demands → r ∈ seen'
  followed : ∀ r ∈ seen', r ∉ seen →
    ∃ s, c.resolved r = .ok s ∧ s.read.Fit ∧ ∀ next, s.read.RefersTo next → next ∈ seen'

section Meeting

variable {c : Compiled}

/-- No more references can be seen than stand in the document. -/
theorem Listed.length_le {seen : List Reference} (h : c.Listed seen) :
    seen.length ≤ (Reference.reachable c.root).length :=
  List.Nodup.length_le_of_subset h.nodup h.subset

theorem Met.nil {seen : List Reference} (h : c.Listed seen) : c.Met seen [] seen where
  listed := h
  kept := List.Subset.refl seen
  fit _ ho := by cases ho
  named _ hr := by cases hr
  followed _ hr hn := absurd hr hn

/-- A reference that has been seen is met without following it. -/
theorem Met.again {seen : List Reference} {r : Reference} (h : c.Listed seen) (hs : r ∈ seen) :
    c.Met seen [.reference r] seen where
  listed := h
  kept := List.Subset.refl seen
  fit _ ho := by cases List.mem_singleton.mp ho
  named _ hr := by
    cases List.mem_singleton.mp hr
    exact hs
  followed _ hr hn := absurd hr hn

theorem Met.cons {seen seen' seen'' : List Reference} {d : Demand} {rest : List Demand}
    (first : c.Met seen [d] seen') (others : c.Met seen' rest seen'') :
    c.Met seen (d :: rest) seen'' where
  listed := others.listed
  kept := List.Subset.trans first.kept others.kept
  fit o ho := by
    rcases List.mem_cons.mp ho with rfl | ho
    · exact first.fit o List.mem_cons_self
    · exact others.fit o ho
  named r hr := by
    rcases List.mem_cons.mp hr with rfl | hr
    · exact others.kept (first.named r List.mem_cons_self)
    · exact others.named r hr
  followed r hr hn := by
    by_cases hs : r ∈ seen'
    · obtain ⟨s, resolves, fit, next⟩ := first.followed r hs hn
      exact ⟨s, resolves, fit, fun r h => others.kept (next r h)⟩
    · exact others.followed r hr hs

/-- Following a new reference adds it to those that are seen on the way. -/
theorem Met.follow {seen seen' : List Reference} {r : Reference} {s : Subschema}
    (resolves : c.resolved r = .ok s) (h : c.Met (r :: seen) s.read.demands seen') :
    c.Met seen [.reference r] seen' where
  listed := h.listed
  kept := fun next hn => h.kept (List.mem_cons_of_mem _ hn)
  fit _ ho := by cases List.mem_singleton.mp ho
  named next hn := by
    cases List.mem_singleton.mp hn
    exact h.kept List.mem_cons_self
  followed next hn unseen := by
    by_cases he : next = r
    · subst he
      exact ⟨s, resolves, h.fit, h.named⟩
    · exact h.followed next hn fun hm => (List.mem_cons.mp hm).elim he unseen

/-- What meeting one demand achieves, when `within` says what meeting those of a schema does. -/
theorem Met.of_meet {fuel : Nat} {seen seen' : List Reference} {d : Demand} (listed : c.Listed seen)
    (known : ∀ r, d = .reference r → r ∈ Reference.reachable c.root)
    (within : ∀ {seen seen' : List Reference} {ds : List Demand}, c.Listed seen →
      (Reference.reachable c.root).length < fuel + seen.length →
      (∀ r, .reference r ∈ ds → r ∈ Reference.reachable c.root) →
      meetAll c.root fuel seen ds = .ok seen' → c.Met seen ds seen')
    (enough : (Reference.reachable c.root).length < fuel + 1 + seen.length)
    (h : meet c.root (meetAll c.root fuel) seen d = .ok seen') : c.Met seen [d] seen' := by
  cases d with
  | objection o => cases h
  | reference r =>
      rw [meet] at h
      by_cases hs : seen.contains r
      · rw [if_pos hs, Except.ok.injEq] at h
        subst h
        exact .again listed (List.contains_iff_mem.mp hs)
      · rw [if_neg hs] at h
        split at h
        · next s resolves =>
            have fresh : r ∉ seen := fun hm => hs (List.contains_iff_mem.mpr hm)
            have target := List.mem_cons_of_mem c.root (Reference.mem_targets_of_resolve resolves)
            -- The step of fuel that is spent is made up for by the reference that is new.
            refine .follow resolves (within ?_ ?_ ?_ h)
            · exact ⟨List.nodup_cons.mpr ⟨fresh, listed.nodup⟩,
                List.cons_subset.mpr ⟨known r rfl, listed.subset⟩⟩
            · rw [List.length_cons]
              omega
            · exact fun next hn => Reference.mem_reachable target hn
        · cases h

/-- With more fuel than there are references left, demands that are met are met in full. -/
theorem met_of_meetAll {fuel : Nat} {seen seen' : List Reference} {ds : List Demand}
    (listed : c.Listed seen) (enough : (Reference.reachable c.root).length < fuel + seen.length)
    (known : ∀ r, .reference r ∈ ds → r ∈ Reference.reachable c.root)
    (h : meetAll c.root fuel seen ds = .ok seen') : c.Met seen ds seen' := by
  induction fuel generalizing seen ds seen' with
  | zero =>
      -- As many references as the document has would have been seen, and one more.
      have := listed.length_le
      omega
  | succ fuel ih =>
      rw [meetAll] at h
      induction ds generalizing seen with
      | nil =>
          cases h
          exact .nil listed
      | cons d rest ihRest =>
          rw [List.foldlM_cons] at h
          cases hd : meet c.root (meetAll c.root fuel) seen d with
          | error e => rw [hd] at h; cases h
          | ok between =>
              rw [hd] at h
              have first : c.Met seen [d] between := by
                refine .of_meet listed (fun r hr => ?_) ih enough hd
                exact known r (hr ▸ List.mem_cons_self)
              have grown := List.Nodup.length_le_of_subset listed.nodup first.kept
              refine first.cons (ihRest first.listed (by omega) (fun r hr => ?_) h)
              exact known r (List.mem_cons_of_mem _ hr)

/-- Demands are met when everything that they lead to is fit; `led` holds of all that. -/
theorem exists_meetAll {led : Reference → Prop} (leads : ∀ r, led r → c.Leads r)
    (onward : ∀ r s next, led r → c.resolved r = .ok s → s.read.RefersTo next → led next)
    (fuel : Nat) (seen : List Reference) {ds : List Demand} (fit : ∀ o, .objection o ∉ ds)
    (named : ∀ r, .reference r ∈ ds → led r) :
    ∃ seen', meetAll c.root fuel seen ds = .ok seen' := by
  induction fuel generalizing seen ds with
  | zero => exact ⟨seen, rfl⟩
  | succ fuel ih =>
      rw [meetAll]
      induction ds generalizing seen with
      | nil => exact ⟨seen, rfl⟩
      | cons d rest ihRest =>
          have first : ∃ seen', meet c.root (meetAll c.root fuel) seen d = .ok seen' := by
            cases d with
            | objection o => exact absurd List.mem_cons_self (fit o)
            | reference r =>
                have hled := named r List.mem_cons_self
                obtain ⟨s, resolves, targetFit⟩ := leads r hled
                rw [resolved] at resolves
                rw [meet, resolves]
                split
                · exact ⟨seen, rfl⟩
                · exact ih _ targetFit fun next hn => onward r s next hled resolves hn
          obtain ⟨between, hs⟩ := first
          rw [List.foldlM_cons, hs]
          refine ihRest between (fun o ho => ?_) fun r hr => ?_
          · exact fit o (List.mem_cons_of_mem _ ho)
          · exact named r (List.mem_cons_of_mem _ hr)

/-- A document is fit with all that it leads to exactly when its demands can be met. -/
theorem exists_meetAll_iff (c : Compiled) :
    (∃ seen, meetAll c.root ((Reference.reachable c.root).length + 1) [] c.root.read.demands =
        .ok seen) ↔
      c.root.read.Fit ∧ ∀ r, c.Reaches c.root.read r → c.Leads r := by
  constructor
  · rintro ⟨seen, h⟩
    have known : ∀ r, c.root.read.RefersTo r → r ∈ Reference.reachable c.root := fun r hr =>
      Reference.mem_reachable List.mem_cons_self hr
    have met := met_of_meetAll (c := c) ⟨List.nodup_nil, List.nil_subset _⟩ (by simp) known h
    have reached : ∀ r, c.Reaches c.root.read r → r ∈ seen := by
      intro r hr
      induction hr with
      | direct h => exact met.named _ h
      | onward _ resolves h ih =>
          obtain ⟨s, resolves', -, next⟩ := met.followed _ ih List.not_mem_nil
          cases resolves.symm.trans resolves'
          exact next _ h
    refine ⟨met.fit, fun r hr => ?_⟩
    obtain ⟨s, resolves, fit, -⟩ := met.followed _ (reached _ hr) List.not_mem_nil
    exact ⟨s, resolves, fit⟩
  · rintro ⟨fit, leads⟩
    exact exists_meetAll leads (fun _ _ _ => .onward) _ _ fit fun _ => .direct

end Meeting

/-- What is compiled is the document, unchanged. -/
theorem eq_of_build {document : Json} {o : Options} {c : Compiled}
    (h : build document o = .ok c) : c = ⟨document, o⟩ := by
  rw [build] at h
  split at h
  · cases h
  · split at h
    · exact (Except.ok.inj h).symm
    · cases h

/-- A document compiles exactly when its draft does not object to it, it is fit, and every reference
that it leads to names a fit schema. -/
theorem build_iff_leads (c : Compiled) :
    build c.document c.options = .ok c ↔
      Metaschema.objection? c.options.draft c.document = none ∧
        c.root.read.Fit ∧ ∀ r, c.Reaches c.root.read r → c.Leads r := by
  rw [← exists_meetAll_iff, build]
  cases Metaschema.objection? c.options.draft c.document with
  | some e => simp
  | none =>
      cases hm : meetAll c.root ((Reference.reachable c.root).length + 1) []
          c.root.read.demands with
      | ok seen => simp
      | error e => simp

/-! ## What is reached -/

/-- More is reached from where more is referred to. -/
theorem Reaches.mono {c : Compiled} {start start' : JsonSchema}
    (h : ∀ r, start.RefersTo r → start'.RefersTo r) {r : Reference}
    (reached : c.Reaches start r) : c.Reaches start' r := by
  induction reached with
  | direct h' => exact .direct (h _ h')
  | onward _ resolves h' ih => exact .onward ih resolves h'

theorem not_reaches {c : Compiled} {start : JsonSchema} (free : start.ReferenceFree)
    (r : Reference) : ¬ c.Reaches start r := by
  intro h
  induction h with
  | direct h => exact free _ h
  | onward _ _ _ ih => exact ih

/-- Without references every demand is an objection, so none may be left. -/
theorem build_iff {c : Compiled} (free : c.root.read.ReferenceFree) :
    build c.document c.options = .ok c ↔
      Metaschema.objection? c.options.draft c.document = none ∧ c.root.read.demands = [] := by
  have fit : c.root.read.Fit ↔ c.root.read.demands = [] := by
    rw [List.eq_nil_iff_forall_not_mem]
    constructor
    · intro h d hd
      cases d with
      | objection e => exact h e hd
      | reference r => exact free r hd
    · exact fun h e => h _
  refine (build_iff_leads c).trans (and_congr_right fun _ => ?_)
  rw [← fit]
  exact and_iff_left fun r hr => absurd hr (not_reaches free r)

/-! ## Documents that share their references -/

section Sharing

variable {c d : Compiled} {start : JsonSchema}
  (same : ∀ r, c.Reaches start r → d.resolved r = c.resolved r)

include same

/-- The same references are reached when each of them names the same schema. -/
theorem Reaches.shared {r : Reference} : d.Reaches start r ↔ c.Reaches start r := by
  constructor
  · intro h
    induction h with
    | direct h => exact .direct h
    | onward _ resolves h ih => exact .onward ih (same _ ih ▸ resolves) h
  · intro h
    induction h with
    | direct h => exact .direct h
    | onward before resolves h ih => exact .onward ih ((same _ before).trans resolves) h

omit same in
theorem Reaches.of_target {r next : Reference} (before : c.Reaches start r)
    (h : (c.target r).RefersTo next) : c.Reaches start next := by
  rw [target] at h
  split at h
  · next resolves => exact .onward before resolves h
  · cases h

/-- Documents that share their references have the same targets where one of them can reach. -/
theorem target_congr {r : Reference} (reached : c.Reaches start r) : d.target r = c.target r := by
  have resolves := same r reached
  rw [resolved, resolved] at resolves
  rw [target, target, resolves]

theorem within_congr (n : Nat) {r : Reference} (reached : c.Reaches start r) :
    d.within n r = c.within n r := by
  induction n generalizing r with
  | zero => rfl
  | succ n ih =>
      rw [within, within, target_congr same reached]
      exact judge_congr fun next hn => ih (reached.of_target hn)

/-- Documents that share their references answer those alike that one of them can reach. -/
theorem answer_congr {r : Reference} (reached : c.Reaches start r) : d.answer r = c.answer r := by
  funext q v
  refine Option.ext fun a => ?_
  rw [answer_eq_some_iff, answer_eq_some_iff]
  exact exists_congr fun n => by rw [within_congr same n reached]

/-- Documents in which the references that a schema leads to name the same schemas give the schema
the same judge. -/
theorem judge_answer_congr : start.judge d.answer = start.judge c.answer :=
  judge_congr fun _ h => answer_congr same (.direct h)

end Sharing

end Compiled

end SliceContract
