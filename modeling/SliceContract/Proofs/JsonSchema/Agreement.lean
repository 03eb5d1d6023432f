import SliceContract.Proofs.JsonSchema.Deciding
import SliceContract.Proofs.JsonSchema.Following

/-!
# The two judges agree

A schema can be asked whether it accepts a value, and for everything that it objects to. The two
answers are found by separate walks over its keywords, and the first may be found without looking at
everything that the second needs. They agree: a report is empty exactly if the value is accepted,
and there is a report on every value that is accepted. The main statement is
`Compiled.agrees_answers`.
-/

namespace SliceContract

theorem isEmpty_flatMap {α β : Type*} (xs : List α) (f : α → List β) :
    (xs.flatMap f).isEmpty = xs.all fun x => (f x).isEmpty := by
  rw [Bool.eq_iff_iff, List.isEmpty_iff, List.flatMap_eq_nil_iff, List.all_eq_true]
  simp only [List.isEmpty_iff]

theorem isEmpty_append {α : Type*} (xs ys : List α) :
    (xs ++ ys).isEmpty = (xs.isEmpty && ys.isEmpty) := by
  cases xs <;> rfl

/-! ## Assertions -/

namespace Assertion

theorem isEmpty_missingKeys (ms : Entries Json) (keys : List String) :
    (missingKeys ms keys).isEmpty = keys.all (hasKey ms) := by
  rw [missingKeys, List.isEmpty_map, Bool.eq_iff_iff, List.isEmpty_iff, List.filter_eq_nil_iff,
    List.all_eq_true]
  simp

/-- An assertion has no cause to fail exactly if it holds. -/
theorem isEmpty_causes (a : Assertion) (v : Json) : (a.causes v).isEmpty = a.holds v := by
  rw [causes.eq_def]
  split
  · exact isEmpty_missingKeys _ _
  · rw [isEmpty_flatMap, List.all_filter]
    simp only [isEmpty_missingKeys]
    rfl
  · next source s =>
      rw [holds, onString, Pattern.occurs]
      cases Pattern.searchFor source s <;> rfl
  · next c s =>
      rw [holds, onString]
      cases c.cause? s <;> rfl
  · next required dependent _ content =>
      -- The two keywords that require keys have no cause here, but hold of whatever is no object.
      have cause : a.holds v = false → a.cause? ≠ none := by
        intro hv
        cases a with
        | required keys =>
            cases v with
            | object ms => exact absurd rfl (required keys ms rfl)
            | _ => cases hv
        | dependentRequired keyword table =>
            cases v with
            | object ms => exact absurd rfl (dependent keyword table ms rfl)
            | _ => cases hv
        | content c =>
            cases v with
            | string s => exact absurd rfl (content c s rfl)
            | _ => cases hv
        | _ => nofun
      cases hv : a.holds v with
      | true => rfl
      | false =>
          obtain ⟨c, hc⟩ := Option.ne_none_iff_exists'.mp (cause hv)
          rw [hc]
          rfl

theorem isEmpty_failures (a : Assertion) (v : Json) : (a.failures v).isEmpty = a.holds v := by
  rw [failures, List.isEmpty_map, isEmpty_causes]

end Assertion

/-! ## Answers -/

/-- Whether a verdict and a report, as far as there are answers, say the same of a value. A report
needs more than a verdict, so it may be missing on a value that is not accepted. -/
structure Agrees (verdict : Option Bool) (report : Option (List Failure)) : Prop where
  verdict_eq : ∀ fs, report = some fs → verdict = some fs.isEmpty
  report_eq : verdict = some true → report = some []

namespace Agrees

theorem pure {b : Bool} {fs : List Failure} (h : fs.isEmpty = b) : Agrees (some b) (some fs) where
  verdict_eq gs hg := by rw [← Option.some.inj hg, h]
  report_eq accepted := by
    rw [Option.some.inj accepted] at h
    rw [List.isEmpty_iff.mp h]

/-- What agrees after a common first step agrees as a whole. -/
theorem bind {α : Type} {x : Option α} {f : α → Option Bool} {g : α → Option (List Failure)}
    (h : ∀ a, Agrees (f a) (g a)) : Agrees (x >>= f) (x >>= g) := by
  cases x with
  | none => exact ⟨nofun, nofun⟩
  | some a => exact h a

/-- The verdict and the report are both read off one computation. -/
theorem of_common {α : Type} (x : Option α) {p : α → Bool} {g : α → List Failure}
    (h : ∀ a, (g a).isEmpty = p a) : Agrees (do return p (← x)) (do return g (← x)) :=
  bind fun a => pure (h a)

theorem ite {c : Prop} [Decidable c] {x x' : Option Bool} {y y' : Option (List Failure)}
    (met : Agrees x y) (unmet : Agrees x' y') :
    Agrees (if c then x else x') (if c then y else y') := by
  split
  · exact met
  · exact unmet

/-- Where a failure is seen from does not matter. -/
theorem map {x : Option Bool} {y : Option (List Failure)} (h : Agrees x y)
    (f : Failure → Failure) : Agrees x (do return (← y).map f) where
  verdict_eq fs hfs := by
    obtain ⟨gs, hg, same⟩ := Option.bind_eq_some_iff.mp hfs
    rw [h.verdict_eq gs hg, ← Option.some.inj same, List.isEmpty_map]
  report_eq accepted := by
    rw [h.report_eq accepted]
    rfl

/-- The second verdict is asked for only if the first accepts, but both reports are made. -/
theorem append {x x' : Option Bool} {y y' : Option (List Failure)} (first : Agrees x y)
    (second : Agrees x' y') :
    Agrees (do match ← x with
      | true => x'
      | false => return false) (do return (← y) ++ (← y')) where
  verdict_eq fs hfs := by
    obtain ⟨as, ha, h⟩ := Option.bind_eq_some_iff.mp hfs
    obtain ⟨bs, hb, same⟩ := Option.bind_eq_some_iff.mp h
    rw [first.verdict_eq as ha, second.verdict_eq bs hb, ← Option.some.inj same, isEmpty_append]
    cases as.isEmpty <;> rfl
  report_eq accepted := by
    obtain ⟨b, hb, h⟩ := Option.bind_eq_some_iff.mp accepted
    cases b with
    | false => cases h
    | true =>
        rw [first.report_eq hb, second.report_eq h]
        rfl

end Agrees

/-! ## Lists -/

section Lists

variable {α β : Type} {xs : List α} {p : α → Option Bool} {f : α → Option (List Failure)}

/-- If the answers agree for all elements, they agree on whether nothing is found at all. -/
theorem Agrees.all (h : ∀ x ∈ xs, Agrees (p x) (f x)) : Agrees (xs.allM p) (collect f xs) := by
  induction xs with
  | nil => exact .pure rfl
  | cons x rest ih =>
      exact (h x List.mem_cons_self).append (ih fun y hy => h y (List.mem_cons_of_mem _ hy))

theorem allM_eq_some_true_iff : xs.allM p = some true ↔ ∀ x ∈ xs, p x = some true := by
  induction xs with
  | nil => simp [List.allM]
  | cons x rest ih =>
      rw [List.forall_mem_cons, ← ih, List.allM]
      cases p x with
      | none => simp
      | some b => cases b <;> simp

/-- Elements that all have a verdict are refused together if one of them is. -/
theorem allM_eq_some_false (decided : ∀ x ∈ xs, ∃ b, p x = some b) {x : α} (hx : x ∈ xs)
    (refused : p x = some false) : xs.allM p = some false := by
  induction xs with
  | nil => cases hx
  | cons y rest ih =>
      obtain ⟨b, hb⟩ := decided y List.mem_cons_self
      rw [List.allM, hb]
      cases b with
      | false => rfl
      | true =>
          have other : x ≠ y := by
            rintro rfl
            cases refused.symm.trans hb
          exact ih (fun z hz => decided z (List.mem_cons_of_mem _ hz))
            ((List.mem_cons.mp hx).resolve_left other)

/-- A collection is found if all its parts are found. -/
theorem exists_of_collect {f : α → Option (List β)} {fs : List β} (h : collect f xs = some fs) :
    ∀ x ∈ xs, ∃ part, f x = some part := by
  induction xs generalizing fs with
  | nil => exact List.forall_mem_nil _
  | cons x rest ih =>
      obtain ⟨first, hfirst, h⟩ := Option.bind_eq_some_iff.mp h
      obtain ⟨others, hothers, -⟩ := Option.bind_eq_some_iff.mp h
      exact List.forall_mem_cons.mpr ⟨⟨first, hfirst⟩, ih hothers⟩

/-- Elements that are refused without a report of their own are reported on at the end. -/
theorem Agrees.all_append (own : α → Bool) {rest : List Failure}
    (h : ∀ x ∈ xs, own x = true → Agrees (p x) (f x))
    (refused : ∀ x ∈ xs, own x = false → p x = some false) (hrest : rest.isEmpty = xs.all own) :
    Agrees (xs.allM p) (do return (← collect f xs) ++ rest) := by
  cases covered : xs.all own with
  | true =>
      rw [covered, List.isEmpty_iff] at hrest
      rw [List.all_eq_true] at covered
      simp only [hrest, List.append_nil, bind_pure]
      exact Agrees.all fun x hx => h x hx (covered x hx)
  | false =>
      obtain ⟨x, hx, apart⟩ := List.all_eq_false.mp covered
      have out := refused x hx (Bool.eq_false_of_not_eq_true apart)
      constructor
      · intro fs hfs
        obtain ⟨inside, hin, same⟩ := Option.bind_eq_some_iff.mp hfs
        have some : fs.isEmpty = false := by
          rw [← Option.some.inj same, isEmpty_append, hrest, covered, Bool.and_false]
        rw [some]
        refine allM_eq_some_false (fun y hy => ?_) hx out
        obtain ⟨part, hp⟩ := exists_of_collect hin y hy
        cases ho : own y with
        | true => exact ⟨_, (h y hy ho).verdict_eq part hp⟩
        | false => exact ⟨false, refused y hy ho⟩
      · intro accepted
        cases out.symm.trans (allM_eq_some_true_iff.mp accepted x hx)

/-- The number of an element does not matter for a verdict. -/
theorem allM_zipIdx (xs : List α) (start : Nat) (p : α → Option Bool) :
    ((xs.zipIdx start).allM fun e => p e.1) = xs.allM p := by
  rw [← allM_map Prod.fst p, List.zipIdx_map_fst]

end Lists

/-! ## Judges -/

namespace Judge

/-- Whether the verdicts and the reports of a judge agree. -/
def Consistent (j : Judge Option) : Prop := ∀ v, Agrees (j .verdict v) (j .report v)

/-- Moving what is reported does not change whether anything is. -/
theorem Consistent.reportAt {j : Judge Option} (h : j.Consistent) (l l' : Location) (v : Json) :
    Agrees (j .verdict v) (j.reportAt l l' v) :=
  (h v).map _

variable {js : List (Judge Option)} {table known patterns : List (String × Judge Option)}

section List

variable (h : ∀ j ∈ js, j.Consistent)

include h

theorem consistent_every : (every js).Consistent := fun v => Agrees.all fun j hj => h j hj v

theorem consistent_allOf : (allOf js).Consistent := by
  intro v
  rw [allOf, ← allM_zipIdx js 0]
  exact Agrees.all fun e he => (h e.1 (List.fst_mem_of_mem_zipIdx he)).reportAt _ _ v

theorem consistent_positional (keyword : String) : (positional keyword js).Consistent := by
  intro v
  rw [positional, ← allM_zipIdx (js.zip v.elements) 0]
  refine Agrees.all fun e he => (h e.1.1 ?_).reportAt _ _ e.1.2
  exact (List.of_mem_zip (List.fst_mem_of_mem_zipIdx he)).1

end List

/-- `anyOf` reports one failure, exactly if no branch accepts. -/
theorem consistent_anyOf (js : List (Judge Option)) : (anyOf js).Consistent := by
  intro v
  rw [anyOf, ← bind_pure (js.anyM fun j => j .verdict v)]
  refine Agrees.of_common (p := id) _ fun b => ?_
  cases b <;> rfl

/-- `oneOf` reports one failure, exactly if no branch or a second one accepts. -/
theorem consistent_oneOf (js : List (Judge Option)) : (oneOf js).Consistent := by
  intro v
  refine Agrees.of_common _ fun count => ?_
  match count with
  | 0 | 1 | _ + 2 => rfl

theorem consistent_properties (h : ∀ j ∈ table.map (·.2), j.Consistent) :
    (properties table).Consistent := by
  intro v
  refine Agrees.all fun ⟨name, j⟩ he => ?_
  dsimp only
  cases v.get? name with
  | none => exact .pure rfl
  | some x => exact (h j (List.mem_map_of_mem he)).reportAt _ _ x

theorem consistent_patternProperties (h : ∀ j ∈ table.map (·.2), j.Consistent) :
    (patternProperties table).Consistent := fun _ =>
  Agrees.all fun e he => Agrees.all fun m _ => (h e.2 (List.mem_map_of_mem he)).reportAt _ _ m.2

/-- What tables say about a member is consistent. -/
theorem agrees_found {found : List (Location × Judge Option)}
    (h : ∀ e ∈ found, e.2.Consistent) (key : String) (x : Json) :
    Agrees (found.allM fun e => e.2 .verdict x)
      (collect (fun e => e.2.reportAt [.member key] e.1 x) found) :=
  Agrees.all fun e he => (h e he).reportAt _ _ x

theorem isEmpty_refusal (unexpected : Entries Json) (bare : Bool) (v : Json) :
    (refusal unexpected bare v).isEmpty = unexpected.isEmpty := by
  cases unexpected <;> cases bare <;> rfl

/-- Members are refused exactly if one is found that no schema is for. -/
theorem consistent_closed
    (h : ∀ j ∈ patterns.map (·.2) ++ known.map (·.2), j.Consistent) (bare : Bool) :
    (closed known patterns bare).Consistent := by
  intro v
  refine Agrees.all_append (fun m => !(forName known patterns m.1).isEmpty) ?_ ?_ ?_
  · intro ⟨key, x⟩ _ some
    have found := agrees_found (fun e (he : e ∈ forName known patterns key) =>
      h e.2 (snd_mem_of_mem_forName he)) key x
    dsimp only at some ⊢
    cases hf : forName known patterns key with
    | nil =>
        rw [hf] at some
        cases some
    | cons e rest =>
        rw [hf] at found
        exact found
  · intro ⟨key, x⟩ _ none
    rw [Bool.not_eq_false', List.isEmpty_iff] at none
    dsimp only
    rw [none]
    rfl
  · rw [isEmpty_refusal, unexpected, Bool.eq_iff_iff, List.isEmpty_iff, List.filter_eq_nil_iff,
      List.all_eq_true]
    simp

theorem consistent_additional {others : Judge Option}
    (h : ∀ j ∈ patterns.map (·.2) ++ known.map (·.2) ++ [others], j.Consistent) :
    (additional known patterns others).Consistent := fun _ =>
  Agrees.all fun m _ => agrees_found (fun e he => h e.2 (snd_mem_of_mem_forNameOrElse he)) m.1 m.2

section One

variable {j : Judge Option}

theorem consistent_contains (evaluates : Bool) (quota : Quota) (j : Judge Option) :
    (contains evaluates quota j).Consistent := by
  intro v
  cases v with
  | array xs =>
      refine Agrees.of_common _ fun keyword => ?_
      cases keyword <;> rfl
  | _ => exact .pure rfl

/-- A negation fails exactly if what it negates holds. -/
theorem consistent_negation (document : Json) (j : Judge Option) :
    (negation document j).Consistent := by
  intro v
  refine Agrees.of_common _ fun b => ?_
  cases b <;> rfl

theorem consistent_unevaluated (kind : PartKind) (beside : List (Judge Option))
    (j : Judge Option) : (unevaluated kind beside j).Consistent := by
  intro v
  refine Agrees.of_common _ fun parts => ?_
  cases parts <;> rfl

theorem consistent_optional {j? : Option (Judge Option)} (h : ∀ j ∈ j?, j.Consistent)
    (keyword : String) : (optional keyword j?).Consistent := by
  cases j? with
  | none => exact fun _ => .pure rfl
  | some j => exact (h j rfl).reportAt _ _

/-- The same branch is taken for the verdict and for the report. -/
theorem consistent_conditional (test : Judge Option) {met unmet : Option (Judge Option)}
    (h : ∀ j ∈ met, j.Consistent) (h' : ∀ j ∈ unmet, j.Consistent) :
    (conditional test met unmet).Consistent := fun v =>
  .bind fun _ => .ite (consistent_optional h "then" v) (consistent_optional h' "else" v)

theorem consistent_items (h : j.Consistent) (keyword : String) (skip : Nat) :
    (items keyword skip j).Consistent := by
  intro v
  rw [items, ← allM_zipIdx (v.elements.drop skip) skip]
  exact Agrees.all fun e _ => h.reportAt _ _ e.1

theorem consistent_dependent (h : j.Consistent) (keyword key : String) :
    (dependent keyword key j).Consistent := fun v => .ite (h.reportAt _ _ v) (.pure rfl)

/-- A judge of names that is taken to refuse all of them must do so. -/
theorem consistent_propertyNames (h : j.Consistent) {refusesAll : Bool}
    (refuses : refusesAll = true → j = never) : (propertyNames refusesAll j).Consistent := by
  intro v
  cases refusesAll with
  | false => exact Agrees.all fun m _ => h.reportAt _ _ (.string m.1)
  | true =>
      cases refuses rfl
      have report : propertyNames true never .report v =
          some (if v.members.isEmpty then [] else [.own "propertyNames" v .neverAllowed]) := rfl
      rw [report, propertyNames]
      cases v.members with
      | nil => exact .pure rfl
      | cons m rest => exact .pure rfl

end One

/-- The verdicts and the reports of all judges agree. -/
theorem kept_consistent : Kept Consistent where
  always _ := .pure rfl
  never _ := .pure rfl
  assertion a v := .pure (a.isEmpty_failures v)
  every := consistent_every
  reference _ hj v := hj.reportAt _ _ v
  covers _ _ := .pure rfl
  closed bare h := consistent_closed h bare
  additional := consistent_additional
  allOf := consistent_allOf
  anyOf _ := consistent_anyOf _
  oneOf _ := consistent_oneOf _
  contains evaluates quota _ := consistent_contains evaluates quota _
  conditional _ := consistent_conditional _
  items keyword skip h := consistent_items h keyword skip
  positional keyword h := consistent_positional h keyword
  negation document _ := consistent_negation document _
  dependent keyword key h := consistent_dependent h keyword key
  properties := consistent_properties
  patternProperties := consistent_patternProperties
  propertyNames hj refuses := consistent_propertyNames hj refuses
  unevaluated kind _ _ := consistent_unevaluated kind _ _

end Judge

/-! ## Compiled documents -/

namespace Compiled

/-- However many references are followed, verdict and report agree. -/
theorem consistent_within (c : Compiled) (n : Nat) (r : Reference) : (c.within n r).Consistent :=
  c.within_of_kept Judge.kept_consistent (fun _ => ⟨nofun, nofun⟩) n r

/-- The verdict that a reference gives agrees with its report. -/
theorem consistent_answer (c : Compiled) (r : Reference) : Judge.Consistent (c.answer r) := by
  intro v
  constructor
  · intro fs hfs
    obtain ⟨n, hn⟩ := c.answer_eq_some_iff.mp hfs
    exact c.answer_eq_some_iff.mpr ⟨n, (c.consistent_within n r v).verdict_eq fs hn⟩
  · intro accepted
    obtain ⟨n, hn⟩ := c.answer_eq_some_iff.mp accepted
    exact c.answer_eq_some_iff.mpr ⟨n, (c.consistent_within n r v).report_eq hn⟩

/-- The verdict on a value and the report on it agree. -/
theorem agrees_answers (c : Compiled) (v : Json) : Agrees (c.accepts v) (c.failures v) :=
  JsonSchema.judge_of_kept Judge.kept_consistent c.consistent_answer _ v

end Compiled

end SliceContract
