import SliceContract.JsonSchema.Demand

/-!
# Judges in two monads

A relation between the computations of two monads that their operations keep is kept by everything
that is put together from these. The main statement is `JsonSchema.judge_rel`: the judges of a
schema are related when those of its references are.
-/

namespace SliceContract

/-- A relation between the computations of two monads that their operations keep. -/
structure Correspondence (m n : Type → Type) [Monad m] [Monad n] where
  rel : {α : Type} → m α → n α → Prop
  pure : ∀ {α : Type} (a : α), rel (pure a) (pure a)
  bind : ∀ {α β : Type} {x : m α} {y : n α} {f : α → m β} {g : α → n β},
    rel x y → (∀ a, rel (f a) (g a)) → rel (x >>= f) (y >>= g)

/-! ## Lists -/

section Maps

variable {m : Type → Type} [Monad m] {α β γ : Type} (f : α → β)

theorem allM_map (p : β → m Bool) (xs : List α) :
    (xs.map f).allM p = xs.allM fun x => p (f x) := by
  induction xs with
  | nil => rfl
  | cons x rest ih => simp only [List.map_cons, List.allM, ih]

theorem anyM_map (p : β → m Bool) (xs : List α) :
    (xs.map f).anyM p = xs.anyM fun x => p (f x) := by
  induction xs with
  | nil => rfl
  | cons x rest ih => simp only [List.map_cons, List.anyM, ih]

theorem collect_map (g : β → m (List γ)) (xs : List α) :
    collect g (xs.map f) = collect (fun x => g (f x)) xs := by
  induction xs with
  | nil => rfl
  | cons x rest ih => simp only [List.map_cons, collect, ih]

theorem countUpTo_map (p : β → m Bool) (limit : Nat) (xs : List α) :
    countUpTo p limit (xs.map f) = countUpTo (fun x => p (f x)) limit xs := by
  induction xs generalizing limit with
  | nil => cases limit <;> rfl
  | cons x rest ih =>
      cases limit with
      | zero => rfl
      | succ limit => simp only [List.map_cons, countUpTo, ih]

end Maps

namespace Correspondence

variable {m n : Type → Type} [Monad m] [Monad n] (R : Correspondence m n) {α β : Type}

theorem ite {c : Prop} [Decidable c] {x x' : m α} {y y' : n α} (met : R.rel x y)
    (unmet : R.rel x' y') : R.rel (if c then x else x') (if c then y else y') := by
  split
  · exact met
  · exact unmet

/-- A result that is computed from another one. -/
theorem map {x : m α} {y : n α} (f : α → β) (h : R.rel x y) :
    R.rel (do return f (← x)) (do return f (← y)) :=
  R.bind h fun a => R.pure (f a)

variable {p : α → m Bool} {q : α → n Bool} {xs : List α}

theorem allM (h : ∀ x ∈ xs, R.rel (p x) (q x)) : R.rel (xs.allM p) (xs.allM q) := by
  induction xs with
  | nil => exact R.pure true
  | cons x rest ih =>
      refine R.bind (h x List.mem_cons_self) fun b => ?_
      cases b with
      | true => exact ih fun y hy => h y (List.mem_cons_of_mem _ hy)
      | false => exact R.pure false

theorem anyM (h : ∀ x ∈ xs, R.rel (p x) (q x)) : R.rel (xs.anyM p) (xs.anyM q) := by
  induction xs with
  | nil => exact R.pure false
  | cons x rest ih =>
      refine R.bind (h x List.mem_cons_self) fun b => ?_
      cases b with
      | true => exact R.pure true
      | false => exact ih fun y hy => h y (List.mem_cons_of_mem _ hy)

theorem collect {f : α → m (List β)} {g : α → n (List β)} (h : ∀ x ∈ xs, R.rel (f x) (g x)) :
    R.rel (collect f xs) (SliceContract.collect g xs) := by
  induction xs with
  | nil => exact R.pure []
  | cons x rest ih =>
      refine R.bind (h x List.mem_cons_self) fun first => ?_
      exact R.bind (ih fun y hy => h y (List.mem_cons_of_mem _ hy)) fun others =>
        R.pure (first ++ others)

theorem countUpTo (limit : Nat) (h : ∀ x ∈ xs, R.rel (p x) (q x)) :
    R.rel (countUpTo p limit xs) (SliceContract.countUpTo q limit xs) := by
  induction xs generalizing limit with
  | nil => cases limit <;> exact R.pure 0
  | cons x rest ih =>
      replace ih := fun limit => ih limit fun y hy => h y (List.mem_cons_of_mem _ hy)
      cases limit with
      | zero => exact R.pure 0
      | succ limit =>
          refine R.bind (h x List.mem_cons_self) fun b => R.ite ?_ (ih (limit + 1))
          exact R.bind (ih limit) fun count => R.pure (count + 1)

end Correspondence

/-! ## Judges -/

namespace Judge

variable {m n : Type → Type} [Monad m] [Monad n] (R : Correspondence m n)

/-- Whether all answers of two judges are related. -/
def Rel (j : Judge m) (j' : Judge n) : Prop := ∀ q v, R.rel (j q v) (j' q v)

section Tables

variable {α β : Type} (f : α → β)

theorem lookup_map_snd (table : List (String × α)) (key : String) :
    (table.map fun e => (e.1, f e.2)).lookup key = (table.lookup key).map f := by
  induction table with
  | nil => rfl
  | cons e rest ih =>
      rw [List.map_cons, List.lookup_cons, List.lookup_cons, ih]
      cases key == e.1 <;> rfl

theorem forName_map (known patterns : List (String × α)) (key : String) :
    forName (known.map fun e => (e.1, f e.2)) (patterns.map fun e => (e.1, f e.2)) key =
      (forName known patterns key).map fun e => (e.1, f e.2) := by
  simp only [forName, lookup_map_snd, List.filter_map, List.map_append, List.map_map]
  cases known.lookup key <;> rfl

theorem forNameOrElse_map (known patterns : List (String × α)) (others : α) (key : String) :
    forNameOrElse (known.map fun e => (e.1, f e.2)) (patterns.map fun e => (e.1, f e.2)) (f others)
        key =
      (forNameOrElse known patterns others key).map fun e => (e.1, f e.2) := by
  rw [forNameOrElse, forNameOrElse, forName_map]
  cases forName known patterns key <;> rfl

theorem unexpected_map (known patterns : List (String × α)) (v : Json) :
    unexpected (known.map fun e => (e.1, f e.2)) (patterns.map fun e => (e.1, f e.2)) v =
      unexpected known patterns v := by
  simp only [unexpected, forName_map, List.isEmpty_map]

variable {known patterns : List (String × α)} {key : String}

theorem snd_mem_of_mem_forName {e : Location × α} (h : e ∈ forName known patterns key) :
    e.2 ∈ patterns.map (·.2) ++ known.map (·.2) := by
  rw [forName, List.mem_append] at h
  rcases h with h | h
  · obtain ⟨a, ha, rfl⟩ := List.mem_map.mp h
    obtain ⟨before, after, rfl, -⟩ := List.lookup_eq_some_iff.mp (Option.mem_toList.mp ha)
    simp
  · obtain ⟨entry, he, rfl⟩ := List.mem_map.mp h
    exact List.mem_append_left _ (List.mem_map_of_mem (List.mem_filter.mp he).1)

theorem snd_mem_of_mem_forNameOrElse {others : α} {e : Location × α}
    (h : e ∈ forNameOrElse known patterns others key) :
    e.2 ∈ patterns.map (·.2) ++ known.map (·.2) ++ [others] := by
  rw [forNameOrElse] at h
  split at h
  · rw [List.mem_singleton.mp h]
    exact List.mem_append_right _ List.mem_cons_self
  · exact List.mem_append_left _ (snd_mem_of_mem_forName h)

end Tables

section One

variable {R} {j : Judge m} {j' : Judge n} (h : Rel R j j')

include h

theorem Rel.reportAt (l l' : Location) (v : Json) :
    R.rel (j.reportAt l l' v) (j'.reportAt l l' v) :=
  R.map _ (h .report v)

theorem Rel.acceptedAmong (parts : List (Step × Json)) :
    R.rel (j.acceptedAmong parts) (j'.acceptedAmong parts) :=
  R.collect fun part _ => R.map (fun b => if b then [part.1] else []) (h .verdict part.2)

theorem Rel.evaluatedIfAccepted (v : Json) :
    R.rel (j.evaluatedIfAccepted v) (j'.evaluatedIfAccepted v) :=
  R.bind (h .verdict v) fun _ => R.ite (h .evaluated v) (R.pure [])

theorem Rel.reference (keyword : String) : Rel R (j.reference keyword) (j'.reference keyword)
  | .verdict, v => h .verdict v
  | .evaluated, v => h .evaluated v
  | .report, v => h.reportAt [] [.member keyword] v

end One

/-! ## Keywords -/

section Keywords

variable {R} {ι : Type}

section List

variable {js : ι → Judge m} {js' : ι → Judge n} {ss : List ι}
  (h : ∀ s ∈ ss, Rel R (js s) (js' s))

include h

theorem Rel.every : Rel R (Judge.every (ss.map js)) (Judge.every (ss.map js'))
  | .verdict, v => by
      simp only [Judge.every, allM_map]
      exact R.allM fun s hs => h s hs .verdict v
  | .evaluated, v => by
      simp only [Judge.every, collect_map]
      exact R.collect fun s hs => h s hs .evaluated v
  | .report, v => by
      simp only [Judge.every, collect_map]
      exact R.collect fun s hs => h s hs .report v

theorem Rel.branches (v : Json) :
    R.rel (SliceContract.collect (fun j => j.evaluatedIfAccepted v) (ss.map js))
      (SliceContract.collect (fun j => j.evaluatedIfAccepted v) (ss.map js')) := by
  simp only [collect_map]
  exact R.collect fun s hs => (h s hs).evaluatedIfAccepted v

theorem Rel.allOf : Rel R (Judge.allOf (ss.map js)) (Judge.allOf (ss.map js'))
  | .verdict, v => Rel.every h .verdict v
  | .evaluated, v => Rel.branches h v
  | .report, v => by
      simp only [Judge.allOf, List.zipIdx_map, collect_map]
      exact R.collect fun e he => (h e.1 (List.fst_mem_of_mem_zipIdx he)).reportAt _ _ v

theorem Rel.anyM_verdict (v : Json) :
    R.rel ((ss.map js).anyM fun j => j .verdict v) ((ss.map js').anyM fun j => j .verdict v) := by
  simp only [anyM_map]
  exact R.anyM fun s hs => h s hs .verdict v

theorem Rel.anyOf : Rel R (Judge.anyOf (ss.map js)) (Judge.anyOf (ss.map js'))
  | .verdict, v => Rel.anyM_verdict h v
  | .evaluated, v => Rel.branches h v
  | .report, v => R.map _ (Rel.anyM_verdict h v)

theorem Rel.countUpTo_verdict (v : Json) :
    R.rel (SliceContract.countUpTo (fun j => j .verdict v) 2 (ss.map js))
      (SliceContract.countUpTo (fun j => j .verdict v) 2 (ss.map js')) := by
  simp only [countUpTo_map]
  exact R.countUpTo 2 fun s hs => h s hs .verdict v

theorem Rel.oneOf : Rel R (Judge.oneOf (ss.map js)) (Judge.oneOf (ss.map js'))
  | .verdict, v => R.map _ (Rel.countUpTo_verdict h v)
  | .evaluated, v => Rel.branches h v
  | .report, v => R.map _ (Rel.countUpTo_verdict h v)

theorem Rel.positional (keyword : String) :
    Rel R (Judge.positional keyword (ss.map js)) (Judge.positional keyword (ss.map js'))
  | .verdict, v => by
      simp only [Judge.positional, List.zip_map_left, allM_map]
      exact R.allM fun e he => h e.1 (List.of_mem_zip he).1 .verdict e.2
  | .evaluated, v => by
      simp only [Judge.positional, List.length_map]
      exact R.pure _
  | .report, v => by
      simp only [Judge.positional, List.zip_map_left, List.zipIdx_map, collect_map]
      refine R.collect fun e he => (h e.1.1 ?_).reportAt _ _ e.1.2
      exact (List.of_mem_zip (List.fst_mem_of_mem_zipIdx he)).1

end List

section Table

variable {js : ι → Judge m} {js' : ι → Judge n} {table : List (String × ι)}
  (h : ∀ s ∈ table.map (·.2), Rel R (js s) (js' s))

include h

theorem Rel.properties :
    Rel R (Judge.properties (table.map fun e => (e.1, js e.2)))
      (Judge.properties (table.map fun e => (e.1, js' e.2)))
  | .verdict, v => by
      simp only [Judge.properties, allM_map]
      refine R.allM fun e he => ?_
      cases v.get? e.1 with
      | none => exact R.pure true
      | some x => exact h e.2 (List.mem_map_of_mem he) .verdict x
  | .evaluated, v => by
      simp only [Judge.properties, collect_map]
      exact R.collect fun e he => (h e.2 (List.mem_map_of_mem he)).acceptedAmong _
  | .report, v => by
      simp only [Judge.properties, collect_map]
      refine R.collect fun e he => ?_
      cases v.get? e.1 with
      | none => exact R.pure []
      | some x => exact (h e.2 (List.mem_map_of_mem he)).reportAt _ _ x

theorem Rel.patternProperties :
    Rel R (Judge.patternProperties (table.map fun e => (e.1, js e.2)))
      (Judge.patternProperties (table.map fun e => (e.1, js' e.2)))
  | .verdict, v => by
      simp only [Judge.patternProperties, allM_map]
      exact R.allM fun e he => R.allM fun m _ => h e.2 (List.mem_map_of_mem he) .verdict m.2
  | .evaluated, v => by
      simp only [Judge.patternProperties, collect_map]
      exact R.collect fun e he => (h e.2 (List.mem_map_of_mem he)).acceptedAmong _
  | .report, v => by
      simp only [Judge.patternProperties, collect_map]
      exact R.collect fun e he => R.collect fun m _ =>
        (h e.2 (List.mem_map_of_mem he)).reportAt _ _ m.2

end Table

section Members

variable {js : ι → Judge m} {js' : ι → Judge n} {known patterns : List (String × ι)}

/-- What tables say about a member is judged alike. -/
theorem Rel.found {found : List (Location × ι)} (h : ∀ e ∈ found, Rel R (js e.2) (js' e.2))
    (x : Json) :
    R.rel ((found.map fun e => (e.1, js e.2)).allM fun e => e.2 .verdict x)
      ((found.map fun e => (e.1, js' e.2)).allM fun e => e.2 .verdict x) := by
  simp only [allM_map]
  exact R.allM fun e he => h e he .verdict x

theorem Rel.reportFound {found : List (Location × ι)} (h : ∀ e ∈ found, Rel R (js e.2) (js' e.2))
    (key : String) (x : Json) :
    R.rel (SliceContract.collect (fun e => e.2.reportAt [.member key] e.1 x)
        (found.map fun e => (e.1, js e.2)))
      (SliceContract.collect (fun e => e.2.reportAt [.member key] e.1 x)
        (found.map fun e => (e.1, js' e.2))) := by
  simp only [collect_map]
  exact R.collect fun e he => (h e he).reportAt _ _ x

theorem Rel.closed (h : ∀ s ∈ patterns.map (·.2) ++ known.map (·.2), Rel R (js s) (js' s))
    (bare : Bool) :
    Rel R (Judge.closed (known.map fun e => (e.1, js e.2)) (patterns.map fun e => (e.1, js e.2))
        bare)
      (Judge.closed (known.map fun e => (e.1, js' e.2)) (patterns.map fun e => (e.1, js' e.2))
        bare)
  | .verdict, v => by
      simp only [Judge.closed, forName_map]
      refine R.allM fun m _ => ?_
      have found := Rel.found (R := R) (fun e (he : e ∈ forName known patterns m.1) =>
        h e.2 (snd_mem_of_mem_forName he)) m.2
      cases hf : forName known patterns m.1 with
      | nil => exact R.pure false
      | cons e rest =>
          rw [hf] at found
          exact found
  | .evaluated, v => by
      refine R.bind (Rel.properties (fun s hs => h s (List.mem_append_right _ hs)) .evaluated v)
        fun named => ?_
      exact R.map _ (Rel.patternProperties (fun s hs => h s (List.mem_append_left _ hs))
        .evaluated v)
  | .report, v => by
      simp only [Judge.closed, forName_map, unexpected_map]
      refine R.map _ (R.collect fun m _ => ?_)
      exact Rel.reportFound (fun e he => h e.2 (snd_mem_of_mem_forName he)) m.1 m.2

theorem Rel.additional {others : ι}
    (h : ∀ s ∈ patterns.map (·.2) ++ known.map (·.2) ++ [others], Rel R (js s) (js' s)) :
    Rel R (Judge.additional (known.map fun e => (e.1, js e.2))
        (patterns.map fun e => (e.1, js e.2)) (js others))
      (Judge.additional (known.map fun e => (e.1, js' e.2))
        (patterns.map fun e => (e.1, js' e.2)) (js' others))
  | .verdict, v => by
      simp only [Judge.additional, forNameOrElse_map]
      exact R.allM fun m _ =>
        Rel.found (fun e he => h e.2 (snd_mem_of_mem_forNameOrElse he)) m.2
  | .evaluated, v => by
      have named : ∀ s ∈ patterns.map (·.2) ++ known.map (·.2), Rel R (js s) (js' s) :=
        fun s hs => h s (List.mem_append_left _ hs)
      refine R.bind (Rel.properties (fun s hs => named s (List.mem_append_right _ hs)) .evaluated v)
        fun _ => ?_
      refine R.bind (Rel.patternProperties (fun s hs => named s (List.mem_append_left _ hs))
        .evaluated v) fun _ => ?_
      exact R.map _ ((h others (List.mem_append_right _ List.mem_cons_self)).acceptedAmong _)
  | .report, v => by
      simp only [Judge.additional, forNameOrElse_map]
      exact R.collect fun m _ =>
        Rel.reportFound (fun e he => h e.2 (snd_mem_of_mem_forNameOrElse he)) m.1 m.2

end Members

section One

variable {j : Judge m} {j' : Judge n} (h : Rel R j j')

include h

theorem Rel.offended? (quota : Quota) (xs : List Json) :
    R.rel (Judge.offended? quota j xs) (Judge.offended? quota j' xs) :=
  R.map _ (R.countUpTo quota.enough fun x _ => h .verdict x)

theorem Rel.contains (evaluates : Bool) (quota : Quota) :
    Rel R (Judge.contains evaluates quota j) (Judge.contains evaluates quota j')
  | .verdict, v => by
      cases v with
      | array xs => exact R.map _ (h.offended? quota xs)
      | _ => exact R.pure true
  | .evaluated, v => R.ite (h.acceptedAmong _) (R.pure [])
  | .report, v => by
      cases v with
      | array xs => exact R.map _ (h.offended? quota xs)
      | _ => exact R.pure []

theorem Rel.items (keyword : String) (skip : Nat) :
    Rel R (Judge.items keyword skip j) (Judge.items keyword skip j')
  | .verdict, _ => R.allM fun x _ => h .verdict x
  | .evaluated, _ => R.pure _
  | .report, _ => R.collect fun e _ => h.reportAt _ _ e.1

theorem Rel.negation (document : Json) :
    Rel R (Judge.negation document j) (Judge.negation document j')
  | .verdict, v => R.map _ (h .verdict v)
  | .evaluated, _ => R.pure []
  | .report, v => R.map _ (h .verdict v)

theorem Rel.dependent (keyword key : String) :
    Rel R (Judge.dependent keyword key j) (Judge.dependent keyword key j')
  | .verdict, v => R.ite (h .verdict v) (R.pure true)
  | .evaluated, v => R.ite (h .evaluated v) (R.pure [])
  | .report, v => R.ite (h.reportAt _ _ v) (R.pure [])

theorem Rel.propertyNames (refusesAll : Bool) :
    Rel R (Judge.propertyNames refusesAll j) (Judge.propertyNames refusesAll j')
  | .verdict, _ => R.allM fun m _ => h .verdict (.string m.1)
  | .evaluated, _ => R.pure []
  | .report, _ => R.ite (R.pure _) (R.collect fun m _ => h.reportAt _ _ (.string m.1))

end One

section Optional

variable {js : ι → Judge m} {js' : ι → Judge n}

theorem Rel.optional {s? : Option ι} (h : ∀ s ∈ s?, Rel R (js s) (js' s)) (keyword : String) :
    Rel R (Judge.optional keyword (s?.map js)) (Judge.optional keyword (s?.map js')) := by
  cases s? with
  | none =>
      intro q v
      cases q <;> exact R.pure _
  | some s => exact (h s rfl).reference keyword

theorem Rel.conditional {test : Judge m} {test' : Judge n} (tests : Rel R test test')
    {met unmet : Option ι} (h : ∀ s ∈ met, Rel R (js s) (js' s))
    (h' : ∀ s ∈ unmet, Rel R (js s) (js' s)) :
    Rel R (Judge.conditional test (met.map js) (unmet.map js))
      (Judge.conditional test' (met.map js') (unmet.map js'))
  | .verdict, v => R.bind (tests .verdict v) fun _ =>
      R.ite (Rel.optional h "then" .verdict v) (Rel.optional h' "else" .verdict v)
  | .evaluated, v => R.bind (tests .verdict v) fun _ =>
      R.ite (R.bind (tests .evaluated v) fun _ => R.map _ (Rel.optional h "then" .evaluated v))
        (Rel.optional h' "else" .evaluated v)
  | .report, v => R.bind (tests .verdict v) fun _ =>
      R.ite (Rel.optional h "then" .report v) (Rel.optional h' "else" .report v)

theorem Rel.leftOver {beside : List ι} (h : ∀ s ∈ beside, Rel R (js s) (js' s)) {j : Judge m}
    {j' : Judge n} (inner : Rel R j j') (kind : PartKind) (v : Json) :
    R.rel (Judge.leftOver kind (beside.map js) j v)
      (Judge.leftOver kind (beside.map js') j' v) := by
  simp only [Judge.leftOver, collect_map]
  refine R.bind (R.collect fun s hs => h s hs .evaluated v) fun _ => ?_
  exact R.map _ (inner.acceptedAmong _)

theorem Rel.unevaluated {beside : List ι} (h : ∀ s ∈ beside, Rel R (js s) (js' s)) {j : Judge m}
    {j' : Judge n} (inner : Rel R j j') (kind : PartKind) :
    Rel R (Judge.unevaluated kind (beside.map js) j) (Judge.unevaluated kind (beside.map js') j')
  | .verdict, v => R.map _ (Rel.leftOver h inner kind v)
  | .evaluated, v => inner.acceptedAmong (kind.parts v)
  | .report, v => R.map _ (Rel.leftOver h inner kind v)

end Optional

end Keywords

end Judge

/-! ## Schemas -/

namespace JsonSchema

section Walks

variable {m : Type → Type} [Monad m] (refs : Reference → Judge m)

theorem judge_list (ss : List JsonSchema) : judge.list refs ss = ss.map (judge refs) := by
  induction ss with
  | nil => rfl
  | cons s rest ih => rw [judge.list, ih, List.map_cons]

theorem judge_optional (s? : Option JsonSchema) :
    judge.optional refs s? = s?.map (judge refs) := by
  cases s? <;> rfl

theorem judge_table (table : List (String × JsonSchema)) :
    judge.table refs table = table.map fun e => (e.1, e.2.judge refs) := by
  induction table with
  | nil => rfl
  | cons e rest ih => rw [judge.table, ih, List.map_cons]

end Walks

variable {m n : Type → Type} [Monad m] [Monad n] (R : Correspondence m n)

/-- The judges of a schema are related when the judges of the references that stand in it are. -/
theorem judge_rel {refs : Reference → Judge m} {refs' : Reference → Judge n} {s : JsonSchema}
    (h : ∀ r, s.RefersTo r → (refs r).Rel R (refs' r)) :
    (s.judge refs).Rel R (s.judge refs') := by
  induction s using children_induction with
  | step s ih =>
  replace ih : ∀ child ∈ s.children, (child.judge refs).Rel R (child.judge refs') :=
    fun child hc => ih child hc fun r hr => h r (hr.of_child hc)
  cases s with
  | always | unfit _ | never | assertion _ | covers _ =>
      intro q v
      cases q <;> exact R.pure _
  | reference keyword r => exact (h r ((refersTo_reference keyword r r).mpr rfl)).reference keyword
  | keywords parts =>
      simp only [judge, judge_list]
      exact .every ih
  | closed known patterns bare =>
      simp only [judge, judge_table]
      exact .closed ih bare
  | additional known patterns others =>
      simp only [judge, judge_table]
      exact .additional ih
  | allOf branches =>
      simp only [judge, judge_list]
      exact .allOf ih
  | anyOf branches =>
      simp only [judge, judge_list]
      exact .anyOf ih
  | oneOf branches =>
      simp only [judge, judge_list]
      exact .oneOf ih
  | contains evaluates quota element =>
      exact (ih element List.mem_cons_self).contains evaluates quota
  | conditional test met unmet =>
      simp only [judge, judge_optional]
      refine .conditional (ih test List.mem_cons_self) (fun s hs => ?_) fun s hs => ?_
      · exact ih s (List.mem_cons_of_mem _ (List.mem_append_left _ (Option.mem_toList.mpr hs)))
      · exact ih s (List.mem_cons_of_mem _ (List.mem_append_right _ (Option.mem_toList.mpr hs)))
  | items keyword skip element => exact (ih element List.mem_cons_self).items keyword skip
  | positional keyword elements =>
      simp only [judge, judge_list]
      exact .positional ih keyword
  | negation document inner => exact (ih inner List.mem_cons_self).negation document
  | dependent keyword key inner => exact (ih inner List.mem_cons_self).dependent keyword key
  | properties table =>
      simp only [judge, judge_table]
      exact .properties ih
  | patternProperties table =>
      simp only [judge, judge_table]
      exact .patternProperties ih
  | propertyNames name => exact (ih name List.mem_cons_self).propertyNames name.isNever
  | unevaluated kind beside inner =>
      simp only [judge, judge_list]
      refine .unevaluated (fun s hs => ih s (List.mem_append_left _ hs)) ?_ kind
      exact ih inner (List.mem_append_right _ List.mem_cons_self)

end JsonSchema

end SliceContract
