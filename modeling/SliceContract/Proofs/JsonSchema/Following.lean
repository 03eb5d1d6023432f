import SliceContract.JsonSchema.Compiled

/-!
# Following references

What a reference means is found by following the references in the schema that it names, and so on.
Whatever answer there is has been found after finitely many of them. The main statement is
`Compiled.answer_eq_some_iff`; it makes what holds of all references provable by induction on how
many are followed into each other.
-/

namespace SliceContract

/-! ## What all judges have -/

namespace Judge

variable {m : Type → Type} [Monad m]

/-- A property of judges that every keyword keeps. -/
structure Kept (P : Judge m → Prop) : Prop where
  always : P always
  never : P never
  assertion : ∀ a, P (assertion a)
  every : ∀ {js}, (∀ j ∈ js, P j) → P (every js)
  reference : ∀ {j} keyword, P j → P (reference keyword j)
  covers : ∀ kind, P (covers kind)
  closed : ∀ {known patterns : List (String × Judge m)} bare,
    (∀ j ∈ patterns.map (·.2) ++ known.map (·.2), P j) → P (closed known patterns bare)
  additional : ∀ {known patterns : List (String × Judge m)} {others},
    (∀ j ∈ patterns.map (·.2) ++ known.map (·.2) ++ [others], P j) →
      P (additional known patterns others)
  allOf : ∀ {js}, (∀ j ∈ js, P j) → P (allOf js)
  anyOf : ∀ {js}, (∀ j ∈ js, P j) → P (anyOf js)
  oneOf : ∀ {js}, (∀ j ∈ js, P j) → P (oneOf js)
  contains : ∀ {j} evaluates quota, P j → P (contains evaluates quota j)
  conditional : ∀ {test met unmet}, P test → (∀ j ∈ met, P j) → (∀ j ∈ unmet, P j) →
    P (conditional test met unmet)
  items : ∀ {j} keyword skip, P j → P (items keyword skip j)
  positional : ∀ {js} keyword, (∀ j ∈ js, P j) → P (positional keyword js)
  negation : ∀ {j} document, P j → P (negation document j)
  dependent : ∀ {j} keyword key, P j → P (dependent keyword key j)
  properties : ∀ {table : List (String × Judge m)}, (∀ j ∈ table.map (·.2), P j) →
    P (properties table)
  patternProperties : ∀ {table : List (String × Judge m)}, (∀ j ∈ table.map (·.2), P j) →
    P (patternProperties table)
  /-- A judge of names that is taken to refuse all of them does so. -/
  propertyNames : ∀ {j refusesAll}, P j → (refusesAll = true → j = Judge.never) →
    P (propertyNames refusesAll j)
  unevaluated : ∀ {beside j} kind, (∀ j ∈ beside, P j) → P j → P (unevaluated kind beside j)

end Judge

/-- A property that every keyword keeps is had by the judge of a schema if it is had by those of its
references. -/
theorem JsonSchema.judge_of_kept {m : Type → Type} [Monad m] {P : Judge m → Prop}
    (kept : Judge.Kept P) {refs : Reference → Judge m} (h : ∀ r, P (refs r)) (s : JsonSchema) :
    P (s.judge refs) := by
  induction s using children_induction with
  | step s ih =>
  have list {ss : List JsonSchema} (hs : ∀ s ∈ ss, P (s.judge refs)) :
      ∀ j ∈ judge.list refs ss, P j := by
    rw [judge_list]
    exact List.forall_mem_map.mpr hs
  have table {entries : List (String × JsonSchema)}
      (hs : ∀ s ∈ entries.map (·.2), P (s.judge refs)) :
      ∀ j ∈ (judge.table refs entries).map (·.2), P j := by
    rw [judge_table, List.map_map]
    exact List.forall_mem_map.mpr fun e he => hs e.2 (List.mem_map_of_mem he)
  have optional {s? : Option JsonSchema} (hs : ∀ s ∈ s?.toList, P (s.judge refs)) :
      ∀ j ∈ judge.optional refs s?, P j := by
    rw [judge_optional]
    intro j hj
    obtain ⟨s, found, rfl⟩ := Option.map_eq_some_iff.mp hj
    exact hs s (Option.mem_toList.mpr found)
  cases s with
  | always | unfit _ => exact kept.always
  | never => exact kept.never
  | covers kind => exact kept.covers kind
  | assertion a => exact kept.assertion a
  | reference keyword r => exact kept.reference keyword (h r)
  | keywords parts => exact kept.every (list ih)
  | closed known patterns bare =>
      obtain ⟨hp, hk⟩ := List.forall_mem_append.mp ih
      exact kept.closed bare (List.forall_mem_append.mpr ⟨table hp, table hk⟩)
  | additional known patterns others =>
      obtain ⟨named, ho⟩ := List.forall_mem_append.mp ih
      obtain ⟨hp, hk⟩ := List.forall_mem_append.mp named
      refine kept.additional (List.forall_mem_append.mpr ⟨?_, ?_⟩)
      · exact List.forall_mem_append.mpr ⟨table hp, table hk⟩
      · exact List.forall_mem_singleton.mpr (ho others List.mem_cons_self)
  | allOf branches => exact kept.allOf (list ih)
  | anyOf branches => exact kept.anyOf (list ih)
  | oneOf branches => exact kept.oneOf (list ih)
  | contains evaluates quota element =>
      exact kept.contains evaluates quota (ih element List.mem_cons_self)
  | conditional test met unmet =>
      obtain ⟨ht, inner⟩ := List.forall_mem_cons.mp ih
      obtain ⟨hm, hu⟩ := List.forall_mem_append.mp inner
      exact kept.conditional ht (optional hm) (optional hu)
  | items keyword skip element => exact kept.items keyword skip (ih element List.mem_cons_self)
  | positional keyword elements => exact kept.positional keyword (list ih)
  | negation document inner => exact kept.negation document (ih inner List.mem_cons_self)
  | dependent keyword key inner =>
      exact kept.dependent keyword key (ih inner List.mem_cons_self)
  | properties entries => exact kept.properties (table ih)
  | patternProperties entries => exact kept.patternProperties (table ih)
  | propertyNames name =>
      refine kept.propertyNames (ih name List.mem_cons_self) fun refuses => ?_
      cases name with
      | never => rfl
      | _ => cases refuses
  | unevaluated kind beside inner =>
      obtain ⟨hb, hi⟩ := List.forall_mem_append.mp ih
      exact kept.unevaluated kind (list hb) (hi inner List.mem_cons_self)

/-! ## References one after another -/

/-- A computation whose results are kept when the limit is raised, and reach those of another
one. -/
def reaching : Correspondence Option (ReaderT Nat Option) where
  rel x y := (∀ k n, k ≤ n → ∀ a, y k = some a → y n = some a) ∧
    ∀ a, x = some a → ∃ n, y n = some a
  pure a := ⟨fun _ _ _ _ h => h, fun _ h => ⟨0, h⟩⟩
  bind := by
    rintro α β x y f g ⟨kept, reached⟩ hf
    constructor
    · intro k n le b h
      obtain ⟨a, ha, hb⟩ := Option.bind_eq_some_iff.mp h
      exact Option.bind_eq_some_iff.mpr ⟨a, kept k n le a ha, (hf a).1 k n le b hb⟩
    · intro b h
      obtain ⟨a, ha, hb⟩ := Option.bind_eq_some_iff.mp h
      obtain ⟨n, hn⟩ := reached a ha
      obtain ⟨k, hk⟩ := (hf a).2 b hb
      -- One limit for both steps.
      exact ⟨max n k, Option.bind_eq_some_iff.mpr
        ⟨a, kept n _ (Nat.le_max_left n k) a hn, (hf a).1 k _ (Nat.le_max_right n k) b hk⟩⟩

/-- The computation under one limit. -/
def limited (n : Nat) : Correspondence (ReaderT Nat Option) Option where
  rel y x := y n = x
  pure _ := rfl
  bind := by
    rintro α β y x f g rfl hf
    change (y n >>= fun a => f a n) = _
    exact congrArg (y n >>= ·) (funext hf)

namespace Compiled

variable (c : Compiled)

/-- What a reference means when at most `limit` references are followed into each other. -/
def within : Nat → Reference → Judge Option
  | 0, _ => fun _ _ => none
  | limit + 1, r => (c.target r).judge (within limit)

/-- A reference is answered by the schema that it names. -/
theorem answer_eq (r : Reference) : c.answer r = (c.target r).judge c.answer := by
  funext q v
  exact Compiled.answer.eq_1 c r q v

/-- Following references once more loses no answers. -/
theorem within_succ (n : Nat) (r : Reference) :
    (c.within n r).Rel extending (c.within (n + 1) r) := by
  induction n generalizing r with
  | zero => exact fun _ _ _ h => nomatch h
  | succ n ih => exact JsonSchema.judge_rel extending fun r _ => ih r

/-- Following more references loses no answers. -/
theorem within_le {k n : Nat} (le : k ≤ n) (r : Reference) :
    (c.within k r).Rel extending (c.within n r) := by
  induction le with
  | refl => exact fun _ _ _ h => h
  | step _ ih => exact fun q v a h => c.within_succ _ r q v a (ih q v a h)

/-- What is found by following some references is the answer. -/
theorem within_answer (n : Nat) (r : Reference) : (c.within n r).Rel extending (c.answer r) := by
  induction n generalizing r with
  | zero => exact fun _ _ _ h => nomatch h
  | succ n ih =>
      rw [answer_eq]
      exact JsonSchema.judge_rel extending fun r _ => ih r

/-- An answer has been found after finitely many references. -/
theorem answer_eq_some_iff {r : Reference} {q : Question} {v : Json} {a : q.Answer} :
    c.answer r q v = some a ↔ ∃ n, c.within n r q v = some a := by
  refine ⟨?_, fun ⟨n, h⟩ => c.within_answer n r q v a h⟩
  refine Compiled.answer.partial_correctness c
    (fun r q v a => ∃ n, c.within n r q v = some a) (fun f found r q v a h => ?_) r q v a
  let stages (r : Reference) : Judge (ReaderT Nat Option) := fun q v n => c.within n r q v
  have reached : ∀ r, Judge.Rel reaching (f r) (stages r) := fun r q v =>
    ⟨fun _ _ le a h => c.within_le le r q v a h, found r q v⟩
  obtain ⟨n, hn⟩ := (JsonSchema.judge_rel reaching (s := c.target r)
    (fun r _ => reached r) q v).2 a h
  refine ⟨n + 1, hn ▸ ?_⟩
  have stage : ∀ r, Judge.Rel (limited n) (stages r) (c.within n r) := fun _ _ _ => rfl
  exact (JsonSchema.judge_rel (limited n) (s := c.target r) (fun r _ => stage r) q v).symm

/-- A judgement that is reached after finitely many references is the one of the document. -/
theorem judge_of_within {n : Nat} {s : JsonSchema} {q : Question} {v : Json} {a : q.Answer}
    (h : s.judge (c.within n) q v = some a) : s.judge c.answer q v = some a :=
  JsonSchema.judge_rel extending (fun r _ => c.within_answer n r) q v a h

variable {c} in
theorem accepts_of_within {n : Nat} {v : Json} {b : Bool}
    (h : c.root.read.accepts (c.within n) v = some b) : c.accepts v = some b :=
  c.judge_of_within h

variable {c} in
theorem failures_of_within {n : Nat} {v : Json} {fs : List Failure}
    (h : c.root.read.failures (c.within n) v = some fs) : c.failures v = some fs :=
  c.judge_of_within h

/-- A property that every keyword keeps is had by a reference, as far as it is followed. -/
theorem within_of_kept {P : Judge Option → Prop} (kept : Judge.Kept P)
    (unanswered : P fun _ _ => none) (n : Nat) (r : Reference) : P (c.within n r) := by
  induction n generalizing r with
  | zero => exact unanswered
  | succ n ih => exact JsonSchema.judge_of_kept kept ih (c.target r)

end Compiled

end SliceContract
