import Mathlib.Data.List.Basic
import SliceContract.Proofs.JsonSchema.Following

/-!
# Where failures come from

A failure is raised by a keyword about the value at hand, and is then seen from further out: from
the object or the array around that value, from an object whose key it is, or from a schema around
the keyword. What these steps keep is had by all failures of a schema. The main statement is
`Compiled.carried_failures`.
-/

namespace SliceContract

/-- The causes that are given by keywords with schemas inside them. -/
def Cause.Composite : Cause → Prop
  | unexpectedKeys _ | unevaluatedItems _ | unevaluatedKeys _ => True
  | severalBranches | forbidden _ | noneContained | neverAllowed => True
  | noBranch keyword => keyword ∈ ["anyOf", "oneOf"]
  | _ => False

/-- A relation between values and failures that holds of the failures that keywords raise, and
further out when it holds further in. -/
structure Carried (p : Json → Failure → Prop) : Prop where
  asserted : ∀ (a : Assertion) v, ∀ f ∈ a.failures v, p v f
  raised : ∀ {v l} {o : Objection}, o.cause.Composite → p v ⟨[], l, o⟩
  here : ∀ {v f l}, p v f → p v (f.under [] l)
  member : ∀ {v f l} {m : String × Json}, m ∈ v.members → p m.2 f → p v (f.under [.member m.1] l)
  element : ∀ {xs f l i x}, xs[i]? = some x → p x f → p (.array xs) (f.under [.element i] l)
  name : ∀ {v f l key}, p (.string key) f → p v (f.under [] l)

/-- Whether a relation holds between a value and each of the failures that are reported on it, if
there is a report. -/
def Each (p : Json → Failure → Prop) (v : Json) (report : Option (List Failure)) : Prop :=
  ∀ fs, report = some fs → ∀ f ∈ fs, p v f

namespace Each

variable {p : Json → Failure → Prop} {v : Json}

theorem pure {fs : List Failure} (h : ∀ f ∈ fs, p v f) : Each p v (some fs) :=
  fun _ same => Option.some.inj same ▸ h

theorem nil : Each p v (some []) := .pure (List.forall_mem_nil _)

theorem ite {c : Prop} [Decidable c] {x y : Option (List Failure)} (hx : Each p v x)
    (hy : Each p v y) : Each p v (if c then x else y) := by
  split
  · exact hx
  · exact hy

/-- Whatever the first step leads to. -/
theorem bind {α : Type} {x : Option α} {f : α → Option (List Failure)}
    (h : ∀ a, x = some a → Each p v (f a)) : Each p v (x >>= f) := by
  intro fs hfs
  obtain ⟨a, ha, hf⟩ := Option.bind_eq_some_iff.mp hfs
  exact h a ha fs hf

theorem collect {α : Type} {xs : List α} {f : α → Option (List Failure)}
    (h : ∀ x ∈ xs, Each p v (f x)) : Each p v (collect f xs) := by
  induction xs with
  | nil => exact .nil
  | cons x rest ih =>
      refine .bind fun first hfirst => .bind fun others hothers => .pure ?_
      refine List.forall_mem_append.mpr ⟨h x List.mem_cons_self first hfirst, ?_⟩
      exact ih (fun y hy => h y (List.mem_cons_of_mem _ hy)) others hothers

end Each

/-! ## Judges -/

namespace Judge

/-- Whether a relation holds between every value and the failures that a judge reports on it. -/
def Raises (p : Json → Failure → Prop) (j : Judge Option) : Prop := ∀ v, Each p v (j .report v)

variable {p : Json → Failure → Prop} (h : Carried p)

include h

section One

variable {j : Judge Option} (hj : j.Raises p)

include hj

theorem Raises.here (l : Location) (v : Json) : Each p v (j.reportAt [] l v) :=
  .bind fun fs hfs => .pure (List.forall_mem_map.mpr fun f hf => h.here (hj v fs hfs f hf))

/-- What is found at a member is found there in the value. -/
theorem Raises.member (l : Location) {v : Json} {m : String × Json} (hm : m ∈ v.members) :
    Each p v (j.reportAt [.member m.1] l m.2) :=
  .bind fun fs hfs => .pure (List.forall_mem_map.mpr fun f hf => h.member hm (hj m.2 fs hfs f hf))

theorem Raises.element (l : Location) {v x : Json} {i : Nat} (hx : v.elements[i]? = some x) :
    Each p v (j.reportAt [.element i] l x) := by
  cases v with
  | array xs =>
      exact .bind fun fs hfs => .pure (List.forall_mem_map.mpr fun f hf =>
        h.element hx (hj x fs hfs f hf))
  | _ => cases hx

/-- What is found in the name of a member is found at the value itself. -/
theorem Raises.name (l : Location) (v : Json) (key : String) :
    Each p v (j.reportAt [] l (.string key)) :=
  .bind fun fs hfs => .pure (List.forall_mem_map.mpr fun f hf => h.name (hj _ fs hfs f hf))

end One

/-- A keyword that raises at most one failure, for one of the composite causes. -/
theorem raises_own {v : Json} {fs : List Failure}
    (composite : ∀ f ∈ fs, f.instancePath = [] ∧ f.objection.cause.Composite) :
    Each p v (some fs) :=
  .pure fun f hf => by
    obtain ⟨whole, hc⟩ := composite f hf
    obtain ⟨i, l, o⟩ := f
    cases whole
    exact h.raised hc

variable {js : List (Judge Option)} {table known patterns : List (String × Judge Option)}

omit h in
theorem raises_every (hjs : ∀ j ∈ js, j.Raises p) : (every js).Raises p :=
  fun v => .collect fun j hj => hjs j hj v

theorem raises_allOf (hjs : ∀ j ∈ js, j.Raises p) : (allOf js).Raises p :=
  fun v => .collect fun e he => (hjs e.1 (List.fst_mem_of_mem_zipIdx he)).here h _ v

theorem raises_positional (hjs : ∀ j ∈ js, j.Raises p) (keyword : String) :
    (positional keyword js).Raises p := by
  refine fun v => .collect fun e he => ?_
  have found := List.mk_mem_zipIdx_iff_getElem?.mp he
  obtain ⟨listed, found⟩ := List.getElem?_zip_eq_some.mp found
  exact (hjs e.1.1 (List.mem_of_getElem? listed)).element h _ found

/-- `anyOf` raises its own failure only. -/
theorem raises_anyOf (js : List (Judge Option)) : (anyOf js).Raises p := by
  refine fun v => .bind fun b _ => raises_own h ?_
  cases b <;> simp [Failure.own, Cause.Composite]

theorem raises_oneOf (js : List (Judge Option)) : (oneOf js).Raises p := by
  refine fun v => .bind fun count _ => raises_own h ?_
  match count with
  | 0 | 1 | _ + 2 => simp [Failure.own, Cause.Composite]

theorem raises_properties (ht : ∀ j ∈ table.map (·.2), j.Raises p) :
    (properties table).Raises p := by
  refine fun v => .collect fun ⟨name, j⟩ he => ?_
  dsimp only
  cases hx : v.get? name with
  | none => exact .nil
  | some x =>
      have held : (name, x) ∈ v.members := Entries.mem_of_lookup hx
      exact (ht j (List.mem_map_of_mem he)).member h _ held

theorem raises_patternProperties (ht : ∀ j ∈ table.map (·.2), j.Raises p) :
    (patternProperties table).Raises p :=
  fun _ => .collect fun e he => .collect fun _ hm =>
    (ht e.2 (List.mem_map_of_mem he)).member h _ (List.mem_filter.mp hm).1

theorem raises_found {found : List (Location × Judge Option)} (hf : ∀ e ∈ found, e.2.Raises p)
    {v : Json} {m : String × Json} (hm : m ∈ v.members) :
    Each p v (collect (fun e => e.2.reportAt [.member m.1] e.1 m.2) found) :=
  .collect fun e he => (hf e he).member h _ hm

/-- Members that are refused are reported together, at the value itself. -/
theorem raises_closed (hs : ∀ j ∈ patterns.map (·.2) ++ known.map (·.2), j.Raises p) (bare : Bool) :
    (closed known patterns bare).Raises p := by
  refine fun v => .bind fun inside hin => .pure (List.forall_mem_append.mpr ⟨?_, ?_⟩)
  · exact Each.collect (fun m hm => raises_found h
      (fun e he => hs e.2 (snd_mem_of_mem_forName he)) hm) inside hin
  · refine raises_own h (fun f hf => ?_) _ rfl
    rw [refusal.eq_def] at hf
    split at hf
    · cases hf
    · cases List.mem_singleton.mp hf
      exact ⟨rfl, trivial⟩
    · cases List.mem_singleton.mp hf
      exact ⟨rfl, trivial⟩

theorem raises_additional {others : Judge Option}
    (hs : ∀ j ∈ patterns.map (·.2) ++ known.map (·.2) ++ [others], j.Raises p) :
    (additional known patterns others).Raises p :=
  fun _ => .collect fun _ hm => raises_found h
    (fun e he => hs e.2 (snd_mem_of_mem_forNameOrElse he)) hm

theorem raises_contains (evaluates : Bool) (quota : Quota) (j : Judge Option) :
    (contains evaluates quota j).Raises p := by
  intro v
  cases v with
  | array xs =>
      refine .bind fun keyword _ => raises_own h ?_
      cases keyword <;> simp [Failure.own, Cause.Composite]
  | _ => exact .nil

/-- A negation raises its own failure only. -/
theorem raises_negation (document : Json) (j : Judge Option) : (negation document j).Raises p := by
  refine fun v => .bind fun b _ => raises_own h ?_
  cases b <;> simp [Failure.own, Cause.Composite]

theorem raises_unevaluated (kind : PartKind) (beside : List (Judge Option)) (j : Judge Option) :
    (unevaluated kind beside j).Raises p := by
  refine fun v => .bind fun parts _ => raises_own h ?_
  cases parts <;> cases kind <;> simp [Failure.own, PartKind.unevaluatedCause, Cause.Composite]

theorem raises_optional {j? : Option (Judge Option)} (hj : ∀ j ∈ j?, j.Raises p)
    (keyword : String) : (optional keyword j?).Raises p := by
  cases j? with
  | none => exact fun _ => .nil
  | some j => exact (hj j rfl).here h _

theorem raises_conditional (test : Judge Option) {met unmet : Option (Judge Option)}
    (hm : ∀ j ∈ met, j.Raises p) (hu : ∀ j ∈ unmet, j.Raises p) :
    (conditional test met unmet).Raises p := fun v =>
  .bind fun _ _ => .ite (raises_optional h hm "then" v) (raises_optional h hu "else" v)

section One

variable {j : Judge Option} (hj : j.Raises p)

include hj

theorem Raises.items (keyword : String) (skip : Nat) : (items keyword skip j).Raises p := by
  refine fun v => .collect fun e he => ?_
  obtain ⟨past, found⟩ := List.mk_mem_zipIdx_iff_le_and_getElem?_sub.mp he
  rw [List.getElem?_drop, Nat.add_sub_cancel' past] at found
  exact hj.element h _ found

theorem Raises.dependent (keyword key : String) : (dependent keyword key j).Raises p :=
  fun v => .ite (hj.here h _ v) .nil

/-- What is found in names is shown in one failure of `propertyNames`. -/
theorem Raises.propertyNames (refusesAll : Bool) : (propertyNames refusesAll j).Raises p := by
  refine fun v => .ite (raises_own h ?_) (.collect fun m _ => hj.name h _ v m.1)
  cases v.members <;> simp [Failure.own, Cause.Composite]

end One

/-- All judges have it of the failures that they report if keywords establish it and it is kept
further out. -/
theorem kept_raises : Kept (Raises p) where
  always _ := .nil
  never _ := raises_own h (List.forall_mem_singleton.mpr ⟨rfl, trivial⟩)
  assertion a v := .pure (h.asserted a v)
  every := raises_every
  reference _ hj := hj.here h _
  covers _ _ := .nil
  closed bare hs := raises_closed h hs bare
  additional := raises_additional h
  allOf := raises_allOf h
  anyOf _ := raises_anyOf h _
  oneOf _ := raises_oneOf h _
  contains evaluates quota _ := raises_contains h evaluates quota _
  conditional _ := raises_conditional h _
  items keyword skip hj := hj.items h keyword skip
  positional keyword hjs := raises_positional h hjs keyword
  negation document _ := raises_negation h document _
  dependent keyword key hj := hj.dependent h keyword key
  properties := raises_properties h
  patternProperties := raises_patternProperties h
  propertyNames hj _ := hj.propertyNames h _
  unevaluated kind _ _ := raises_unevaluated h kind _ _

end Judge

/-! ## Compiled documents -/

namespace Compiled

variable {p : Json → Failure → Prop} (h : Carried p) (c : Compiled)

include h

/-- References raise what the schemas raise that they name. -/
theorem raises_answer (r : Reference) : Judge.Raises p (c.answer r) := by
  intro v fs hfs
  obtain ⟨n, hn⟩ := c.answer_eq_some_iff.mp hfs
  exact c.within_of_kept (Judge.kept_raises h) (fun _ _ none => nomatch none) n r v fs hn

/-- What keywords establish and what is kept further out is had by all failures of a document. -/
theorem carried_failures {v : Json} {fs : List Failure} (report : c.failures v = some fs) :
    ∀ f ∈ fs, p v f :=
  JsonSchema.judge_of_kept (Judge.kept_raises h) (c.raises_answer h) _ v fs report

end Compiled

end SliceContract
