import Mathlib.Data.List.Basic
import SliceContract.JsonSchema.Compiled
import SliceContract.Proofs.Entries

/-!
# Judges that always answer

Where no reference is followed a judge has an answer, and it is the one that is found without a
monad. There the combinations of judges are the usual operations on lists.
-/

namespace SliceContract

theorem all_congr_mem {α : Type*} {xs : List α} {p q : α → Bool}
    (h : ∀ x ∈ xs, p x = q x) : xs.all p = xs.all q := by
  rw [Bool.eq_iff_iff, List.all_eq_true, List.all_eq_true]
  constructor
  · intro hp x hx
    exact h x hx ▸ hp x hx
  · intro hq x hx
    exact (h x hx).symm ▸ hq x hx

theorem all_and {α : Type*} (xs : List α) (p q : α → Bool) :
    (xs.all fun x => p x && q x) = (xs.all p && xs.all q) := by
  rw [Bool.eq_iff_iff, Bool.and_eq_true, List.all_eq_true, List.all_eq_true, List.all_eq_true,
    ← forall₂_and]
  simp only [Bool.and_eq_true]

/-! ## Lists -/

section Lists

variable {α β : Type}

theorem allM_id (p : α → Bool) (xs : List α) : xs.allM (m := Id) p = xs.all p := by
  induction xs with
  | nil => rfl
  | cons x rest ih =>
      rw [List.all_cons, ← ih]
      change (match p x with
        | true => rest.allM (m := Id) p
        | false => false) = _
      cases p x <;> rfl

theorem collect_id (f : α → List β) (xs : List α) : collect (m := Id) f xs = xs.flatMap f := by
  induction xs with
  | nil => rfl
  | cons x rest ih =>
      rw [List.flatMap_cons, ← ih]
      rfl

end Lists

/-! ## Correspondences -/

/-- The first computation has an answer, which is the value. -/
def answering : Correspondence Option Id where
  rel x a := x = some a
  pure _ := rfl
  bind := by
    rintro α β x a f g rfl hf
    exact hf a

/-- The value is the answer of the computation, if that has one. -/
def completing : Correspondence Option Id where
  rel x a := ∀ b, x = some b → b = a
  pure a b h := (Option.some.inj h).symm
  bind := by
    intro α β x a f g hx hf b h
    obtain ⟨a', ha, hb⟩ := Option.bind_eq_some_iff.mp h
    obtain rfl := hx a' ha
    exact hf a' b hb

/-- The computations are the same. -/
def same (m : Type → Type) [Monad m] : Correspondence m m where
  rel := Eq
  pure _ := rfl
  bind := by
    rintro α β x _ f g rfl hf
    exact congrArg (x >>= ·) (funext hf)

/-- A judge with answers of its own choice where another has none. -/
def Judge.completed (j : Judge Option) : Judge Id := fun q v => (j q v).getD default

/-- A completed judge gives every answer that the judge gives. -/
theorem Judge.completed_rel (j : Judge Option) : j.Rel completing j.completed := by
  intro q v a h
  rw [completed, h, Option.getD_some]

namespace JsonSchema

/-- Readings of the references that agree on those that stand in a schema give it the same judge. -/
theorem judge_congr {m : Type → Type} [Monad m] {refs refs' : Reference → Judge m}
    {s : JsonSchema} (h : ∀ r, s.RefersTo r → refs r = refs' r) : s.judge refs = s.judge refs' := by
  funext q v
  exact judge_rel (same m) (fun r hr q v => congrFun (congrFun (h r hr) q) v) q v

/-- A schema without references always answers, and whatever references would mean. -/
theorem ReferenceFree.judge_eq_some {s : JsonSchema} (free : s.ReferenceFree)
    (refs : Reference → Judge Option) (refs' : Reference → Judge Id) (q : Question) (v : Json) :
    s.judge refs q v = some (s.judge refs' q v) :=
  judge_rel answering (fun r hr => absurd hr (free r)) q v

/-- If a schema has an answer, it is the one that is found when all references have answers. -/
theorem eq_judge_completed {s : JsonSchema} {refs : Reference → Judge Option} {q : Question}
    {v : Json} {a : q.Answer} (h : s.judge refs q v = some a) :
    a = s.judge (fun r => (refs r).completed) q v :=
  judge_rel completing (fun r _ => (refs r).completed_rel) q v a h

/-! ## Keywords when every reference has an answer -/

section Answered

variable (refs : Reference → Judge Id)

/-- Whether a value is accepted, when every reference has an answer. -/
def passes (s : JsonSchema) (v : Json) : Bool := s.accepts refs v

/-- Everything that is wrong with a value, when every reference has an answer. -/
def flaws (s : JsonSchema) (v : Json) : List Failure := s.failures refs v

theorem passes_keywords (parts : List JsonSchema) (v : Json) :
    (keywords parts).passes refs v = parts.all fun s => s.passes refs v := by
  refine (allM_id _ _).trans ?_
  rw [judge_list, List.all_map]
  rfl

theorem passes_allOf (branches : List JsonSchema) (v : Json) :
    (allOf branches).passes refs v = branches.all fun s => s.passes refs v :=
  passes_keywords refs branches v

theorem passes_items (keyword : String) (skip : Nat) (element : JsonSchema) (v : Json) :
    (items keyword skip element).passes refs v =
      (v.elements.drop skip).all fun x => element.passes refs x :=
  allM_id _ _

theorem passes_properties (table : List (String × JsonSchema)) (v : Json) :
    (properties table).passes refs v = table.all fun e =>
      match v.get? e.1 with
      | some x => e.2.passes refs x
      | none => true := by
  refine (allM_id _ _).trans ?_
  rw [judge_table, List.all_map]
  rfl

theorem flaws_keywords (parts : List JsonSchema) (v : Json) :
    (keywords parts).flaws refs v = parts.flatMap fun s => s.flaws refs v := by
  refine (collect_id _ _).trans ?_
  rw [judge_list, List.flatMap_map]
  rfl

theorem flaws_allOf (branches : List JsonSchema) (v : Json) :
    (allOf branches).flaws refs v = branches.zipIdx.flatMap fun e =>
      (e.1.flaws refs v).map (.under [] [.member "allOf", .element e.2]) := by
  refine (collect_id _ _).trans ?_
  rw [judge_list, List.zipIdx_map, List.flatMap_map]
  rfl

theorem flaws_items (keyword : String) (skip : Nat) (element : JsonSchema) (v : Json) :
    (items keyword skip element).flaws refs v =
      ((v.elements.drop skip).zipIdx skip).flatMap fun e =>
        (element.flaws refs e.1).map (.under [.element e.2] [.member keyword]) :=
  collect_id _ _

/-- The flaws under `properties` come in the order of the schema, not of the value. -/
theorem flaws_properties (table : List (String × JsonSchema)) (v : Json) :
    (properties table).flaws refs v = table.flatMap fun e =>
      match v.get? e.1 with
      | some x =>
        (e.2.flaws refs x).map (.under [.member e.1] [.member "properties", .member e.1])
      | none => [] := by
  refine (collect_id _ _).trans ?_
  rw [judge_table, List.flatMap_map]
  rfl

end Answered

end JsonSchema

end SliceContract
