import SliceContract.JsonSchema.Basic

/-!
# What a schema depends on

A schema keeps the schemas inside it in lists, tables and options. The induction principle here
gives the hypothesis for every one of them. What stands between a schema and its use are its unfit
parts and its references.
-/

namespace SliceContract

/-- Something that stands between a schema and its use: an unfit part, or a reference to be
followed. -/
inductive Demand where
  | objection (o : Objection)
  | reference (r : Reference)
  deriving DecidableEq, Repr

def Demand.reference? : Demand → Option Reference
  | objection _ => none
  | reference r => some r

namespace JsonSchema

/-- What a schema depends on, in the order of its keywords. -/
def demands : JsonSchema → List Demand
  | always => []
  | never => []
  | unfit o => [.objection o]
  | keywords parts => list parts
  | assertion _ => []
  | reference _ r => [.reference r]
  | covers _ => []
  | closed known patterns _ => table patterns ++ table known
  | additional known patterns others => table patterns ++ table known ++ demands others
  | allOf branches => list branches
  | anyOf branches => list branches
  | oneOf branches => list branches
  | contains _ _ element => demands element
  | conditional test met unmet => demands test ++ optional met ++ optional unmet
  | items _ _ element => demands element
  | positional _ elements => list elements
  | negation _ inner => demands inner
  | dependent _ _ inner => demands inner
  | properties entries => table entries
  | patternProperties entries => table entries
  | propertyNames name => demands name
  | unevaluated _ beside inner => list beside ++ demands inner
where
  list : List JsonSchema → List Demand
    | [] => []
    | s :: rest => demands s ++ list rest
  optional : Option JsonSchema → List Demand
    | none => []
    | some s => demands s
  table : List (String × JsonSchema) → List Demand
    | [] => []
    | (_, s) :: rest => demands s ++ table rest

/-- The schemas directly inside a schema, in the order in which their demands are met. -/
def children : JsonSchema → List JsonSchema
  | always => []
  | never => []
  | unfit _ => []
  | keywords parts => parts
  | assertion _ => []
  | reference _ _ => []
  | covers _ => []
  | closed known patterns _ => patterns.map (·.2) ++ known.map (·.2)
  | additional known patterns others => patterns.map (·.2) ++ known.map (·.2) ++ [others]
  | allOf branches => branches
  | anyOf branches => branches
  | oneOf branches => branches
  | contains _ _ element => [element]
  | conditional test met unmet => test :: (met.toList ++ unmet.toList)
  | items _ _ element => [element]
  | positional _ elements => elements
  | negation _ inner => [inner]
  | dependent _ _ inner => [inner]
  | properties table => table.map (·.2)
  | patternProperties table => table.map (·.2)
  | propertyNames name => [name]
  | unevaluated _ beside inner => beside ++ [inner]

/-- What holds of a schema whenever it holds of its children holds of every schema. -/
theorem children_induction {motive : JsonSchema → Prop}
    (step : ∀ s, (∀ child ∈ s.children, motive child) → motive s) (s : JsonSchema) : motive s := by
  apply demands.induct (motive_1 := fun ss => ∀ s ∈ ss, motive s) (motive_2 := motive)
    (motive_3 := fun s? => ∀ s ∈ s?.toList, motive s)
    (motive_4 := fun table => ∀ s ∈ table.map (·.2), motive s)
  case case1 | case2 => exact step _ (List.forall_mem_nil _)
  case case3 | case5 | case7 => exact fun _ => step _ (List.forall_mem_nil _)
  case case6 => exact fun _ _ => step _ (List.forall_mem_nil _)
  case case4 | case10 | case11 | case12 | case19 | case20 => exact fun _ hs => step _ hs
  case case16 => exact fun _ _ hs => step _ hs
  case case21 => exact fun _ hs => step _ (List.forall_mem_singleton.mpr hs)
  case case17 => exact fun _ _ hs => step _ (List.forall_mem_singleton.mpr hs)
  case case13 | case15 | case18 =>
    exact fun _ _ _ hs => step _ (List.forall_mem_singleton.mpr hs)
  case case8 =>
    intro known patterns bare hp hk
    exact step _ (List.forall_mem_append.mpr ⟨hp, hk⟩)
  case case9 =>
    intro known patterns others hp hk ho
    exact step _ (List.forall_mem_append.mpr
      ⟨List.forall_mem_append.mpr ⟨hp, hk⟩, List.forall_mem_singleton.mpr ho⟩)
  case case14 =>
    intro test met unmet ht hm hu
    exact step _ (List.forall_mem_cons.mpr ⟨ht, List.forall_mem_append.mpr ⟨hm, hu⟩⟩)
  case case22 =>
    intro kind beside inner hb hi
    exact step _ (List.forall_mem_append.mpr ⟨hb, List.forall_mem_singleton.mpr hi⟩)
  -- The walks over lists, tables and options.
  case case23 | case25 | case27 => exact List.forall_mem_nil _
  case case24 => exact fun _ _ hs hrest => List.forall_mem_cons.mpr ⟨hs, hrest⟩
  case case26 => exact fun _ _ _ hs hrest => List.forall_mem_cons.mpr ⟨hs, hrest⟩
  case case28 => exact fun _ hs => List.forall_mem_singleton.mpr hs

theorem demands_list (ss : List JsonSchema) : demands.list ss = ss.flatMap demands := by
  induction ss with
  | nil => rfl
  | cons s rest ih => rw [demands.list, ih, List.flatMap_cons]

theorem demands_optional (s? : Option JsonSchema) :
    demands.optional s? = s?.toList.flatMap demands := by
  cases s? <;> simp [demands.optional]

theorem demands_table (table : List (String × JsonSchema)) :
    demands.table table = (table.map (·.2)).flatMap demands := by
  induction table with
  | nil => rfl
  | cons e rest ih => rw [demands.table, ih, List.map_cons, List.flatMap_cons]

/-- The demand that a schema makes itself. -/
def ownDemand? : JsonSchema → Option Demand
  | unfit o => some (.objection o)
  | reference _ r => some (.reference r)
  | _ => none

/-- A schema demands what it demands itself and what its children demand. -/
theorem demands_eq (s : JsonSchema) :
    s.demands = s.ownDemand?.toList ++ s.children.flatMap demands := by
  cases s <;> simp [demands, ownDemand?, children, demands_list, demands_optional, demands_table,
    List.append_assoc]

/-- Some reference in the schema is the given one. -/
def RefersTo (s : JsonSchema) (r : Reference) : Prop := .reference r ∈ s.demands

/-- No reference stands in the schema. -/
def ReferenceFree (s : JsonSchema) : Prop := ∀ r, ¬ s.RefersTo r

@[simp] theorem refersTo_reference (keyword : String) (r r' : Reference) :
    (reference keyword r).RefersTo r' ↔ r' = r := by
  simp [RefersTo, demands]

theorem RefersTo.of_child {s child : JsonSchema} {r : Reference} (hc : child ∈ s.children)
    (h : child.RefersTo r) : s.RefersTo r := by
  rw [RefersTo, demands_eq]
  exact List.mem_append_right _ (List.mem_flatMap_of_mem hc h)

theorem ReferenceFree.child {s child : JsonSchema} (free : s.ReferenceFree)
    (hc : child ∈ s.children) : child.ReferenceFree :=
  fun r h => free r (h.of_child hc)

end JsonSchema

end SliceContract
