import Mathlib.Data.List.Basic
import SliceContract.Engine.Term
import SliceContract.Proofs.Slice.Lowering
import SliceContract.Schema

/-!
# One lowering for all engines

A lowering uses its engine by the combinators alone: it looks into no validator, and what the data
fields carry goes in as it is. So a function that commutes with the combinators of two engines
commutes with the lowering, and a slice that is lowered to a term is lowered through every engine
at once. The main statement is `lower_natural`.
-/

namespace SliceContract

section Engines

variable {m : Type → Type} [Monad m] {V W : Type}

/-- A function that takes the combinators of one engine to those of another. -/
structure Engine.Hom (E : Engine m V) (F : Engine m W) (h : V → W) : Prop where
  string : h <$> E.string = F.string
  object : ∀ fields, h <$> E.object fields = F.object (fields.map fun f => (f.1, h f.2))
  array : ∀ element, h <$> E.array element = F.array (h element)
  allOf : ∀ operands, h <$> E.allOf operands = F.allOf (operands.map h)
  never : h <$> E.never = F.never

variable {E : Engine m V} {F : Engine m W} {h : V → W}

/-- A single member stays a single member. -/
theorem Engine.Hom.member (hom : E.Hom F h) (key : String) (v : V) :
    h <$> E.object [(key, v)] = F.object [(key, h v)] := hom.object [(key, v)]

variable [LawfulMonad m]

/-- A homomorphism may be applied before or after merging, an empty merge included. -/
theorem Engine.Hom.merge (hom : E.Hom F h) (vs : List V) :
    h <$> E.merge vs = F.merge (vs.map h) := by
  match vs with
  | [] => exact hom.never
  | [only] => exact map_pure h only
  | first :: second :: rest => exact hom.allOf ⟨first, second :: rest⟩

namespace Slice

theorem map_object (f : V → W) (key : String) (children : NonEmpty (Slice V)) :
    (object key children).map f = object key (children.map (map f)) := by
  have all (slices : List (Slice V)) : map.mapAll f slices = slices.map (map f) := by
    induction slices with
    | nil => rfl
    | cons slice rest ih => rw [map.mapAll, ih, List.map_cons]
  rw [map, all]
  rfl

theorem auxiliary_map (f : V → W) (others : NonEmpty (String × V)) :
    auxiliary (others.map fun (key, v) => (key, f v)) = (auxiliary others).map (Field.map f) := by
  simp only [auxiliary, NonEmpty.toList_map, List.map_map]
  rfl

/-! ## What does not depend on the schemas -/

theorem key_map (f : V → W) (field : Field V) : (field.map f).key = field.key := by
  cases field <;> rfl

theorem kind_leaf_map (f : V → W) (field : Field V) :
    (leaf (field.map f)).kind = (leaf field).kind := by
  cases field <;> rfl

/-- Schemas have no influence on the keys. -/
theorem fieldKeys_map (f : V → W) (slice : Slice V) :
    (slice.map f).fieldKeys = slice.fieldKeys := by
  cases slice with
  | leaf field => exact congrArg (fun key => [key]) (key_map f field)
  | multi main others =>
      simp only [map, fieldKeys, key_map, NonEmpty.toList_map, List.map_map]
      rfl
  | array key child => rfl
  | object key children => rfl

/-- Schemas have no influence on which keys are shared. -/
theorem duplicateKeys_map (f : V → W) (slice : Slice V) :
    (slice.map f).duplicateKeys = slice.duplicateKeys := by
  cases slice with
  | leaf field => rfl
  | multi main others => exact congrArg repeats (fieldKeys_map f (multi main others))
  | array key child => rfl
  | object key children =>
      rw [map_object, duplicateKeys, duplicateKeys, NonEmpty.toList_map, List.flatMap_map]
      exact congrArg repeats (List.flatMap_congr fun child _ => fieldKeys_map f child)

/-! ## Naturality -/

/-- A homomorphism may be applied before or after lowering a field. -/
theorem map_lowerField (hom : E.Hom F h) (field : Field V) :
    h <$> lowerField E field = lowerField F (field.map h) := by
  cases field with
  | text key =>
      have text :
          lowerField F (.text key) = F.string >>= fun value => F.object [(key, value)] := rfl
      rw [Field.map, text, ← hom.string, lowerField, map_bind, bind_map_left]
      exact bind_congr fun value => hom.member key value
  | data key v => exact hom.member key v

theorem map_lowerFields (hom : E.Hom F h) (fields : List (Field V)) :
    List.map h <$> lowerFields E fields = lowerFields F (fields.map (Field.map h)) := by
  induction fields with
  | nil => exact map_pure _ _
  | cons field rest ih =>
      rw [List.map_cons, lowerFields, lowerFields, ← map_lowerField hom, ← ih]
      simp only [map_bind, bind_map_left, map_pure, List.map_cons]

/-- Lowering commutes with what commutes with the combinators; the engine is used, and the slices
are reported, in the same order on both sides. -/
theorem map_lowerM (hom : E.Hom F h) (observe : Event → m Unit) (slice : Slice V) :
    h <$> slice.lowerM E observe = (slice.map h).lowerM F observe := by
  induction slice with
  | leaf field =>
      rw [map, lowerM, lowerM, key_map, kind_leaf_map, map_bind, map_lowerField hom]
  | multi main others =>
      have fields : (main.map h :: auxiliary (others.map fun (key, v) => (key, h v))) =
          (main :: auxiliary others).map (Field.map h) := by
        rw [auxiliary_map, List.map_cons]
      rw [lowerM, ← duplicateKeys_map h (multi main others), map, lowerM, key_map, fields,
        ← map_lowerFields hom]
      simp only [map_bind, bind_map_left, hom.merge]
  | array key child ih =>
      rw [map, lowerM, lowerM, ← ih]
      simp only [map_bind, bind_map_left, ← hom.array, hom.member]
  | object key children ih =>
      obtain ⟨first, rest⟩ := children
      have tail (slices : List (Slice V))
          (ih : ∀ s ∈ slices, h <$> s.lowerM E observe = (s.map h).lowerM F observe) :
          List.map h <$> lowerM.lowerAll E observe slices =
            lowerM.lowerAll F observe (map.mapAll h slices) := by
        induction slices with
        | nil => exact map_pure _ _
        | cons s more ihm =>
            obtain ⟨hs, hmore⟩ := List.forall_mem_cons.mp ih
            rw [map.mapAll, lowerM.lowerAll, lowerM.lowerAll, ← hs, ← ihm hmore]
            simp only [map_bind, bind_map_left, map_pure, List.map_cons]
      obtain ⟨head, hrest⟩ := List.forall_mem_cons.mp ih
      rw [lowerM, ← duplicateKeys_map h (object key ⟨first, rest⟩), map, lowerM, ← head,
        ← tail rest hrest]
      simp only [map_bind, bind_map_left, ← List.map_cons, ← hom.merge, hom.member]

end Slice

end Engines

/-! ## Terms -/

namespace Slice

variable {S T U : Type}

theorem map_map (g : T → U) (f : S → T) (slice : Slice S) :
    (slice.map f).map g = slice.map (g ∘ f) := by
  have field (field : Field S) : (field.map f).map g = field.map (g ∘ f) := by
    cases field <;> rfl
  induction slice with
  | leaf own => exact congrArg leaf (field own)
  | multi main others =>
      rw [map, map, map, field]
      refine congrArg (multi _) (NonEmpty.ext_toList ?_)
      simp only [NonEmpty.toList_map, List.map_map]
      rfl
  | array key child ih => rw [map, map, map, ih]
  | object key children ih =>
      rw [map_object, map_object, map_object]
      refine congrArg (object key) (NonEmpty.ext_toList ?_)
      simp only [NonEmpty.toList_map, List.map_map]
      exact List.map_congr_left ih

theorem map_id (slice : Slice S) : slice.map id = slice := by
  have field (field : Field S) : field.map id = field := by
    cases field <;> rfl
  induction slice with
  | leaf own => exact congrArg leaf (field own)
  | multi main others =>
      rw [map, field]
      refine congrArg (multi _) (NonEmpty.ext_toList ?_)
      rw [NonEmpty.toList_map]
      exact List.map_id _
  | array key child ih => rw [map, ih]
  | object key children ih =>
      rw [map_object]
      refine congrArg (object key) (NonEmpty.ext_toList ?_)
      rw [NonEmpty.toList_map]
      exact (List.map_congr_left ih).trans (List.map_id _)

end Slice

namespace Term

variable {D V : Type}

/-- The validator that an engine builds by the combinators of a term, given one for each value. -/
def interpret (E : Engine Id V) (value : D → V) : Term D → V
  | data d => value d
  | string => E.string.run
  | object fields => (E.object (members fields)).run
  | array element => (E.array (interpret E value element)).run
  | allOf ⟨first, rest⟩ => (E.allOf ⟨interpret E value first, operands rest⟩).run
  | never => E.never.run
where
  members : List (String × Term D) → List (String × V)
    | [] => []
    | (key, t) :: rest => (key, interpret E value t) :: members rest
  operands : List (Term D) → List V
    | [] => []
    | t :: rest => interpret E value t :: operands rest

variable (E : Engine Id V) (value : D → V)

theorem members_eq (fields : List (String × Term D)) :
    interpret.members E value fields = fields.map fun f => (f.1, interpret E value f.2) := by
  induction fields with
  | nil => rfl
  | cons field rest ih => rw [interpret.members, ih, List.map_cons]

theorem operands_eq (terms : List (Term D)) :
    interpret.operands E value terms = terms.map (interpret E value) := by
  induction terms with
  | nil => rfl
  | cons t rest ih => rw [interpret.operands, ih, List.map_cons]

/-- Terms are free: whatever their values are taken for, the rest follows by the combinators. -/
theorem interpret_hom : Term.engine.Hom E (interpret E value) where
  string := rfl
  object fields := congrArg E.object (members_eq E value fields)
  array _ := rfl
  allOf operands := congrArg (fun rest => E.allOf ⟨_, rest⟩) (operands_eq E value operands.tail)
  never := rfl

end Term

/-- A function that commutes with the combinators of two engines commutes with the lowering of
slices and with the merging of any list of validators. So the schema of a slice is what the term
of the slice means. -/
theorem lower_natural :
    (∀ {V W : Type} {E : Engine Id V} {F : Engine Id W} {h : V → W}, E.Hom F h →
      (∀ slice : Slice V, (slice.map h).lower F = h (slice.lower E)) ∧
        ∀ vs : List V, (F.merge (vs.map h)).run = h (E.merge vs).run) ∧
    ∀ slice : Slice Schema,
      ((slice.map .data).lower Term.engine).interpret Schema.engine id = Schema.ofSlice slice := by
  have lower {V W : Type} {E : Engine Id V} {F : Engine Id W} {h : V → W} (hom : E.Hom F h)
      (slice : Slice V) : (slice.map h).lower F = h (slice.lower E) :=
    (Slice.map_lowerM hom (fun _ => pure ()) slice).symm
  constructor
  · intro V W E F h hom
    exact ⟨lower hom, fun vs => (hom.merge vs).symm⟩
  · intro slice
    rw [← lower (Term.interpret_hom Schema.engine id), Slice.map_map]
    exact congrArg Schema.ofSlice (Slice.map_id slice)

/-- An only child, spliced fields beside an array, and data that are terms themselves. -/
def Slice.termFields : Slice (Term Schema) :=
  .object "" ⟨.object "k" ⟨.textWith "t" ⟨("t", .allOf ⟨.string, [.data .any]⟩), []⟩,
    [.array "l" (.data "d" (.data .null))]⟩, []⟩

/-- Of the terms, what was built is interpreted, and what was given is taken as it is. -/
theorem lower_natural_termFields :
    (Slice.termFields.lower Term.engine).interpret Schema.engine id =
      Schema.object [("", Schema.object [("k", Schema.allOf
        ⟨Schema.allOf ⟨Schema.object [("t", .string)],
            [Schema.object [("t", Schema.allOf ⟨.string, [.any]⟩)]]⟩,
          [Schema.object [("l", Schema.array (Schema.object [("d", .null)]))]]⟩)])] ∧
    (Schema.engine.merge (([] : List (Term Schema)).map (Term.interpret Schema.engine id))).run =
      .never := by
  obtain ⟨lower, merge⟩ := lower_natural.1 (Term.interpret_hom Schema.engine (id : Schema → Schema))
  exact ⟨(lower Slice.termFields).symm.trans rfl, (merge []).trans rfl⟩

end SliceContract
