import SliceContract.Engine.Term
import SliceContract.Proofs.Slice.Splicing

/-!
# Slices that are lowered alike

Two different slices can be lowered to the same validator, because an only child stands without an
intersection around it and a multi slice without a key: an object whose only child is a multi slice
is lowered like the object that has its fields as children. Through an engine that keeps its
validators apart nothing else is confused. The main statement is `lower_eq_iff`.
-/

namespace SliceContract

variable {V : Type}

/-- Lists of equal images are equal if the function tells their elements apart. -/
theorem eq_of_map_eq {α β : Type*} {f : α → β} {xs ys : List α}
    (inj : ∀ x ∈ xs, ∀ y ∈ ys, f x = f y → x = y) (h : xs.map f = ys.map f) : xs = ys := by
  induction xs generalizing ys with
  | nil => exact (List.map_eq_nil_iff.mp h.symm).symm
  | cons x rest ih =>
      cases ys with
      | nil => cases h
      | cons y more =>
          obtain ⟨first, others⟩ := List.cons.inj h
          rw [inj x List.mem_cons_self y List.mem_cons_self first]
          refine congrArg _ (ih (fun x hx y hy => ?_) others)
          exact inj x (List.mem_cons_of_mem _ hx) y (List.mem_cons_of_mem _ hy)

/-! ## Engines that keep their validators apart -/

/-- A use of one of the combinators that slices are lowered by. -/
inductive Engine.Use (V : Type) where
  | string
  | object (fields : List (String × V))
  | array (element : V)
  | allOf (operands : NonEmpty V)

namespace Engine

/-- The validator that a use of a combinator builds. -/
def build (E : Engine Id V) : Use V → V
  | .string => E.string.run
  | .object fields => (E.object fields).run
  | .array element => (E.array element).run
  | .allOf operands => (E.allOf operands).run

/-- The combinators are injective, their images are disjoint, and what is stored is in none of
them. -/
structure KeepsApart (E : Engine Id V) (stored : List V) : Prop where
  injective : Function.Injective E.build
  unbuilt : ∀ v ∈ stored, ∀ use, E.build use ≠ v

end Engine

namespace Slice

open Engine

/-! ## The outermost combinator of a lowered slice -/

section Outermost

variable (E : Engine Id V)

/-- What the children of an object are merged to. -/
def merged (children : NonEmpty (Slice V)) : V := (E.merge (children.toList.map (lower E))).run

/-- The use of a combinator that the lowering of a slice ends with. -/
def outermost : Slice V → Use V
  | leaf (.text key) => .object [(key, E.build .string)]
  | leaf (.data key v) => .object [(key, v)]
  | multi main others =>
    .allOf ⟨fieldValidator E main, (auxiliary others).map (fieldValidator E)⟩
  | array key child => .object [(key, E.build (.array (child.lower E)))]
  | object key children => .object [(key, merged E children)]

/-- A lowered slice is what its outermost combinator builds. -/
theorem lower_eq_build (slice : Slice V) : slice.lower E = E.build (slice.outermost E) := by
  cases slice with
  | leaf field => cases field <;> rfl
  | multi main others => exact lower_multi E main others
  | array key child => rfl
  | object key children => exact lower_object E key children

theorem merged_sole (child : Slice V) : merged E ⟨child, []⟩ = child.lower E := rfl

theorem merged_several (first second : Slice V) (rest : List (Slice V)) :
    merged E ⟨first, second :: rest⟩ =
      E.build (.allOf ⟨first.lower E, (second :: rest).map (lower E)⟩) := rfl

/-- Only a multi slice is lowered to an intersection, any other to an object with one member. -/
theorem outermost_cases (slice : Slice V) :
    (∃ key v, slice.outermost E = .object [(key, v)]) ∨
      ∃ main others, slice = multi main others := by
  cases slice with
  | leaf field => cases field <;> exact .inl ⟨_, _, rfl⟩
  | multi main others => exact .inr ⟨main, others, rfl⟩
  | array key child => exact .inl ⟨_, _, rfl⟩
  | object key children => exact .inl ⟨_, _, rfl⟩

/-- Children are merged to an object or to an intersection. -/
theorem merged_cases (children : NonEmpty (Slice V)) :
    (∃ fields, merged E children = E.build (.object fields)) ∨
      ∃ operands, merged E children = E.build (.allOf operands) := by
  obtain ⟨first, rest⟩ := children
  cases rest with
  | nil =>
      rw [merged_sole, lower_eq_build]
      rcases outermost_cases E first with ⟨key, v, h⟩ | ⟨main, others, rfl⟩
      · exact .inl ⟨_, congrArg E.build h⟩
      · exact .inr ⟨_, rfl⟩
  | cons second rest => exact .inr ⟨_, merged_several E first second rest⟩

end Outermost

/-! ## Telling slices apart -/

/-- The fields made of a list of keys and schemas tell what the list was. -/
theorem auxiliary_injective : Function.Injective (auxiliary (S := V)) := by
  intro others others' h
  apply NonEmpty.ext_toList
  refine List.map_injective_iff.mpr (fun p q same => ?_) h
  exact Prod.ext (Field.data.inj same).1 (Field.data.inj same).2

theorem member_inj {key key' : String} {v v' : V}
    (h : Use.object [(key, v)] = Use.object [(key', v')]) : key = key' ∧ v = v' := by
  simpa using h

section Inversion

variable {E : Engine Id V} {stored : List V} (apart : E.KeepsApart stored)

include apart

/-- Slices that are lowered to the same have the same outermost combinator. -/
theorem outermost_eq_of_lower_eq {a b : Slice V} (h : a.lower E = b.lower E) :
    a.outermost E = b.outermost E := by
  rw [lower_eq_build, lower_eq_build] at h
  exact apart.injective h

theorem merged_ne_string (children : NonEmpty (Slice V)) : E.build .string ≠ merged E children := by
  intro h
  rcases merged_cases E children with ⟨fields, same⟩ | ⟨operands, same⟩
  · cases apart.injective (h.trans same)
  · cases apart.injective (h.trans same)

theorem merged_ne_array (element : V) (children : NonEmpty (Slice V)) :
    E.build (.array element) ≠ merged E children := by
  intro h
  rcases merged_cases E children with ⟨fields, same⟩ | ⟨operands, same⟩
  · cases apart.injective (h.trans same)
  · cases apart.injective (h.trans same)

/-- Merged children are none of the validators that data holds. -/
theorem merged_ne_stored {v : V} (hv : v ∈ stored) (children : NonEmpty (Slice V)) :
    merged E children ≠ v := by
  rcases merged_cases E children with ⟨fields, same⟩ | ⟨operands, same⟩
  · exact same ▸ apart.unbuilt v hv _
  · exact same ▸ apart.unbuilt v hv _

theorem eq_of_fieldValidator_eq {f g : Field V} (hf : (leaf f).schemas ⊆ stored)
    (hg : (leaf g).schemas ⊆ stored) (h : fieldValidator E f = fieldValidator E g) : f = g := by
  have same := outermost_eq_of_lower_eq (a := leaf f) (b := leaf g) apart h
  cases f with
  | text key =>
      cases g with
      | text key' => rw [(member_inj same).1]
      | data key' v =>
          have stored : v ∈ stored := hg List.mem_cons_self
          exact absurd (member_inj same).2 (apart.unbuilt v stored _)
  | data key v =>
      cases g with
      | text key' =>
          have stored : v ∈ stored := hf List.mem_cons_self
          exact absurd (member_inj same).2.symm (apart.unbuilt v stored _)
      | data key' v' =>
          obtain ⟨rfl, rfl⟩ := member_inj same
          rfl

/-- A leaf is lowered like no other slice. -/
theorem eq_leaf {field : Field V} {b : Slice V} (ha : (leaf field).schemas ⊆ stored)
    (hb : b.schemas ⊆ stored) (h : (leaf field).lower E = b.lower E) : b = leaf field := by
  have same := outermost_eq_of_lower_eq apart h
  cases b with
  | leaf other => rw [eq_of_fieldValidator_eq apart ha hb h]
  | multi main others => cases field <;> cases same
  | array key' child =>
      cases field with
      | text key => cases apart.injective (member_inj same).2
      | data key v =>
          exact absurd (member_inj same).2.symm (apart.unbuilt v (ha List.mem_cons_self) _)
  | object key' children =>
      cases field with
      | text key => exact absurd (member_inj same).2 (merged_ne_string apart children)
      | data key v =>
          exact absurd (member_inj same).2.symm
            (merged_ne_stored apart (ha List.mem_cons_self) children)

/-- Only a multi slice is lowered to a conjunction. -/
theorem multi_of_lower_eq {slice : Slice V} {operands : NonEmpty V}
    (h : slice.lower E = E.build (.allOf operands)) :
    ∃ main others, slice = multi main others := by
  rw [lower_eq_build] at h
  rcases outermost_cases E slice with ⟨key, v, same⟩ | shape
  · cases same.symm.trans (apart.injective h)
  · exact shape

/-- Fields that stand side by side are lowered like no other slice. -/
theorem eq_multi {main : Field V} {others : NonEmpty (String × V)} {b : Slice V}
    (ha : (multi main others).schemas ⊆ stored) (hb : b.schemas ⊆ stored)
    (h : (multi main others).lower E = b.lower E) : b = multi main others := by
  obtain ⟨main', others', rfl⟩ := multi_of_lower_eq apart (h.symm.trans (lower_eq_build E _))
  have operands := Use.allOf.inj (outermost_eq_of_lower_eq apart h)
  rw [schemas_multi] at ha hb
  have fields : main :: auxiliary others = main' :: auxiliary others' := by
    refine eq_of_map_eq (f := fieldValidator E) (fun f hf g hg same => ?_)
      (congrArg NonEmpty.toList operands)
    have storedf : (leaf f).schemas ⊆ stored := fun v hv => ha (List.mem_flatMap.mpr ⟨f, hf, hv⟩)
    have storedg : (leaf g).schemas ⊆ stored := fun v hv => hb (List.mem_flatMap.mpr ⟨g, hg, hv⟩)
    exact eq_of_fieldValidator_eq apart storedf storedg same
  obtain ⟨rfl, rest⟩ := List.cons.inj fields
  rw [auxiliary_injective rest]

/-- An array is lowered only like an array under the same key. -/
theorem eq_array {key : String} {child b : Slice V} (hb : b.schemas ⊆ stored)
    (ha : (array key child).schemas ⊆ stored) (h : (array key child).lower E = b.lower E) :
    ∃ child', b = array key child' ∧ child.lower E = child'.lower E := by
  have same := outermost_eq_of_lower_eq apart h
  cases b with
  | leaf field => cases eq_leaf apart hb ha h.symm
  | multi main others => cases same
  | array key' child' =>
      obtain ⟨rfl, element⟩ := member_inj same
      exact ⟨child', rfl, Use.array.inj (apart.injective element)⟩
  | object key' children => exact absurd (member_inj same).2 (merged_ne_array apart _ children)

/-- An object is lowered only like an object under the same key. -/
theorem eq_object {key : String} {children : NonEmpty (Slice V)} {b : Slice V}
    (ha : (object key children).schemas ⊆ stored) (hb : b.schemas ⊆ stored)
    (h : (object key children).lower E = b.lower E) :
    ∃ children', b = object key children' ∧ merged E children = merged E children' := by
  have same := outermost_eq_of_lower_eq apart h
  cases b with
  | leaf field => cases eq_leaf apart hb ha h.symm
  | multi main others => cases same
  | array key' child =>
      obtain ⟨_, other, _⟩ := eq_array apart ha hb h.symm
      cases other
  | object key' children' =>
      obtain ⟨rfl, parts⟩ := member_inj same
      exact ⟨children', rfl, parts⟩

/-- Lists of children in which no multi slice stands alone are merged alike only if they are lowered
alike one by one. -/
theorem lower_eq_of_merged_eq {children children' : NonEmpty (Slice V)}
    (accompanied : ∀ main others, children ≠ .singleton (multi main others))
    (accompanied' : ∀ main others, children' ≠ .singleton (multi main others))
    (h : merged E children = merged E children') :
    children.toList.map (lower E) = children'.toList.map (lower E) := by
  obtain ⟨first, rest⟩ := children
  obtain ⟨first', rest'⟩ := children'
  cases rest with
  | nil =>
      cases rest' with
      | nil => exact congrArg (fun v => [v]) h
      | cons second' rest' =>
          obtain ⟨main, others, rfl⟩ := multi_of_lower_eq apart h
          exact absurd rfl (accompanied main others)
  | cons second rest =>
      cases rest' with
      | nil =>
          obtain ⟨main, others, rfl⟩ := multi_of_lower_eq apart h.symm
          exact absurd rfl (accompanied' main others)
      | cons second' rest' =>
          exact congrArg NonEmpty.toList (Use.allOf.inj (apart.injective h))

end Inversion

/-! ## Multi slices that are only children -/

variable {S : Type}

/-- The slice in which every object whose only child is a multi slice has its fields as children
instead. -/
def spreadSole : Slice S → Slice S
  | leaf field => leaf field
  | multi main others => multi main others
  | array key child => array key (spreadSole child)
  | object key ⟨first, []⟩ => object key (spread (spreadSole first))
  | object key ⟨first, second :: rest⟩ => object key ⟨spreadSole first, all (second :: rest)⟩
where
  all : List (Slice S) → List (Slice S)
    | [] => []
    | child :: rest => spreadSole child :: all rest

theorem spreadSole_sole (key : String) (child : Slice S) :
    (object key ⟨child, []⟩).spreadSole = object key (spread child.spreadSole) := by
  rw [spreadSole]

theorem spreadSole_several (key : String) (first second : Slice S) (rest : List (Slice S)) :
    (object key ⟨first, second :: rest⟩).spreadSole =
      object key ⟨first.spreadSole, (second :: rest).map spreadSole⟩ := by
  have all (slices : List (Slice S)) : spreadSole.all slices = slices.map spreadSole := by
    induction slices with
    | nil => rfl
    | cons slice rest ih => rw [spreadSole.all, ih, List.map_cons]
  rw [spreadSole, all]

/-- No object has a multi slice as its only child. -/
inductive Spread : Slice S → Prop where
  | leaf (field : Field S) : Spread (leaf field)
  | multi (main : Field S) (others : NonEmpty (String × S)) : Spread (multi main others)
  | array {key : String} {child : Slice S} (h : Spread child) : Spread (array key child)
  | object {key : String} {children : NonEmpty (Slice S)} (h : ∀ c ∈ children.toList, Spread c)
    (accompanied : ∀ main others, children ≠ .singleton (.multi main others)) :
    Spread (object key children)

theorem schemas_spreadSole (slice : Slice S) : slice.spreadSole.schemas = slice.schemas := by
  induction slice with
  | leaf field => rfl
  | multi main others => rfl
  | array key child ih => exact ih
  | object key children ih =>
      obtain ⟨first, rest⟩ := children
      cases rest with
      | nil =>
          rw [spreadSole_sole, schemas_object, schemas_spread, ih first List.mem_cons_self,
            schemas_object, NonEmpty.toList_mk, List.flatMap_singleton]
      | cons second rest =>
          rw [spreadSole_several, schemas_object, schemas_object, NonEmpty.toList_mk,
            NonEmpty.toList_mk, ← List.map_cons, List.flatMap_map]
          exact List.flatMap_congr ih

/-- Spreading an only child does not change what the children are merged to. -/
theorem merged_spread (E : Engine Id V) (slice : Slice V) :
    merged E (spread slice) = slice.lower E := by
  cases slice with
  | multi main others =>
      rw [lower_multi, merged, spread, NonEmpty.toList_mk, ← List.map_cons, List.map_map]
      rfl
  | leaf field => rfl
  | array key child => rfl
  | object key children => rfl

/-- A sole multi child may be spread without a change in what is lowered. -/
theorem lower_spreadSole (E : Engine Id V) (slice : Slice V) :
    slice.spreadSole.lower E = slice.lower E := by
  induction slice with
  | leaf field => rfl
  | multi main others => rfl
  | array key child ih => rw [spreadSole, lower_array, lower_array, ih]
  | object key children ih =>
      obtain ⟨first, rest⟩ := children
      rw [lower_eq_build, lower_eq_build]
      cases rest with
      | nil => rw [spreadSole_sole, outermost, merged_spread, ih first List.mem_cons_self]; rfl
      | cons second rest =>
          have same : ((first :: second :: rest).map spreadSole).map (lower E) =
              (first :: second :: rest).map (lower E) := by
            rw [List.map_map]
            exact List.map_congr_left ih
          rw [spreadSole_several, outermost, outermost, merged, merged, NonEmpty.toList_mk,
            NonEmpty.toList_mk, ← List.map_cons, same]

/-- After spreading, no multi slice is a sole child. -/
theorem spread_spreadSole (slice : Slice S) : slice.spreadSole.Spread := by
  induction slice with
  | leaf field => exact .leaf field
  | multi main others => exact .multi main others
  | array key child ih => exact .array ih
  | object key children ih =>
      obtain ⟨first, rest⟩ := children
      cases rest with
      | nil =>
          rw [spreadSole_sole]
          have child := ih first List.mem_cons_self
          cases h : first.spreadSole with
          | multi main others =>
              refine .object ?_ fun _ _ same => ?_
              · intro c hc
                rcases List.mem_cons.mp hc with rfl | hc
                · exact .leaf main
                · obtain ⟨field, _, rfl⟩ := List.mem_map.mp hc
                  exact .leaf field
              · cases congrArg NonEmpty.head same
          | _ =>
              rw [h] at child
              refine .object (List.forall_mem_singleton.mpr child) fun _ _ same => ?_
              cases congrArg NonEmpty.head same
      | cons second rest =>
          rw [spreadSole_several]
          refine .object ?_ fun _ _ same => ?_
          · rw [NonEmpty.toList_mk, ← List.map_cons, List.forall_mem_map]
            exact ih
          · cases congrArg NonEmpty.tail same

/-- Slices in which no multi slice is an only child are told apart by their validators. -/
theorem eq_of_lower_eq {E : Engine Id V} {stored : List V} (apart : E.KeepsApart stored)
    {a b : Slice V} (ha : a.Spread) (hb : b.Spread) (sa : a.schemas ⊆ stored)
    (sb : b.schemas ⊆ stored) (h : a.lower E = b.lower E) : a = b := by
  induction ha generalizing b with
  | leaf field => exact (eq_leaf apart sa sb h).symm
  | multi main others => exact (eq_multi apart sa sb h).symm
  | array _ ih =>
      obtain ⟨child', rfl, same⟩ := eq_array apart sb sa h
      cases hb with
      | array hb => rw [ih hb sa sb same]
  | object _ accompanied ih =>
      obtain ⟨children', rfl, same⟩ := eq_object apart sa sb h
      cases hb with
      | object hb accompanied' =>
          rw [schemas_object] at sa sb
          have parts := lower_eq_of_merged_eq apart accompanied accompanied' same
          refine congrArg _ (NonEmpty.ext_toList (eq_of_map_eq (fun c hc c' hc' same => ?_) parts))
          have storedc : c.schemas ⊆ stored := fun v hv => sa (List.mem_flatMap.mpr ⟨c, hc, hv⟩)
          have storedc' : c'.schemas ⊆ stored := fun v hv => sb (List.mem_flatMap.mpr ⟨c', hc', hv⟩)
          exact ih c hc (hb c' hc') storedc storedc' same

end Slice

/-- Through an engine that keeps what it builds and what the slices store apart, two slices are
lowered to the same validator exactly when they become equal by spreading the multi slices that are
only children. -/
theorem lower_eq_iff {E : Engine Id V} {a b : Slice V}
    (apart : E.KeepsApart (a.schemas ++ b.schemas)) :
    a.lower E = b.lower E ↔ a.spreadSole = b.spreadSole := by
  constructor
  · intro h
    apply Slice.eq_of_lower_eq apart (Slice.spread_spreadSole a) (Slice.spread_spreadSole b)
    · rw [Slice.schemas_spreadSole]
      exact List.subset_append_left _ _
    · rw [Slice.schemas_spreadSole]
      exact List.subset_append_right _ _
    · rw [Slice.lower_spreadSole, Slice.lower_spreadSole, h]
  · intro h
    rw [← Slice.lower_spreadSole E a, h, Slice.lower_spreadSole]

/-- The engine of terms keeps all its validators apart. -/
theorem Term.keepsApart_engine {D : Type} (values : List D) :
    Term.engine.KeepsApart (values.map Term.data) where
  injective := by
    intro use use' h
    cases use <;> cases use' <;> cases h <;> rfl
  unbuilt := by
    intro v hv use h
    obtain ⟨d, _, rfl⟩ := List.mem_map.mp hv
    cases use <;> cases h

/-- Fields that are only children, under one key more if `boxed`. -/
def Slice.onlyFields (boxed : Bool) : Slice (Term String) :=
  let fields : Slice (Term String) := .textWith "t" ⟨("d", .data "s"), []⟩
  .array "l" (.object "k" ⟨if boxed then .object "k" ⟨fields, []⟩ else fields, []⟩)

/-- The fields may as well be children one by one, but not under one key more. -/
theorem lower_eq_iff_onlyFields :
    (Slice.onlyFields false).lower Term.engine =
      (Slice.array "l" (.object "k" ⟨.text "t", [.data "d" (.data "s")]⟩)).lower Term.engine ∧
    (Slice.onlyFields false).lower Term.engine ≠ (Slice.onlyFields true).lower Term.engine := by
  have apart := Term.keepsApart_engine ["s", "s"]
  constructor
  · rw [lower_eq_iff apart]
    rfl
  · rw [Ne, lower_eq_iff apart]
    nofun

end SliceContract
