import Mathlib.Data.List.Nodup
import Mathlib.Data.List.Sigma
import SliceContract.Proofs.Slice.Drafts

/-!
# No violation twice

Siblings that ask for the same, and elements that lack the same, are still reported apart: a sibling
stands at a place of its own in the schema, and an element in the document. Pointers tell these
places apart, although they do not tell an index from a key. The main statement is
`nodup_places_violations`.
-/

namespace SliceContract

open JsonSchema

namespace Pointer

/-- A pointer shows the tokens of its steps, and nothing else of them. -/
theorem render_eq_iff {l l' : Location} : render l = render l' ↔ l.map token = l'.map token := by
  constructor
  · intro same
    have tokens := congrArg tokens? same
    rw [tokens?_render, tokens?_render] at tokens
    exact Option.some.inj tokens
  · intro same
    have escaped (l : Location) : text l = (l.map token).flatMap fun t => '/' :: escape t := by
      rw [List.flatMap_map]
      rfl
    rw [render, render, escaped, escaped, same]

theorem eq_of_token_element {i j : Nat} (h : token (.element i) = token (.element j)) : i = j := by
  have position := congrArg position? h
  rw [position?_element, position?_element] at position
  exact Option.some.inj position

end Pointer

open Pointer

/-- The two places of a failure, as far as their pointers show them. -/
def Failure.tokens (f : Failure) : List (List Char) × List (List Char) :=
  (f.instancePath.map token, f.schemaPath.map token)

/-- The tokens of a moved failure are longer in front. -/
theorem Failure.tokens_under {f : Failure} (placed : f.objection.cause.isUnplaced = false)
    (l l' : Location) :
    (f.under l l').tokens = (l.map token ++ f.tokens.1, l'.map token ++ f.tokens.2) := by
  rw [Failure.tokens, Failure.under_of_placed placed, List.map_append, List.map_append]
  rfl

/-- Whether all failures of a list have places, and no two show the same ones. -/
structure Apart (fs : List Failure) : Prop where
  placed : ∀ f ∈ fs, f.objection.cause.isUnplaced = false
  nodup : (fs.map Failure.tokens).Nodup

namespace Apart

theorem nil : Apart [] := ⟨List.forall_mem_nil _, List.nodup_nil⟩

theorem singleton {f : Failure} (placed : f.objection.cause.isUnplaced = false) : Apart [f] :=
  ⟨List.forall_mem_singleton.mpr placed, List.nodup_singleton _⟩

/-- Failures that are apart stay apart when they are moved together. -/
theorem under {fs : List Failure} (h : Apart fs) (l l' : Location) :
    Apart (fs.map (.under l l')) := by
  have shifted : (fs.map (.under l l')).map Failure.tokens =
      (fs.map Failure.tokens).map fun p => (l.map token ++ p.1, l'.map token ++ p.2) := by
    rw [List.map_map, List.map_map]
    exact List.map_congr_left fun f hf => Failure.tokens_under (h.placed f hf) l l'
  constructor
  · rw [List.forall_mem_map]
    intro f hf
    rw [Failure.objection_under]
    exact h.placed f hf
  · rw [shifted]
    refine List.Nodup.map (fun p q same => ?_) h.nodup
    obtain ⟨first, second⟩ := Prod.mk.inj same
    exact Prod.ext (List.append_cancel_left first) (List.append_cancel_left second)

/-- Failures that are found under places of their own, one for each position in a list. -/
theorem flatMap {α : Type*} (l l' : Nat → Location)
    (separate : ∀ {i j : Nat} {p q : List (List Char) × List (List Char)},
      (l i).map token ++ p.1 = (l j).map token ++ q.1 →
      (l' i).map token ++ p.2 = (l' j).map token ++ q.2 → i = j)
    {xs : List α} {found : α → List Failure} (each : ∀ x ∈ xs, Apart (found x)) :
    Apart (xs.zipIdx.flatMap fun e => (found e.1).map (.under (l e.2) (l' e.2))) := by
  have apart (e : α × Nat) (he : e ∈ xs.zipIdx) :
      Apart ((found e.1).map (.under (l e.2) (l' e.2))) :=
    (each e.1 (List.fst_mem_of_mem_zipIdx he)).under _ _
  refine ⟨?_, ?_⟩
  · rw [List.forall_mem_flatMap]
    exact fun e he => (apart e he).placed
  rw [List.map_flatMap, List.nodup_flatMap]
  constructor
  · exact fun e he => (apart e he).nodup
  · have positions : xs.zipIdx.Pairwise fun e e' => e.2 ≠ e'.2 :=
      List.pairwise_map.mp (List.nodup_zipIdx_map_snd xs)
    refine positions.imp_of_mem fun {e e'} he he' other => List.disjoint_left.mpr ?_
    intro place here there
    obtain ⟨_, reported, rfl⟩ := List.mem_map.mp here
    obtain ⟨f, hf, rfl⟩ := List.mem_map.mp reported
    obtain ⟨_, reported', same⟩ := List.mem_map.mp there
    obtain ⟨g, hg, rfl⟩ := List.mem_map.mp reported'
    have placed := (each e.1 (List.fst_mem_of_mem_zipIdx he)).placed f hf
    have placed' := (each e'.1 (List.fst_mem_of_mem_zipIdx he')).placed g hg
    rw [Failure.tokens_under placed, Failure.tokens_under placed'] at same
    obtain ⟨first, second⟩ := Prod.mk.inj same
    exact other (separate first.symm second.symm)

end Apart

namespace Schema

/-- Whether all that a schema objects to in a value has places of its own. -/
def ReportsApart (c : Context) (refs : Reference → Judge Id) (s : Schema) : Prop :=
  ∀ v, Apart ((s.readIn c).flaws refs v)

variable {c : Context} {refs : Reference → Judge Id}

theorem reportsApart_ofType (t : TypeName) : (ofType t.name).ReportsApart c refs := by
  intro v
  rw [readIn_ofType, flaws_typed]
  split
  · exact .nil
  · exact .singleton rfl

theorem reportsApart_any : any.ReportsApart c refs := by
  intro v
  rw [readIn_any]
  exact .nil

theorem reportsApart_never : never.ReportsApart c refs := by
  intro v
  rw [readIn_never]
  exact .singleton rfl

/-- A leaf reports one failure at most. -/
theorem reportsApart_leaves {s : Schema} (h : s ∈ leaves) : s.ReportsApart c refs :=
  leaves_cases (P := ReportsApart c refs) reportsApart_ofType reportsApart_any reportsApart_never h

/-- What a member reports is apart from a missing member, since only one of them occurs. -/
theorem ReportsApart.object (key : String) {s : Schema} (h : s.ReportsApart c refs) :
    (object [(key, s)]).ReportsApart c refs := by
  intro v
  rw [flaws_object]
  cases v with
  | object ms =>
      dsimp only
      cases ms.lookup key with
      | some x => exact (h x).under _ _
      | none => exact .singleton rfl
  | _ => exact .singleton rfl

/-- What elements report is told apart by their indices. -/
theorem ReportsApart.array {s : Schema} (hs : s.document.isObject) (h : s.ReportsApart c refs) :
    (array s).ReportsApart c refs := by
  intro v
  rw [flaws_array c refs hs]
  cases v with
  | array xs =>
      refine Apart.flatMap (fun i => [.element i]) (fun _ => [.member "items"]) (fun same _ => ?_)
        fun x _ => h x
      exact eq_of_token_element (List.cons.inj same).1
  | _ => exact .singleton rfl

/-- Equal branches differ in their number. -/
theorem reportsApart_allOf {ss : NonEmpty Schema} (h : ∀ s ∈ ss.toList, s.ReportsApart c refs) :
    (allOf ss).ReportsApart c refs := by
  intro v
  rw [flaws_allOf]
  refine Apart.flatMap (fun _ => []) (fun i => [.member "allOf", .element i]) (fun _ same => ?_)
    fun s hs => h s hs v
  obtain ⟨-, branch⟩ := List.cons.inj same
  exact eq_of_token_element (List.cons.inj branch).1

/-- A slice repeats no report that its data schemas do not repeat. -/
theorem reportsApart_ofSlice {slice : Slice Schema}
    (h : ∀ s ∈ slice.schemas, s.ReportsApart c refs) : (ofSlice slice).ReportsApart c refs := by
  apply ofSlice_closed (P := ReportsApart c refs) (reportsApart_ofType .string)
  · exact fun key s => ReportsApart.object key
  · exact fun s => ReportsApart.array
  · exact fun ss => reportsApart_allOf
  · exact h

end Schema

/-- A slice whose data schemas are leaves compiles, and no two of the violations of a document have
the same two pointers, whatever its keys are and however often they or whole children are
repeated. -/
theorem nodup_places_violations {slice : Slice Schema}
    (leaf : ∀ s ∈ slice.schemas, s ∈ Schema.leaves) (o : Options) :
    ∃ w, Validator.ofSlice slice o = .ok w ∧
      ∀ v, ∃ vs, w.violations v = some vs ∧
        (vs.map fun x => (x.instancePath, x.schemaPath)).Nodup := by
  have text : Schema.string ∈ Schema.leaves := List.mem_cons_self
  have lowered := (Schema.built_ofSlice text fun s hs => .given (leaf s hs)).undisputed
  obtain ⟨w, h⟩ := lowered.compiles o
  let refs : Reference → Judge Id := fun _ => .always
  refine ⟨w, h, fun v => ?_⟩
  refine ⟨((Schema.ofSlice slice).found (.plain o) refs v).map .ofFailure, ?_, ?_⟩
  · rw [Validator.violations, Validator.failures_of_portable (lowered.portable o) h refs]
    rfl
  · have apart : Apart ((Schema.ofSlice slice).found (.plain o) refs v) :=
      Schema.reportsApart_ofSlice (fun s hs => Schema.reportsApart_leaves (leaf s hs)) v
    rw [List.map_map, List.Nodup, List.pairwise_map]
    refine (List.pairwise_map.mp apart.nodup).imp fun {f g} other same => other ?_
    obtain ⟨inDocument, inSchema⟩ := Prod.mk.inj same
    exact Prod.ext (render_eq_iff.mp inDocument) (render_eq_iff.mp inSchema)

/-- The same text three times, twice beside itself, under a key that looks like an index. -/
def Slice.repeated : Slice Schema :=
  .array "0" (.object "0" ⟨.text "0", [.text "0", .textWith "0" ⟨("0", .never), []⟩]⟩)

/-- One value is refused four times, and each refusal has its own place in the schema. -/
theorem nodup_places_violations_repeated :
    (∀ s ∈ Slice.repeated.schemas, s ∈ Schema.leaves) ∧
    ∃ w, Validator.ofSlice Slice.repeated .standard = .ok w ∧ ∃ vs,
      w.violations (.object [("0", .array [.object [("0", .object [("0", .null)])]])]) = some vs ∧
      vs.map (fun x => (x.instancePath, x.schemaPath)) =
        [("/0/0/0/0", "/properties/0/items/properties/0/allOf/0/properties/0/type"),
          ("/0/0/0/0", "/properties/0/items/properties/0/allOf/1/properties/0/type"),
          ("/0/0/0/0", "/properties/0/items/properties/0/allOf/2/allOf/0/properties/0/type"),
          ("/0/0/0/0", "/properties/0/items/properties/0/allOf/2/allOf/1/properties/0/not")] ∧
      (vs.map fun x => (x.instancePath, x.schemaPath)).Nodup := by
  have leaf : ∀ s ∈ Slice.repeated.schemas, s ∈ Schema.leaves := by decide
  obtain ⟨w, h, nodup⟩ := nodup_places_violations leaf .standard
  have hw := Validator.eq_of_ofSchema h
  subst hw
  obtain ⟨vs, report, apart⟩ := nodup
    (.object [("0", .array [.object [("0", .object [("0", .null)])]])])
  have places : ((Validator.mk ⟨(Schema.ofSlice Slice.repeated).document, .standard⟩).violations
      (.object [("0", .array [.object [("0", .object [("0", .null)])]])])).map
        (List.map fun x => (x.instancePath, x.schemaPath)) =
      some [("/0/0/0/0", "/properties/0/items/properties/0/allOf/0/properties/0/type"),
        ("/0/0/0/0", "/properties/0/items/properties/0/allOf/1/properties/0/type"),
        ("/0/0/0/0", "/properties/0/items/properties/0/allOf/2/allOf/0/properties/0/type"),
        ("/0/0/0/0", "/properties/0/items/properties/0/allOf/2/allOf/1/properties/0/not")] := by
    decide +kernel
  rw [report] at places
  exact ⟨leaf, _, h, vs, report, Option.some.inj places, apart⟩

end SliceContract
