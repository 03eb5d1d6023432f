import Mathlib.Data.List.Forall2
import SliceContract.Proofs.Answers
import SliceContract.Proofs.Slice.Report
import SliceContract.Proofs.Slice.Satisfaction
import SliceContract.Proofs.Slice.Splicing

/-!
# The keys of a slice

Of an object a slice looks at the members under its own keys and at nothing else. What it finds
wrong with the object itself is that some of these keys are absent; everything else that it reports
is further inside, or has no place at all. The main statement is `validate_fieldKeys`.
-/

namespace SliceContract

open JsonSchema Violation

/-! ## Two values with the same members under some keys -/

namespace Failure

/-- The failure without the value that lacks a key. Only the key is shown of it. -/
def unvalued (f : Failure) : Failure :=
  match f.objection.cause with
  | .missing _ => { f with objection := ⟨.null, f.objection.cause⟩ }
  | _ => f

theorem unvalued_under (l l' : Location) (f : Failure) :
    (f.under l l').unvalued = f.unvalued.under l l' := by
  rcases f with ⟨i, s, subject, cause⟩
  cases cause <;> rfl

end Failure

/-- A violation does not show the value that lacks a key. -/
theorem Violation.ofFailure_unvalued (f : Failure) : ofFailure f.unvalued = ofFailure f := by
  rcases f with ⟨i, s, subject, cause⟩
  cases cause <;> rfl

namespace Judge

/-- Whether a judge gives two values the same verdict, and reports that read the same. -/
structure Alike (v v' : Json) (j : Judge Option) : Prop where
  verdict : j .verdict v' = j .verdict v
  report : (j .report v').map (List.map Failure.unvalued) =
    (j .report v).map (List.map Failure.unvalued)

section Alike

variable {v v' : Json}

theorem alike_of_eq {j : Judge Option} (h : ∀ q, j q v' = j q v) : j.Alike v v' :=
  ⟨h .verdict, congrArg (Option.map _) (h .report)⟩

/-- A change of the parts of a collection is a change of the whole. -/
theorem map_collect {α β γ : Type} (f : α → Option (List β)) (g : β → γ) (xs : List α) :
    (collect f xs).map (List.map g) = collect (fun x => (f x).map (List.map g)) xs := by
  induction xs with
  | nil => rfl
  | cons x rest ih =>
      rw [collect, collect, ← ih]
      cases f x with
      | none => rfl
      | some found => cases collect f rest <;> simp

theorem Alike.every {js : List (Judge Option)} (h : ∀ j ∈ js, j.Alike v v') :
    (Judge.every js).Alike v v' where
  verdict := (same Option).allM fun j hj => (h j hj).verdict
  report := by
    refine (map_collect _ _ js).trans (Eq.trans ?_ (map_collect _ _ js).symm)
    exact (same Option).collect fun j hj => (h j hj).report

theorem Alike.reportAt {j : Judge Option} (h : j.Alike v v') (l l' : Location) :
    (j.reportAt l l' v').map (List.map Failure.unvalued) =
      (j.reportAt l l' v).map (List.map Failure.unvalued) := by
  have seen (x : Json) : (j.reportAt l l' x).map (List.map Failure.unvalued) =
      ((j .report x).map (List.map Failure.unvalued)).map (List.map (Failure.under l l')) := by
    rw [Judge.reportAt]
    cases j .report x with
    | none => rfl
    | some fs => simp [Failure.unvalued_under]
  rw [seen, seen, h.report]

/-- A conjunction of judges that treat two values alike does so as well. -/
theorem Alike.allOf {js : List (Judge Option)} (h : ∀ j ∈ js, j.Alike v v') :
    (Judge.allOf js).Alike v v' where
  verdict := (same Option).allM fun j hj => (h j hj).verdict
  report := by
    refine (map_collect _ _ js.zipIdx).trans (Eq.trans ?_ (map_collect _ _ js.zipIdx).symm)
    refine (same Option).collect fun ⟨j, i⟩ he => ?_
    exact (h j (List.fst_mem_of_mem_zipIdx he)).reportAt _ _

/-- Members that are the same are judged the same. -/
theorem properties_eq {table : List (String × Judge Option)}
    (h : ∀ e ∈ table, v'.get? e.1 = v.get? e.1) (q : Question) :
    properties table q v' = properties table q v := by
  cases q with
  | verdict =>
      refine (same Option).allM fun ⟨name, j⟩ he => ?_
      dsimp only
      rw [h _ he]
      rfl
  | evaluated =>
      refine (same Option).collect fun ⟨name, j⟩ he => ?_
      dsimp only
      rw [h _ he]
      rfl
  | report =>
      refine (same Option).collect fun ⟨name, j⟩ he => ?_
      dsimp only
      rw [h _ he]
      rfl

/-- Which keys an object lacks depends on these keys alone. -/
theorem alike_required {keys : List String} {ms ms' : Entries Json}
    (h : ∀ key ∈ keys, ms'.lookup key = ms.lookup key) :
    (Judge.assertion (.required keys)).Alike (.object ms) (.object ms') := by
  have has : ∀ key ∈ keys, Assertion.hasKey ms' key = Assertion.hasKey ms key := fun key hk => by
    rw [Assertion.hasKey, Assertion.hasKey, h key hk]
  constructor
  · exact congrArg some (all_congr_mem has)
  · have causes : Assertion.missingKeys ms' keys = Assertion.missingKeys ms keys := by
      rw [Assertion.missingKeys, Assertion.missingKeys]
      refine congrArg (List.map _) (List.filter_congr fun key hk => ?_)
      rw [has key hk]
    have reports (ms : Entries Json) : (Assertion.required keys).failures (.object ms) =
        (Assertion.missingKeys ms keys).map
          ((Assertion.required keys).failure (.object ms)) := rfl
    refine congrArg some ?_
    rw [reports, reports, causes, List.map_map, List.map_map]
    refine List.map_congr_left fun cause hc => ?_
    obtain ⟨key, -, rfl⟩ := List.mem_map.mp hc
    rfl

end Alike

end Judge

/-- Whether a schema looks at nothing in an object but the members under the keys, whatever its
references mean. -/
def JsonSchema.LooksAt (keys : List String) (s : JsonSchema) : Prop :=
  ∀ (refs : Reference → Judge Option) (ms ms' : Entries Json),
    (∀ key ∈ keys, ms'.lookup key = ms.lookup key) → (s.judge refs).Alike (.object ms) (.object ms')

/-! ## What is found at the object itself -/

/-- Whether the failure is found at the value as a whole. One without a place is found nowhere. -/
def Failure.isOfWhole (f : Failure) : Bool :=
  f.instancePath.isEmpty && !f.objection.cause.isUnplaced

/-- Whether the failure says that an object lacks a key. -/
def Failure.Misses (ms : Entries Json) (f : Failure) (key : String) : Prop :=
  ∃ place, f = (Failure.own "required" (.object ms) (.missing key)).under [] place

namespace Failure

/-- What is found at a member is not found at the object itself. -/
theorem isOfWhole_under_member (key : String) (place : Location) (f : Failure) :
    (f.under [.member key] place).isOfWhole = false := by
  cases h : f.objection.cause.isUnplaced with
  | true => rw [under_of_unplaced h, isOfWhole, h, Bool.not_true, Bool.and_false]
  | false => rw [under_of_placed h]; rfl

theorem isOfWhole_under_nil (place : Location) (f : Failure) :
    (f.under [] place).isOfWhole = f.isOfWhole := by
  cases h : f.objection.cause.isUnplaced with
  | true => rw [under_of_unplaced h]
  | false => rw [under_of_placed h]; rfl

theorem Misses.under {ms : Entries Json} {f : Failure} {key : String} (h : f.Misses ms key)
    (place : Location) : (f.under [] place).Misses ms key := by
  obtain ⟨inner, rfl⟩ := h
  exact ⟨place ++ inner, Failure.under_under _ _ _ _ _⟩

end Failure

/-- Whether a schema says of an object itself that it lacks some of the keys, once for each time
that such a key is among them, and nothing else. -/
def JsonSchema.AsksFor (keys : List String) (s : JsonSchema) : Prop :=
  ∀ (refs : Reference → Judge Id) (ms : Entries Json),
    List.Forall₂ (Failure.Misses ms) ((s.flaws refs (.object ms)).filter Failure.isOfWhole)
      (keys.filter fun key => (ms.lookup key).isNone)

/-! ## Slices -/

namespace Schema

variable (c : Context)

/-- An object with one field looks at the member under its key only. -/
theorem looksAt_object (key : String) (s : Schema) :
    ((object [(key, s)]).readIn c).LooksAt [key] := by
  intro refs ms ms' same
  have get (e : String × Judge Option) (he : e ∈ [(key, (s.readIn c).judge refs)]) :
      (Json.object ms').get? e.1 = (Json.object ms).get? e.1 := by
    rw [List.mem_singleton.mp he]
    exact same key List.mem_cons_self
  rw [readIn_object]
  change (Judge.every [_, _, _]).Alike _ _
  refine .every ?_
  refine List.forall_mem_cons.mpr ⟨?_, List.forall_mem_cons.mpr ⟨?_, ?_⟩⟩
  · exact Judge.alike_of_eq (Judge.properties_eq get)
  · exact Judge.alike_required same
  · exact List.forall_mem_singleton.mpr (Judge.alike_of_eq fun q => by cases q <;> rfl)

theorem looksAt_merge {α : Type} (f : α → Schema) {xs : List α} (hxs : xs ≠ [])
    {keys : List String} (h : ∀ x ∈ xs, ((f x).readIn c).LooksAt keys) :
    ((merge (xs.map f)).readIn c).LooksAt keys := by
  match xs, hxs with
  | [x], _ => exact h x List.mem_cons_self
  | x :: x' :: rest, _ =>
      intro refs ms ms' same
      have each : ∀ s ∈ ((x :: x' :: rest).map f).map (readIn c),
          (s.judge refs).Alike (.object ms) (.object ms') := by
        rw [List.map_map]
        exact List.forall_mem_map.mpr fun x hx => h x hx refs ms ms' same
      rw [List.map_cons, List.map_cons, merge_several, readIn_allOf]
      change (Judge.every [_]).Alike _ _
      refine .every (List.forall_mem_singleton.mpr ?_)
      refine Judge.Alike.allOf ?_
      rw [judge_list]
      exact List.forall_mem_map.mpr each

theorem LooksAt.mono {s : JsonSchema} {keys keys' : List String} (h : s.LooksAt keys)
    (sub : keys ⊆ keys') : s.LooksAt keys' :=
  fun refs ms ms' same => h refs ms ms' fun key hk => same key (sub hk)

theorem looksAt_ofField (field : Field Schema) :
    ((ofField field).readIn c).LooksAt [field.key] := by
  cases field with
  | text key => exact looksAt_object c key string
  | data key s => exact looksAt_object c key s

/-- A slice looks at its own keys only. -/
theorem looksAt_ofSlice (slice : Slice Schema) :
    ((ofSlice slice).readIn c).LooksAt slice.fieldKeys := by
  cases slice with
  | leaf field => exact looksAt_ofField c field
  | multi main others =>
      rw [ofSlice_multi, Slice.fieldKeys_multi]
      refine looksAt_merge c ofField (List.cons_ne_nil _ _) fun field hf => ?_
      refine LooksAt.mono (looksAt_ofField c field) fun key hk => ?_
      exact List.mem_flatMap.mpr ⟨field, hf, hk⟩
  | array key child => exact looksAt_object c key _
  | object key children =>
      rw [ofSlice_object]
      exact looksAt_object c key _

/-- An object with one field asks for its key, once, and finds nothing else missing. -/
theorem asksFor_object (key : String) (s : Schema) :
    ((object [(key, s)]).readIn c).AsksFor [key] := by
  intro refs ms
  rw [flaws_object]
  dsimp only
  cases h : ms.lookup key with
  | none =>
      have absent : [key].filter (fun key => (ms.lookup key).isNone) = [key] := by simp [h]
      rw [absent]
      exact .cons ⟨[], (Failure.under_nil _).symm⟩ .nil
  | some x =>
      have present : [key].filter (fun key => (ms.lookup key).isNone) = [] := by simp [h]
      have inside : (((s.readIn c).flaws refs x).map
          (.under [.member key] [.member "properties", .member key])).filter
            Failure.isOfWhole = [] := by
        refine List.filter_eq_nil_iff.mpr (List.forall_mem_map.mpr fun f _ => ?_)
        rw [Failure.isOfWhole_under_member]
        exact Bool.false_ne_true
      rw [present, inside]
      exact .nil

/-- Merged schemas ask for the keys of each in turn, repeats included. -/
theorem asksFor_merge {α : Type} (f : α → Schema) {xs : List α} (hxs : xs ≠ [])
    {keys : α → List String} (h : ∀ x ∈ xs, ((f x).readIn c).AsksFor (keys x)) :
    ((merge (xs.map f)).readIn c).AsksFor (xs.flatMap keys) := by
  match xs, hxs with
  | [x], _ =>
      rw [List.flatMap_singleton]
      exact h x List.mem_cons_self
  | x :: x' :: rest, _ =>
      intro refs ms
      rw [List.map_cons, List.map_cons, merge_several, flaws_allOf, NonEmpty.toList_mk,
        ← List.map_cons, ← List.map_cons, List.zipIdx_map, List.flatMap_map,
        ← flatMap_zipIdx _ 0 keys, List.filter_flatMap, List.filter_flatMap]
      refine List.rel_flatMap (R := fun e e' => e = e' ∧ e ∈ (x :: x' :: rest).zipIdx) ?_ ?_
      · exact List.forall₂_same.mpr fun e he => ⟨rfl, he⟩
      · rintro e _ ⟨rfl, he⟩
        dsimp only [Prod.map_fst, Prod.map_snd, id]
        rw [List.filter_map]
        have whole : Failure.isOfWhole ∘ Failure.under [] [.member "allOf", .element e.2] =
            Failure.isOfWhole := funext (Failure.isOfWhole_under_nil _)
        refine List.forall₂_map_left_iff.mpr ?_
        rw [whole]
        exact (h e.1 (List.fst_mem_of_mem_zipIdx he) refs ms).imp fun _ _ missed => missed.under _

theorem asksFor_ofField (field : Field Schema) :
    ((ofField field).readIn c).AsksFor [field.key] := by
  cases field with
  | text key => exact asksFor_object c key string
  | data key s => exact asksFor_object c key s

/-- A slice says of an object itself that it lacks keys of the slice. -/
theorem asksFor_ofSlice (slice : Slice Schema) :
    ((ofSlice slice).readIn c).AsksFor slice.fieldKeys := by
  cases slice with
  | leaf field => exact asksFor_ofField c field
  | multi main others =>
      rw [ofSlice_multi, Slice.fieldKeys_multi]
      exact asksFor_merge c ofField (List.cons_ne_nil _ _) fun field _ => asksFor_ofField c field
  | array key child => exact asksFor_object c key _
  | object key children =>
      rw [ofSlice_object]
      exact asksFor_object c key _

end Schema

namespace Validator

variable {slice : Slice Schema} {o : Options} {w : Validator}

/-- Objects with the same members under the keys of a slice are treated alike. The references in
data schemas are answered alike because they are asked about equal members. -/
theorem alike_of_ofSlice (h : ofSlice slice o = .ok w) {ms ms' : Entries Json}
    (same : ∀ key ∈ slice.fieldKeys, ms'.lookup key = ms.lookup key) :
    (w.compiled.part w.compiled.root).Alike (.object ms) (.object ms') := by
  rw [eq_of_ofSchema h]
  have read : (Compiled.mk (Schema.ofSlice slice).document o).root.read =
      (Schema.ofSlice slice).readIn (.plain o) := Schema.read_ofSlice o slice
  rw [Compiled.part, read]
  exact Schema.looksAt_ofSlice _ slice _ ms ms' same

/-- What is found at an object itself, if all that is found is known. -/
theorem missing_of_failures (h : ofSlice slice o = .ok w) {ms : Entries Json} {fs : List Failure}
    (report : w.compiled.failures (.object ms) = some fs) :
    List.Forall₂ (Failure.Misses ms) (fs.filter Failure.isOfWhole)
      (slice.fieldKeys.filter fun key => (ms.lookup key).isNone) := by
  have hw := eq_of_ofSchema h
  subst hw
  have read : (Compiled.mk (Schema.ofSlice slice).document o).root.read =
      (Schema.ofSlice slice).readIn (.plain o) := Schema.read_ofSlice o slice
  rw [Compiled.failures, Compiled.part, read] at report
  have found := eq_judge_completed report
  subst found
  exact Schema.asksFor_ofSlice _ slice _ ms

end Validator

/-- A slice cannot tell two objects apart that agree under its keys. What it reports at the place of
an object itself is one absent key for each occurrence of such a key among its keys, in their order,
apart from texts in its data that cannot be decoded, which are reported without a place. -/
theorem validate_fieldKeys {slice : Slice Schema} {o : Options} {w : Validator}
    (h : Validator.ofSlice slice o = .ok w) (ms : Entries Json) :
    (∀ ms' : Entries Json, (∀ key ∈ slice.fieldKeys, ms'.lookup key = ms.lookup key) →
      w.isValid (.object ms') = w.isValid (.object ms) ∧
        w.validate (.object ms') = w.validate (.object ms)) ∧
    ∀ fs, w.compiled.failures (.object ms) = some fs →
      w.violations (.object ms) = some (fs.map ofFailure) ∧
        List.Forall₂ (fun f key => ∃ s, ofFailure f = missing "" s key)
          (fs.filter fun f => (ofFailure f).instancePath = "" ∧ !f.objection.cause.isUnplaced)
          (slice.fieldKeys.filter fun key => (ms.lookup key).isNone) := by
  constructor
  · intro ms' same
    have alike := Validator.alike_of_ofSlice h same
    have shown (x : Json) : w.violations x =
        ((w.compiled.failures x).map (List.map Failure.unvalued)).map (List.map ofFailure) := by
      rw [Validator.violations, Option.map_map]
      refine congrArg (Option.map · _) (funext fun fs => ?_)
      rw [Function.comp_apply, List.map_map]
      exact List.map_congr_left fun f _ => (ofFailure_unvalued f).symm
    have report : w.violations (.object ms') = w.violations (.object ms) := by
      rw [shown, shown]
      exact congrArg (Option.map (List.map ofFailure)) alike.report
    refine ⟨alike.verdict, ?_⟩
    rw [Validator.validate, Validator.validate, report]
  · intro fs report
    refine ⟨by rw [Validator.violations, report, Option.map_some], ?_⟩
    have whole : (fs.filter fun f =>
        (ofFailure f).instancePath = "" ∧ !f.objection.cause.isUnplaced) =
          fs.filter Failure.isOfWhole := by
      refine List.filter_congr fun f _ => ?_
      rw [Failure.isOfWhole, Bool.decide_and, Bool.decide_eq_true]
      refine congrArg (· && _) ?_
      rw [Bool.eq_iff_iff, decide_eq_true_eq, List.isEmpty_iff]
      exact Pointer.render_eq_empty_iff
    rw [whole]
    refine (Validator.missing_of_failures h report).imp ?_
    rintro f key ⟨place, rfl⟩
    exact ⟨Pointer.render place, ofFailure_missing [] place key _⟩

/-- Data that refers to the schema of its sibling, which asks for the same key twice. -/
def Slice.referring : Slice Schema :=
  .dataWith "a" ⟨.object [("$ref", .string "#/allOf/1/properties/b")]⟩
    ⟨("b", .string), [("b", .boolean), ("c", .any)]⟩

/-- Without its keys an object is told so once for each of them, and what else it has does not
matter. -/
theorem validate_fieldKeys_referring :
    ∃ w, ∃ fs : List Failure, Validator.ofSlice Slice.referring .standard = .ok w ∧
      w.validate (.object [("a", .int 1), ("d", .null), ("type", .bool true)]) =
        w.validate (.object [("a", .int 1)]) ∧
      w.violations (.object [("a", .int 1)]) = some (fs.map ofFailure) ∧
      List.Forall₂ (fun f key => ∃ s, ofFailure f = missing "" s key)
        (fs.filter fun f => (ofFailure f).instancePath = "" ∧ !f.objection.cause.isUnplaced)
        ["b", "b", "c"] := by
  have compiled : Validator.ofSlice Slice.referring .standard =
      .ok ⟨⟨(Schema.ofSlice Slice.referring).document, .standard⟩⟩ := by
    decide +kernel
  obtain ⟨same, absent⟩ := validate_fieldKeys compiled [("a", .int 1)]
  let c : Compiled := ⟨(Schema.ofSlice Slice.referring).document, .standard⟩
  obtain ⟨fs, found⟩ :
      ∃ fs, c.root.read.failures (c.within 2) (.object [("a", .int 1)]) = some fs :=
    Option.isSome_iff_exists.mp (by decide +kernel)
  obtain ⟨violations, missing⟩ := absent fs (Compiled.failures_of_within found)
  exact ⟨_, fs, compiled, (same _ (by decide)).2, violations, missing⟩

/-- Text that must stand, in printable form, for JSON text. -/
def Schema.encodedJson : Schema :=
  ⟨.object [("contentEncoding", .string "base64"),
    ("contentMediaType", .string "application/json")]⟩

/-- Bytes that are no text, in data, are reported where the object itself would be, although the
object lacks no key. -/
theorem validate_encodedJson_ne_missing :
    ∃ w, Validator.ofSlice (.data "k" .encodedJson) ⟨.draft7, false⟩ = .ok w ∧
      w.violations (.object [("k", .string "/w==")]) =
        some [⟨"", "", none, "invalid utf-8 sequence of 1 bytes from index 0"⟩] ∧
      ((Slice.data "k" Schema.encodedJson).fieldKeys.filter fun key =>
        (([("k", .string "/w==")] : Entries Json).lookup key).isNone) = [] := by
  have compiled : Validator.ofSlice (.data "k" .encodedJson) ⟨.draft7, false⟩ =
      .ok ⟨⟨(Schema.ofSlice (.data "k" .encodedJson)).document, ⟨.draft7, false⟩⟩⟩ := by
    decide +kernel
  exact ⟨_, compiled, by decide +kernel, rfl⟩

end SliceContract
