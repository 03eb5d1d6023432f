import SliceContract.Proofs.Slice.Compiling

/-!
# A schema at a key

The document of a data field holds the schema of the field verbatim, one level down. There the
schema is one inside another, so that a draft or an identifier that it names takes effect, and
references in it are resolved against the whole. The main statement is `ofSlice_data_faithful_iff`:
under which condition the slice still accepts at its key what the schema accepts by itself.
-/

namespace SliceContract

open JsonSchema

/-- Every reference on the way from a document is listed among those that can be reached. -/
theorem Compiled.Reaches.mem_reachable {c : Compiled} {r : Reference}
    (reached : c.Reaches c.root.read r) : r ∈ Reference.reachable c.root := by
  cases reached with
  | direct h => exact Reference.mem_reachable List.mem_cons_self h
  | onward _ resolves h =>
      exact Reference.mem_reachable
        (List.mem_cons_of_mem _ (Reference.mem_targets_of_resolve resolves)) h

namespace Schema

/-- The document that asks for a member that follows the schema. -/
def enclosed (key : String) (o : Options) (s : Schema) : Compiled :=
  ⟨(object [(key, s)]).document, o⟩

variable {key : String} {o : Options} {s : Schema}

/-- Under a key a schema reads as a schema without surroundings: the draft is that of the options.
-/
theorem enclosed_read :
    (s.enclosed key o).root.read = (object [(key, s)]).readIn (.plain o) :=
  read_of_anonymous ⟨rfl, rfl, rfl⟩

/-- Enclosing a schema adds no demands. -/
theorem enclosed_demands :
    (s.enclosed key o).root.read.demands = (s.readIn (.plain o)).demands := by
  rw [enclosed_read, demands_object]

/-- The object with the one member is judged as the member is. -/
theorem enclosed_accepts (x : Json) :
    (s.enclosed key o).accepts (.object [(key, x)]) =
      (s.readIn (.plain o)).accepts (s.enclosed key o).answer x := by
  have found : (Json.object [(key, x)]).get? key = some x := by
    rw [Json.get?_object, Entries.lookup_cons, if_pos rfl]
  have required : (Assertion.required [key]).holds (.object [(key, x)]) = true := by
    rw [Assertion.holds, Assertion.onObject, List.all_cons, Assertion.hasKey, Entries.lookup_cons,
      if_pos rfl]
    rfl
  rw [Compiled.accepts, Compiled.part, enclosed_read, readIn_object, accepts]
  generalize hj : (s.readIn (.plain o)).judge (s.enclosed key o).answer = j
  have whole : (keywords [properties [(key, s.readIn (.plain o))], assertion (.required [key]),
      typed (.plain o) .object]).judge (s.enclosed key o).answer =
        Judge.every [.properties [(key, j)], .assertion (.required [key]),
          .assertion (.type ((Context.plain o).draft = .draft4) [.object])] := by
    rw [← hj]
    rfl
  have member : Judge.properties [(key, j)] .verdict (.object [(key, x)]) = j .verdict x := by
    simp only [Judge.properties, List.allM, found]
    rcases j .verdict x with _ | _ | _ <;> rfl
  simp only [whole, Judge.every, List.allM, member, Judge.assertion, required]
  rcases j .verdict x with _ | _ | _ <;> rfl

/-- What the document of the slice reaches it reaches through the schema under its key. -/
theorem enclosed_reaches_iff (r : Reference) :
    (s.enclosed key o).Reaches (s.enclosed key o).root.read r ↔
      (s.enclosed key o).Reaches (s.readIn (.plain o)) r := by
  have same (next : Reference) : (s.enclosed key o).root.read.RefersTo next ↔
      (s.readIn (.plain o)).RefersTo next := by
    rw [RefersTo, RefersTo, enclosed_demands]
  constructor
  · exact fun h => h.mono fun next => (same next).mp
  · exact fun h => h.mono fun next => (same next).mpr

/-- Whether the slice of a data field with the schema compiles, and judges at its key as the
validator does. -/
def FaithfulAt (key : String) (o : Options) (s : Schema) (w : Validator) : Prop :=
  ∃ w', Validator.ofSlice (.data key s) o = .ok w' ∧
    ∀ x, w'.isValid (.object [(key, x)]) = w.isValid x

open Compiled

/-- The slice of a data field compiles when its schema does, is fit where it stands, and its
references lead somewhere in the document of the slice. -/
theorem exists_ofSlice_data_iff (h : ∃ w, Validator.ofSchema s o = .ok w) :
    (∃ w', Validator.ofSlice (.data key s) o = .ok w') ↔
      (s.readIn (.plain o)).Fit ∧
        ∀ r, (s.enclosed key o).Reaches (s.readIn (.plain o)) r → (s.enclosed key o).Leads r := by
  obtain ⟨unobjected, -⟩ :=
    (build_iff_leads ⟨s.document, o⟩).mp (Validator.exists_ofSchema_iff.mp h)
  have enclosedUnobjected : Metaschema.objection? o.draft (s.enclosed key o).document = none :=
    (objection_object o.draft key s).trans unobjected
  refine Validator.exists_ofSchema_iff.trans ((build_iff_leads (s.enclosed key o)).trans ?_)
  rw [Fit, Fit, enclosed_demands]
  constructor
  · intro ⟨_, fit, leads⟩
    exact ⟨fit, fun r hr => leads r ((enclosed_reaches_iff r).mpr hr)⟩
  · intro ⟨fit, leads⟩
    exact ⟨enclosedUnobjected, fit, fun r hr => leads r ((enclosed_reaches_iff r).mp hr)⟩

/-- The slice judges the member at its key as the enclosed schema does, whose references are
answered by the document around it. -/
theorem isValid_ofSlice_data {w' : Validator} (h : Validator.ofSlice (.data key s) o = .ok w')
    (x : Json) : w'.isValid (.object [(key, x)]) =
      (s.readIn (.plain o)).accepts (s.enclosed key o).answer x := by
  rw [Validator.eq_of_ofSchema h]
  exact enclosed_accepts x

variable {w : Validator}

/-- A field is faithful when its schema can be used where it stands and is judged the same there. -/
theorem faithfulAt_iff (h : Validator.ofSchema s o = .ok w) :
    s.FaithfulAt key o w ↔
      ((s.readIn (.plain o)).Fit ∧
        ∀ r, (s.enclosed key o).Reaches (s.readIn (.plain o)) r → (s.enclosed key o).Leads r) ∧
      ∀ x, (s.readIn (.plain o)).accepts (s.enclosed key o).answer x =
        (s.read o).accepts w.compiled.answer x := by
  rw [← exists_ofSlice_data_iff ⟨w, h⟩, FaithfulAt, Validator.eq_of_ofSchema h]
  constructor
  · rintro ⟨w', hw', same⟩
    exact ⟨⟨w', hw'⟩, fun x => (isValid_ofSlice_data hw' x).symm.trans (same x)⟩
  · rintro ⟨⟨w', hw'⟩, same⟩
    exact ⟨w', hw', fun x => (isValid_ofSlice_data hw' x).trans (same x)⟩

/-- A field is faithful when its schema names no other draft, and the references that it leads to
keep their meaning in the document of the slice. -/
theorem faithfulAt_of_resolved (h : Validator.ofSchema s o = .ok w)
    (draft : o.draft.detect s.document = o.draft)
    (same : ∀ r, w.compiled.Reaches (s.read o) r →
      (s.enclosed key o).resolved r = w.compiled.resolved r) : s.FaithfulAt key o w := by
  obtain ⟨-, fit, leads⟩ :=
    (build_iff_leads ⟨s.document, o⟩).mp (Validator.exists_ofSchema_iff.mp ⟨w, h⟩)
  have hw := Validator.eq_of_ofSchema h
  subst hw
  rw [faithfulAt_iff h, ← read_eq_readIn draft]
  refine ⟨⟨fit, fun r hr => ?_⟩, fun x => ?_⟩
  · have hr' := (Reaches.shared same).mp hr
    obtain ⟨target, resolves, targetFit⟩ := leads r hr'
    exact ⟨target, (same r hr').trans resolves, targetFit⟩
  · exact congrArg (fun j : Judge Option => j .verdict x) (judge_answer_congr same)

end Schema

open Schema Compiled

/-- A data field is faithful to its schema exactly when three things hold of the schema where it
stands in the document of the slice: it is fit there, all references that it leads to name fit
schemas there, and it accepts there what it accepts by itself. For that it suffices that it names no
other draft and that each reference it leads to names in the larger document what it names in its
own. -/
theorem ofSlice_data_faithful_iff {s : Schema} {o : Options} {w : Validator}
    (h : Validator.ofSchema s o = .ok w) (key : String) :
    (s.FaithfulAt key o w ↔
      ((s.readIn (.plain o)).Fit ∧
        ∀ r, (s.enclosed key o).Reaches (s.readIn (.plain o)) r → (s.enclosed key o).Leads r) ∧
      ∀ x, (s.readIn (.plain o)).accepts (s.enclosed key o).answer x =
        (s.read o).accepts w.compiled.answer x) ∧
    (o.draft.detect s.document = o.draft →
      (∀ r, w.compiled.Reaches (s.read o) r →
        (s.enclosed key o).resolved r = w.compiled.resolved r) →
      s.FaithfulAt key o w) :=
  ⟨faithfulAt_iff h, faithfulAt_of_resolved h⟩

/-- A schema with two members at which its reference leads to the same schema, one of them when it
stands at the key `k`. -/
def Schema.relocatable : Schema :=
  ⟨.object [("$ref", .string "#/properties/k/x"),
    ("properties", .object [("k", .object [("x", string.document)])]), ("x", string.document)]⟩

/-- A reference by a pointer that means the same in both documents does no harm. -/
theorem faithfulAt_relocatable :
    Schema.relocatable.FaithfulAt "k" .standard
      ⟨⟨Schema.relocatable.document, .standard⟩⟩ := by
  let c : Compiled := ⟨Schema.relocatable.document, .standard⟩
  have own : Validator.ofSchema Schema.relocatable .standard = .ok ⟨c⟩ := by
    decide +kernel
  have same : ∀ r ∈ Reference.reachable c.root,
      (Schema.relocatable.enclosed "k" .standard).resolved r = c.resolved r := by
    decide +kernel
  exact (ofSlice_data_faithful_iff own "k").2 rfl fun r hr => same r (Reaches.mem_reachable hr)

/-- A schema that refers to a definition of its own. -/
def Schema.defined : Schema :=
  ⟨.object [("$ref", .string "#/definitions/s"),
    ("definitions", .object [("s", string.document)])]⟩

/-- A schema of chains: what is next follows the whole schema again. -/
def Schema.chained : Schema :=
  ⟨.object [("properties", .object [("next", .object [("$ref", .string "#")])]),
    ("type", .string "object")]⟩

/-- The definition is not found from the document of the slice, and the link of the chain is held
against the document of the slice, which asks for the key once more. -/
theorem not_faithfulAt_own_references :
    (∃ w, Validator.ofSchema Schema.defined .standard = .ok w ∧
      ¬ Schema.defined.FaithfulAt "k" .standard w) ∧
    ∃ w, Validator.ofSchema Schema.chained .standard = .ok w ∧
      ¬ Schema.chained.FaithfulAt "k" .standard w := by
  constructor
  · have own : Validator.ofSchema Schema.defined .standard =
        .ok ⟨⟨Schema.defined.document, .standard⟩⟩ := by
      decide +kernel
    have dangling : Validator.ofSlice (.data "k" Schema.defined) .standard =
        .error (.reference (.danglingPointer "/definitions/s")) := by
      decide +kernel
    refine ⟨_, own, ?_⟩
    rintro ⟨w', hw', -⟩
    cases dangling.symm.trans hw'
  · have own : Validator.ofSchema Schema.chained .standard =
        .ok ⟨⟨Schema.chained.document, .standard⟩⟩ := by
      decide +kernel
    have accepted : (Compiled.mk Schema.chained.document .standard).accepts
        (.object [("next", .object [])]) = some true :=
      accepts_of_within (n := 2) (by decide +kernel)
    have refused : (Schema.chained.enclosed "k" .standard).accepts
        (.object [("k", .object [("next", .object [])])]) = some false :=
      accepts_of_within (n := 2) (by decide +kernel)
    refine ⟨_, own, ?_⟩
    rintro ⟨w', hw', faithful⟩
    have same := faithful (.object [("next", .object [])])
    rw [Validator.eq_of_ofSchema hw'] at same
    cases (refused.symm.trans same).trans accepted

end SliceContract
