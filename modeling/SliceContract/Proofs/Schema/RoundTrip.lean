import SliceContract.Proofs.Answers
import SliceContract.Proofs.Json.Reading
import SliceContract.Proofs.Slice.Compiling

/-!
# Schemas read back from their text

The text of a schema is a document that a validator of any document reads as the schema. The main
statement is `validateJson_display`.
-/

namespace SliceContract

namespace Schema

/-- Whether a schema has no floating-point number and no more levels than a reader allows. -/
structure Plain (schema : Schema) : Prop where
  floatless : schema.document.Everywhere Json.NotFloat
  shallow : schema.document.depth ≤ Json.levelLimit

/-- Whether a validator of any document reads the text of a schema as its document, whatever the
validator is compiled for. -/
def ReadsBack (schema : Schema) : Prop :=
  ∀ options, ∃ w, Validator.ofSchema any options = .ok w ∧
    w.validateJson schema.display = some (.ok schema.document)

/-- The schema that says nothing compiles under all options and accepts all values. -/
theorem exists_ofSchema_any (options : Options) :
    ∃ w, Validator.ofSchema any options = .ok w ∧ ∀ v, w.validate v = some (.ok ()) := by
  refine ⟨⟨⟨any.document, options⟩⟩, ?_, fun v => ?_⟩
  all_goals
    obtain ⟨draft, formats⟩ := options
    cases draft <;> cases formats <;> rfl

/-- The displayed text of a schema parses to its document. -/
theorem parse_display {schema : Schema} (storable : schema.document.Storable)
    (plain : schema.Plain) : Json.parse schema.display = .ok schema.document :=
  Json.parse_compact storable.formed storable.parts plain.floatless plain.shallow

theorem readsBack {schema : Schema} (storable : schema.document.Storable) (plain : schema.Plain) :
    schema.ReadsBack := by
  intro options
  obtain ⟨w, built, accepts⟩ := exists_ofSchema_any options
  refine ⟨w, built, ?_⟩
  have loaded : Loading.fromJson schema.display = .ok schema.document :=
    Loading.fromJson_ok_iff.mpr (parse_display storable plain)
  rw [Validator.validateJson, loaded, Validator.validateLoaded, accepts]
  rfl

/-- What is true of all parts of the data schemas, and of everything that is no number, is true of
all parts of what a slice is lowered to. -/
theorem throughout_ofSlice {p : Json → Prop} (others : ∀ v : Json, (∀ n, v ≠ .number n) → p v)
    {slice : Slice Schema} (h : ∀ s ∈ slice.schemas, s.document.Throughout p) :
    (ofSlice slice).document.Throughout p := by
  have text (s : String) : (Json.string s).Throughout p :=
    ⟨Json.wellFormed_string s, (Json.everywhere_string s).mpr (others _ nofun)⟩
  have list {xs : List Json} : (∀ x ∈ xs, x.Throughout p) → (Json.array xs).Throughout p :=
    Json.throughout_array (others _ nofun)
  have record {ms : Entries Json} (ordered : ms.Ordered) :
      (∀ m ∈ ms, m.2.Throughout p) → (Json.object ms).Throughout p :=
    Json.throughout_object ordered (others _ nofun)
  have sorted {ms : Entries Json} : (ms.map (·.1)).Pairwise (· < ·) → ms.Ordered :=
    List.pairwise_map.mp
  refine ofSlice_closed (P := fun s => s.document.Throughout p) ?_ ?_ ?_ ?_ h
  · exact record (by decide) (by simpa using text "string")
  · intro key s hs
    have properties : (Json.object [(key, s.document)]).Throughout p :=
      record (List.pairwise_singleton _ _) (by simpa using hs)
    have required : (Json.array [.string key]).Throughout p := list (by simpa using text key)
    exact record (sorted (by change ["properties", "required", "type"].Pairwise _; decide))
      (by simpa using ⟨properties, required, text "object"⟩)
  · intro s _ hs
    exact record (sorted (by change ["items", "type"].Pairwise _; decide))
      (by simpa using ⟨hs, text "array"⟩)
  · intro ss hss
    have branches : (Json.array (ss.toList.map (·.document))).Throughout p :=
      list (List.forall_mem_map.mpr hss)
    exact record (List.pairwise_singleton _ _) (by simpa using branches)

/-- The document of a slice can be stored if its data schemas can be; the keys do not matter. -/
theorem storable_ofSlice {slice : Slice Schema} (h : ∀ s ∈ slice.schemas, s.document.Storable) :
    (ofSlice slice).document.Storable :=
  throughout_ofSlice (fun _ other _ same => absurd same (other _)) h

end Schema

open Schema

/-- The text of a schema that can be held, is not too deep and has no floating-point number reads
back as its document, whatever keys there are; and so does that of a slice, if its data schemas can
be held. Such a schema is told by its text. -/
theorem validateJson_display :
    (∀ schema : Schema, schema.document.Storable → schema.Plain → schema.ReadsBack) ∧
      (∀ slice : Slice Schema, (∀ s ∈ slice.schemas, s.document.Storable) →
        (ofSlice slice).Plain → (ofSlice slice).ReadsBack) ∧
      ∀ a b : Schema, a.document.Storable → a.Plain → b.document.Storable → b.Plain →
        a.display = b.display → a = b := by
  refine ⟨fun _ => readsBack, fun _ storable => readsBack (storable_ofSlice storable), ?_⟩
  intro a b storableA plainA storableB plainB same
  have documents : Except.ok a.document = (Except.ok b.document : Except Json.Reader.Error Json) :=
    calc
      .ok a.document = Json.parse a.display := (parse_display storableA plainA).symm
      _ = Json.parse b.display := by rw [same]
      _ = .ok b.document := parse_display storableB plainB
  cases a
  cases b
  cases documents
  rfl

/-- The least and the greatest whole number of 64 bits as the bounds of a number. -/
def Schema.bounded : Schema :=
  ⟨.object [("maximum", .int 18446744073709551615), ("minimum", .int (-9223372036854775808))]⟩

/-- A slice whose keys are escaped in different ways or not at all. -/
def Slice.escaped : Slice Schema :=
  .object "a \"quoted\" \\ key\n" ⟨.leaf (.text "\u0001"), [.array "é" (.leaf (.data "🦀" bounded))]⟩

theorem readsBack_escaped : (∀ s ∈ Slice.escaped.schemas, s.document.Storable) ∧
    (ofSlice .escaped).Plain ∧ (ofSlice .escaped).ReadsBack := by
  have only : Slice.escaped.schemas = [bounded] := rfl
  have formed : bounded.document.WellFormed := by
    simp [bounded, Json.int, Json.WellFormed]
    decide
  have fits : bounded.document.Everywhere Json.Fits64 := by
    simp (disch := decide) [bounded, Json.everywhere_object, Json.Fits64, Json.int]
  have whole : bounded.document.Everywhere Json.NotFloat := by
    simp (disch := decide) [bounded, Json.everywhere_object, Json.NotFloat, Json.int]
  have storable : ∀ s ∈ Slice.escaped.schemas, s.document.Storable := by
    rw [only, List.forall_mem_singleton]
    exact ⟨formed, fits⟩
  have floatless : ∀ s ∈ Slice.escaped.schemas, s.document.Throughout Json.NotFloat := by
    rw [only, List.forall_mem_singleton]
    exact ⟨formed, whole⟩
  have plain : (ofSlice .escaped).Plain :=
    ⟨(throughout_ofSlice (fun _ other _ => other _) floatless).parts, by decide⟩
  exact ⟨storable, plain, validateJson_display.2.1 .escaped storable plain⟩

end SliceContract
