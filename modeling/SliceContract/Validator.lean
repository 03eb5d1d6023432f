import SliceContract.Event
import SliceContract.JsonSchema.Compiled
import SliceContract.Refusal
import SliceContract.Schema

/-!
# Validators

A slice is lowered to a schema, the schema is compiled under options, and the result judges
documents, given as values or as text: by a verdict, by the list of all violations, or by narrowing
a document into a typed value.
-/

namespace SliceContract

/-- A schema with its compiled form; built only by `ofSchema`. -/
structure Validator where
  compiled : Compiled
  deriving DecidableEq, Repr

namespace Validator

def schema (v : Validator) : Schema := ⟨v.compiled.document⟩

def options (v : Validator) : Options := v.compiled.options

/-- Compile a schema. -/
def ofSchema (schema : Schema) (options : Options) : Except BuildError Validator :=
  match Compiled.build schema.document options with
  | .ok compiled => .ok ⟨compiled⟩
  | .error e => .error e

/-- Compile a slice by way of its schema. -/
def ofSlice (slice : Slice Schema) (options : Options) : Except BuildError Validator :=
  ofSchema (Schema.ofSlice slice) options

/-- The events of compiling a slice, whether or not it succeeds. -/
def compileEvents (slice : Slice Schema) (options : Options) : List Event :=
  .compiling slice.kind slice.depth options.draft :: slice.loweringEvents Schema.engine

/-- Compile a slice and keep a log: the one run that `ofSlice` and `compileEvents` are about. -/
def compile (slice : Slice Schema) (options : Options) :
    StateM (List Event) (Except BuildError Validator) := do
  let observe (event : Event) : StateM (List Event) Unit := modify (· ++ [event])
  observe (.compiling slice.kind slice.depth options.draft)
  let schema ← slice.lowerM (Slice.logging Schema.engine) observe
  return ofSchema schema options

/-! ## Documents

A document has no answer when the references of the schema lead round in a circle on it. -/

/-- Whether a document conforms. -/
def isValid (v : Validator) (document : Json) : Option Bool := v.compiled.accepts document

/-- Every violation of a document, in the order of the schema's keywords. -/
def violations (v : Validator) (document : Json) : Option (List Violation) :=
  (v.compiled.failures document).map fun failures => failures.map .ofFailure

/-- Succeeds on a document without violations. -/
def validate (v : Validator) (document : Json) : Option (Except Refusal Unit) :=
  (v.violations document).map fun
    | [] => .ok ()
    | violations => .error (.violations violations)

/-- The events of validating a document. -/
def validateEvents (v : Validator) (document : Json) : Option (List Event) :=
  (v.violations document).map fun
    | [] => []
    | violations => [.rejected violations.length (Violations.fields violations)]

/-- Read a document without violations as a typed value. -/
def parse {α : Type} (v : Validator) (read : Json → Except Narrowing.Error α) (document : Json) :
    Option (Except Refusal α) :=
  (v.validate document).map fun answer => do
    answer
    (read document).mapError .narrowing

/-- Narrow a document without violations to a shape. -/
def narrow (v : Validator) (shape : Shape) : Json → Option (Except Refusal Json) :=
  v.parse shape.narrow

/-- Validate the document that a text was loaded as. -/
def validateLoaded (v : Validator) : Except LoadError Json → Option (Except Refusal Json)
  | .error e => some (.error (.loading e))
  | .ok document => (v.validate document).map fun answer => answer.map fun _ => document

/-- Load a document from JSON text and validate it. -/
def validateJson (v : Validator) (text : String) : Option (Except Refusal Json) :=
  v.validateLoaded (Loading.fromJson text)

/-- Load a document from YAML text and validate it; with the tags that were dropped. -/
def validateYaml (v : Validator) (text : String) :
    List Yaml.DroppedTag × Option (Except Refusal Json) :=
  let (dropped, loaded) := Loading.fromYaml text
  (dropped, v.validateLoaded loaded)

/-- The text of a validator in a log. -/
def debug (v : Validator) : String :=
  "SliceValidator \x7b schema: Schema(" ++ debugJson v.compiled.document ++
    "), options: CompileOptions \x7b draft: " ++ v.options.draft.name ++ ", validate_formats: " ++
    toString v.options.validateFormats ++ " \x7d, .. \x7d"
where
  debugJson : Json → String
    | .null => "Null"
    | .bool b => "Bool(" ++ toString b ++ ")"
    | .number n => "Number(" ++ String.ofList n.text ++ ")"
    | .string s => "String(" ++ Debug.quoted s ++ ")"
    | .array xs => "Array [" ++ ", ".intercalate (items xs) ++ "]"
    | .object ms => "Object \x7b" ++ ", ".intercalate (members ms) ++ "\x7d"
  items : List Json → List String
    | [] => []
    | x :: rest => debugJson x :: items rest
  members : List (String × Json) → List String
    | [] => []
    | (key, x) :: rest => (Debug.quoted key ++ ": " ++ debugJson x) :: members rest

end Validator

end SliceContract
