import SliceContract.Json.Comparison
import SliceContract.JsonSchema.Failure

/-!
# What a schema document must look like

Each draft says which values its keywords may have. A document that breaks this has a first
objection: the keywords of a schema object are checked in the draft's order, not in that of the
document, and the schemas inside a keyword's value with it.
-/

namespace SliceContract

namespace Metaschema

/-- What the value of a keyword must be. -/
inductive Rule where
  | anything
  | schema
  /-- A boolean or a schema. -/
  | flagOrSchema
  | schemas
  /-- A schema or a list of schemas. -/
  | schemaOrSchemas
  | table
  | patternTable
  /-- A table of schemas or of lists of keys. -/
  | dependencies
  /-- A table of lists of keys. -/
  | keyTable
  | keys
  | text
  | matching (pattern : String)
  | formatted (format : Format)
  | flag
  /-- A table of booleans. -/
  | flagTable
  | number
  | positive
  | size
  | list
  | types
  deriving DecidableEq, Repr

/-- The rules of draft 4, in its order. -/
def rules4 : List (String × Rule) := [
  ("$schema", .text), ("additionalItems", .flagOrSchema), ("additionalProperties", .flagOrSchema),
  ("allOf", .schemas), ("anyOf", .schemas), ("default", .anything), ("definitions", .table),
  ("dependencies", .dependencies), ("description", .text), ("enum", .list),
  ("exclusiveMaximum", .flag), ("exclusiveMinimum", .flag), ("format", .text), ("id", .text),
  ("items", .schemaOrSchemas), ("maxItems", .size), ("maxLength", .size), ("maxProperties", .size),
  ("maximum", .number), ("minItems", .size), ("minLength", .size), ("minProperties", .size),
  ("minimum", .number), ("multipleOf", .positive), ("not", .schema), ("oneOf", .schemas),
  ("pattern", .formatted .pattern), ("patternProperties", .table), ("properties", .table),
  ("required", .keys), ("title", .text), ("type", .types), ("uniqueItems", .flag)]

/-- The rules of draft 6, in its order. -/
def rules6 : List (String × Rule) := [
  ("$id", .formatted .uriReference), ("$ref", .formatted .uriReference),
  ("$schema", .formatted .uri), ("additionalItems", .schema), ("additionalProperties", .schema),
  ("allOf", .schemas), ("anyOf", .schemas), ("const", .anything), ("contains", .schema),
  ("default", .anything), ("definitions", .table), ("dependencies", .dependencies),
  ("description", .text), ("enum", .list), ("examples", .list), ("exclusiveMaximum", .number),
  ("exclusiveMinimum", .number), ("format", .text), ("items", .schemaOrSchemas),
  ("maxItems", .size), ("maxLength", .size), ("maxProperties", .size), ("maximum", .number),
  ("minItems", .size), ("minLength", .size), ("minProperties", .size), ("minimum", .number),
  ("multipleOf", .positive), ("not", .schema), ("oneOf", .schemas),
  ("pattern", .formatted .pattern), ("patternProperties", .patternTable), ("properties", .table),
  ("propertyNames", .schema), ("required", .keys), ("title", .text), ("type", .types),
  ("uniqueItems", .flag)]

/-- The rules of draft 7, in its order. -/
def rules7 : List (String × Rule) := [
  ("$comment", .text), ("$id", .formatted .uriReference), ("$ref", .formatted .uriReference),
  ("$schema", .formatted .uri), ("additionalItems", .schema), ("additionalProperties", .schema),
  ("allOf", .schemas), ("anyOf", .schemas), ("const", .anything), ("contains", .schema),
  ("contentEncoding", .text), ("contentMediaType", .text), ("default", .anything),
  ("definitions", .table), ("dependencies", .dependencies), ("description", .text),
  ("else", .schema), ("enum", .list), ("examples", .list), ("exclusiveMaximum", .number),
  ("exclusiveMinimum", .number), ("format", .text), ("if", .schema), ("items", .schemaOrSchemas),
  ("maxItems", .size), ("maxLength", .size), ("maxProperties", .size), ("maximum", .number),
  ("minItems", .size), ("minLength", .size), ("minProperties", .size), ("minimum", .number),
  ("multipleOf", .positive), ("not", .schema), ("oneOf", .schemas),
  ("pattern", .formatted .pattern), ("patternProperties", .patternTable), ("properties", .table),
  ("propertyNames", .schema), ("readOnly", .flag), ("required", .keys), ("then", .schema),
  ("title", .text), ("type", .types), ("uniqueItems", .flag)]

/-- The keywords that later drafts share for judging single values. -/
def validationRules : List (String × Rule) := [
  ("const", .anything), ("dependentRequired", .keyTable), ("enum", .list),
  ("exclusiveMaximum", .number), ("exclusiveMinimum", .number), ("maxContains", .size),
  ("maxItems", .size), ("maxLength", .size), ("maxProperties", .size), ("maximum", .number),
  ("minContains", .size), ("minItems", .size), ("minLength", .size), ("minProperties", .size),
  ("minimum", .number), ("multipleOf", .positive), ("pattern", .text), ("required", .keys),
  ("type", .types), ("uniqueItems", .flag)]

/-- Notes to readers, formats, and contents. -/
def annotationRules : List (String × Rule) := [
  ("default", .anything), ("deprecated", .flag), ("description", .text), ("examples", .list),
  ("readOnly", .flag), ("title", .text), ("writeOnly", .flag), ("format", .text),
  ("contentEncoding", .text), ("contentMediaType", .text), ("contentSchema", .schema)]

/-- Keywords of earlier drafts that later drafts still know. -/
def legacyRules : List (String × Rule) := [
  ("definitions", .table), ("dependencies", .dependencies)]

/-- Identifiers may end in an empty fragment but have no other. -/
def identifier : Rule := .matching "^[^#]*#?$"

/-- The rules of draft 2019-09: those of each of its vocabularies in turn. -/
def rules201909 : List (String × Rule) :=
  [("$anchor", .matching "^[A-Za-z][-A-Za-z0-9.:_]*$"), ("$comment", .text), ("$defs", .table),
    ("$id", identifier), ("$recursiveAnchor", .flag), ("$recursiveRef", .text), ("$ref", .text),
    ("$schema", .text), ("$vocabulary", .flagTable),
    ("additionalItems", .schema), ("additionalProperties", .schema), ("allOf", .schemas),
    ("anyOf", .schemas), ("contains", .schema), ("dependentSchemas", .table), ("else", .schema),
    ("if", .schema), ("items", .schemaOrSchemas), ("not", .schema), ("oneOf", .schemas),
    ("patternProperties", .table), ("properties", .table), ("propertyNames", .schema),
    ("then", .schema), ("unevaluatedItems", .schema), ("unevaluatedProperties", .schema)] ++
  validationRules ++ annotationRules ++ legacyRules

/-- The names that draft 2020-12 allows for anchors. -/
def anchorName : Rule := .matching "^[A-Za-z_][-A-Za-z0-9._]*$"

/-- The rules of draft 2020-12: those of each of its vocabularies in turn. -/
def rules202012 : List (String × Rule) :=
  [("$anchor", anchorName), ("$comment", .text), ("$defs", .table),
    ("$dynamicAnchor", anchorName), ("$dynamicRef", .text), ("$id", identifier), ("$ref", .text),
    ("$schema", .text), ("$vocabulary", .flagTable), ("additionalProperties", .schema),
    ("allOf", .schemas), ("anyOf", .schemas),
    ("contains", .schema), ("dependentSchemas", .table), ("else", .schema), ("if", .schema),
    ("items", .schema), ("not", .schema), ("oneOf", .schemas), ("patternProperties", .table),
    ("prefixItems", .schemas), ("properties", .table), ("propertyNames", .schema),
    ("then", .schema), ("unevaluatedItems", .schema), ("unevaluatedProperties", .schema)] ++
  validationRules ++ annotationRules ++
  [("$recursiveAnchor", anchorName), ("$recursiveRef", .text)] ++ legacyRules

def rules : Draft → List (String × Rule)
  | .draft4 => rules4
  | .draft6 => rules6
  | .draft7 => rules7
  | .draft201909 => rules201909
  | .draft202012 => rules202012

/-- Place in the draft's order, and rule, of a keyword that the draft has a rule for. -/
def ranked? (draft : Draft) (keyword : String) : Option (Nat × Rule) :=
  let place := (rules draft).findIdx fun entry => entry.1 == keyword
  ((rules draft)[place]?).map fun entry => (place, entry.2)

def object (subject : Json) (expected : List TypeName) : Option Objection :=
  some ⟨subject, .wrongType expected⟩

/-- A value must have one of the types. -/
def typed (expected : List TypeName) (v : Json) : Option Objection :=
  if expected.any (·.accepts true v) then none else object v expected

/-- A whole number that is not negative; draft 4 does not count whole doubles. -/
def sizeObjection (draft : Draft) (v : Json) : Option Objection :=
  match v with
  | .number n =>
    if n.toRat < 0 then some ⟨v, .belowMinimum (.int 0)⟩
    else if TypeName.integer.accepts (draft = .draft4) v then none
    else object v [.integer]
  | _ => object v [.integer]

def positiveObjection (v : Json) : Option Objection :=
  match v with
  | .number n => if n.toRat ≤ 0 then some ⟨v, .notAboveMinimum (.int 0)⟩ else none
  | _ => object v [.number]

/-- Strings without repetition; draft 4 asks for at least one. -/
def keysObjection (draft : Draft) (v : Json) : Option Objection :=
  match v with
  | .array xs =>
    match xs.findSome? (typed [.string]) with
    | some o => some o
    | none =>
      if draft = .draft4 ∧ xs.isEmpty then some ⟨v, .tooFewItems 1⟩
      else if Json.allDistinct xs then none
      else some ⟨v, .repeatedItems⟩
  | _ => object v [.array]

def formattedObjection (draft : Draft) (format : Format) (v : Json) : Option Objection :=
  match v with
  | .string s =>
    if draft.atLeast .draft201909 || format.accepts s then none
    else some ⟨v, .wrongFormat format.name⟩
  | _ => object v [.string]

/-- The name of a type, or several names without repetition. -/
def typesObjection (v : Json) : Option Objection :=
  let isName (v : Json) : Bool := match v with
    | .string s => (TypeName.ofName? s).isSome
    | _ => false
  let fits := isName v || match v with
    | .array xs => !xs.isEmpty && xs.all isName && Json.allDistinct xs
    | _ => false
  if fits then none else some ⟨v, .noBranch "anyOf"⟩

def matchingObjection (pattern : String) (v : Json) : Option Objection :=
  match v with
  | .string s => if Pattern.occurs pattern s then none else some ⟨v, .noMatch pattern⟩
  | _ => object v [.string]

def patternNamesObjection (draft : Draft) (ms : Entries Json) : Option Objection :=
  ms.findSome? fun (key, _) => formattedObjection draft .pattern (.string key)

/-- The objection to a value with no schemas inside it. -/
def plainObjection (draft : Draft) (rule : Rule) (v : Json) : Option Objection :=
  match rule with
  | .keys => keysObjection draft v
  | .text => typed [.string] v
  | .matching pattern => matchingObjection pattern v
  | .formatted format => formattedObjection draft format v
  | .flag => typed [.boolean] v
  | .number => typed [.number] v
  | .positive => positiveObjection v
  | .size => sizeObjection draft v
  | .list => typed [.array] v
  | .types => typesObjection v
  | .flagTable =>
    match v with
    | .object ms => ms.findSome? fun (_, x) => typed [.boolean] x
    | _ => object v [.object]
  | .keyTable =>
    match v with
    | .object ms => ms.findSome? fun (_, x) => keysObjection draft x
    | _ => object v [.object]
  | _ => none

/-- The objection of the lowest place, the first of several at one place. -/
def lowest : List (Nat × Objection) → Option Objection
  | [] => none
  | (place, o) :: rest => some (go place o rest)
where
  go (place : Nat) (o : Objection) : List (Nat × Objection) → Objection
    | [] => o
    | (place', o') :: rest => if place' < place then go place' o' rest else go place o rest

/-- A limit that is excluded by a flag must be there in draft 4. -/
def limitObjection (draft : Draft) (ms : Entries Json) : Option Objection :=
  let lacks (flag limit : String) : Bool :=
    (ms.lookup flag).isSome && (ms.lookup limit).isNone
  if draft ≠ .draft4 then none
  else if lacks "exclusiveMaximum" "maximum" then some ⟨.object ms, .missing "maximum"⟩
  else if lacks "exclusiveMinimum" "minimum" then some ⟨.object ms, .missing "minimum"⟩
  else none

/-- The types of documents that can be schemas. -/
def schemaTypes (draft : Draft) : List TypeName :=
  if draft = .draft4 then [.object] else [.boolean, .object]

/-- The objections to the schemas that a value holds. Each is looked for only if a rule asks. -/
structure Held where
  /-- The value as a schema. -/
  schema : Unit → Option Objection
  /-- The elements of a list. -/
  elements : Unit → Option Objection
  /-- The entries of a table. -/
  entries : Unit → Option Objection
  /-- The entries of a table, each a schema or a list of keys. -/
  dependencies : Unit → Option Objection

/-- The objection to a value by the rule of its keyword. -/
def ruled (draft : Draft) (v : Json) (held : Held) : Rule → Option Objection
  | .schema => held.schema ()
  | .flagOrSchema =>
    match v with
    | .bool _ => none
    | _ => if (held.schema ()).isNone then none else some ⟨v, .noBranch "anyOf"⟩
  | .schemas =>
    match v with
    | .array xs =>
      match held.elements () with
      | some o => some o
      | none => if xs.isEmpty then some ⟨v, .tooFewItems 1⟩ else none
    | _ => object v [.array]
  | .schemaOrSchemas =>
    match v with
    | .array xs =>
      if xs.isEmpty || (held.elements ()).isSome then some ⟨v, .noBranch "anyOf"⟩ else none
    | _ => if (held.schema ()).isNone then none else some ⟨v, .noBranch "anyOf"⟩
  | .table =>
    match v with
    | .object _ => held.entries ()
    | _ => object v [.object]
  | .patternTable =>
    match v with
    | .object ms =>
      match held.entries () with
      | some o => some o
      | none => patternNamesObjection draft ms
    | _ => object v [.object]
  | .dependencies =>
    match v with
    | .object _ => held.dependencies ()
    | _ => object v [.object]
  | rule => plainObjection draft rule v

/-- The first objection to a document as a schema of the draft. -/
def objection? (draft : Draft) : Json → Option Objection
  | .object ms =>
    match limitObjection draft ms with
    | some o => some o
    | none => lowest (members ms)
  | v => typed (schemaTypes draft) v
where
  members : List (String × Json) → List (Nat × Objection)
    | [] => []
    | (keyword, v) :: rest =>
      let held : Held := {
        schema := fun _ => objection? draft v
        elements := fun _ => match v with
          | .array xs => list xs
          | _ => none
        entries := fun _ => match v with
          | .object ms => table ms
          | _ => none
        dependencies := fun _ => match v with
          | .object ms => dependencies ms
          | _ => none }
      ((ranked? draft keyword).bind fun (place, rule) =>
        (ruled draft v held rule).map fun o => (place, o)).toList ++ members rest
  list : List Json → Option Objection
    | [] => none
    | v :: rest =>
      match objection? draft v with
      | some o => some o
      | none => list rest
  table : List (String × Json) → Option Objection
    | [] => none
    | (_, v) :: rest =>
      match objection? draft v with
      | some o => some o
      | none => table rest
  dependencies : List (String × Json) → Option Objection
    | [] => none
    | (_, v) :: rest =>
      if (objection? draft v).isNone || (keysObjection draft v).isNone then dependencies rest
      else some ⟨v, .noBranch "anyOf"⟩

end Metaschema

end SliceContract
