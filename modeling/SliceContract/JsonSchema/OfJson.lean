import SliceContract.JsonSchema.Basic
import SliceContract.JsonSchema.KeywordValue

/-!
# Documents as schemas

Every document reads as a schema in a context. A keyword that the draft does not have takes no part,
nor does one that only describes; one whose value has the wrong shape is an unfit part. Whether a
document keeps to the rules of its draft is judged elsewhere.
-/

namespace SliceContract

namespace JsonSchema

/-- The schemas inside the value of a keyword. -/
inductive Inner where
  | nothing
  | one (schema : JsonSchema)
  | many (schemas : List JsonSchema)
  | table (entries : List (String × JsonSchema))

/-- A keyword with its value and the schemas inside it. -/
structure Part where
  keyword : String
  value : Json
  inner : Inner

/-- How schemas stand in the value of a keyword. -/
inductive Arity where
  | none
  | one
  | many
  | oneOrMany
  | table
  /-- A table whose keys are patterns. -/
  | patternTable
  /-- A table of schemas and of lists of keys. -/
  | dependencies
  deriving DecidableEq, Repr

def arity (keyword : String) : Arity :=
  if ["additionalItems", "additionalProperties", "contains", "else", "if", "not", "propertyNames",
      "then", "unevaluatedItems", "unevaluatedProperties"].contains keyword then .one
  else if ["allOf", "anyOf", "oneOf", "prefixItems"].contains keyword then .many
  else if keyword = "items" then .oneOrMany
  else if ["dependentSchemas", "properties"].contains keyword then .table
  else if keyword = "patternProperties" then .patternTable
  else if keyword = "dependencies" then .dependencies
  else .none

namespace Part

def find? (parts : List Part) (keyword : String) : Option Part :=
  parts.find? fun part => part.keyword = keyword

def has (parts : List Part) (keyword : String) : Bool := (find? parts keyword).isSome

def tableOf (parts : List Part) (keyword : String) : List (String × JsonSchema) :=
  match find? parts keyword with
  | some ⟨_, _, .table entries⟩ => entries
  | _ => []

def schemaOf? (parts : List Part) (keyword : String) : Option JsonSchema :=
  match find? parts keyword with
  | some ⟨_, _, .one schema⟩ => some schema
  | _ => none

/-- Whether a keyword has the value `true`. -/
def isOn (parts : List Part) (keyword : String) : Bool :=
  match find? parts keyword with
  | some ⟨_, .bool true, _⟩ => true
  | _ => false

/-- The number of elements that a keyword gives, if it is there. -/
def countOf (parts : List Part) (keyword : String) : Except Objection (Option Nat) :=
  match find? parts keyword with
  | some part => (KeywordValue.count part.value).map some
  | none => .ok none

end Part

/-- A part that has none of the types that it could have. -/
def illTyped (expected : List TypeName) (v : Json) : JsonSchema :=
  .unfit (KeywordValue.illTyped expected v)

/-- A schema made from a value that was read, or the objection to it. -/
def ofRead {α : Type} (make : α → JsonSchema) : Except Objection α → JsonSchema
  | .ok a => make a
  | .error o => .unfit o

/-- The assertion made from a value that was read. -/
def asserting {α : Type} (make : α → Assertion) (read : Except Objection α) : JsonSchema :=
  ofRead (fun a => .assertion (make a)) read

/-- The schema for the members that the keywords beside it do not name. Its value decides whether
it takes over from those keywords. -/
def additionalPart (parts : List Part) (part : Part) : Option JsonSchema :=
  let known := Part.tableOf parts "properties"
  let patterns := Part.tableOf parts "patternProperties"
  match Part.find? parts "patternProperties", Part.find? parts "properties", part with
  | some ⟨_, _, .nothing⟩, _, _ => some (illTyped [.object] part.value)
  | _, _, ⟨_, .bool true, _⟩ => some (.covers .members)
  | _, some ⟨_, v, .nothing⟩, _ => some (illTyped [.object] v)
  | _, _, ⟨_, .bool false, _⟩ =>
    some (.closed known patterns
      (!Part.has parts "properties" && !Part.has parts "patternProperties"))
  | _, _, ⟨_, _, .one others⟩ => some (.additional known patterns others)
  | _, _, _ => none

/-- Whether `additionalProperties` takes over from the keywords beside it. -/
def isTakenOver (parts : List Part) : Bool :=
  match Part.find? parts "additionalProperties" with
  | some ⟨_, .bool false, _⟩ => true
  | some ⟨_, .object _, _⟩ => true
  | _ => false

/-- Elements after those that `prefixItems` lists, in drafts without that keyword too. -/
def itemsPart (parts : List Part) (part : Part) : JsonSchema :=
  let skip := match Part.find? parts "prefixItems" with
    | some ⟨_, _, .many elements⟩ => elements.length
    | _ => 0
  match part with
  | ⟨_, _, .many elements⟩ => .positional "items" elements
  | ⟨_, .bool _, .one element⟩ => .items "items" skip element
  | ⟨_, .object _, .one element⟩ => .items "items" skip element
  | _ => illTyped [.array, .boolean, .object] part.value

/-- Elements after those that a list under `items` judges. -/
def additionalItemsPart (parts : List Part) (part : Part) : Option JsonSchema :=
  match Part.find? parts "items", part with
  | none, _ => none
  | some ⟨_, .bool _, _⟩, _ => none
  | some ⟨_, .object _, _⟩, _ => none
  | some ⟨_, _, .many elements⟩, ⟨_, .bool false, _⟩ =>
    some (.assertion (.additionalItems elements.length))
  | some ⟨_, _, .many _⟩, ⟨_, .bool true, _⟩ => some (.covers .elements)
  | some ⟨_, _, .many elements⟩, ⟨_, .object _, .one others⟩ =>
    some (.items "additionalItems" elements.length others)
  | some ⟨_, _, .many _⟩, _ => none
  | _, _ => some (illTyped [.array, .boolean, .object] part.value)

/-- Elements among which some are accepted. Since draft 2019-09 the number of those has limits, and
since draft 2020-12 they count as evaluated. -/
def containsPart (draft : Draft) (parts : List Part) (element : JsonSchema) : JsonSchema :=
  let evaluates := draft.atLeast .draft202012
  if draft.atLeast .draft201909 then
    let quota := do
      return Quota.mk (← Part.countOf parts "minContains") (← Part.countOf parts "maxContains")
    ofRead (fun quota => .contains evaluates quota element) quota
  else .contains evaluates ⟨none, none⟩ element

/-- Lower and upper limits: before draft 6 a flag beside the limit excludes the limit itself. -/
def limitPart (draft : Draft) (parts : List Part) (part : Part) : Option JsonSchema :=
  let excludes (flag : String) : Bool := !draft.atLeast .draft6 && Part.isOn parts flag
  let limit := KeywordValue.number part.value
  match part.keyword with
  | "minimum" =>
    some (asserting (if excludes "exclusiveMinimum" then .exclusiveMinimum else .minimum) limit)
  | "maximum" =>
    some (asserting (if excludes "exclusiveMaximum" then .exclusiveMaximum else .maximum) limit)
  | "exclusiveMinimum" =>
    if draft.atLeast .draft6 then some (asserting .exclusiveMinimum limit) else none
  | "exclusiveMaximum" =>
    if draft.atLeast .draft6 then some (asserting .exclusiveMaximum limit) else none
  | "multipleOf" => some (asserting (fun n => .multipleOf n.toBinary64) limit)
  | _ => none

/-- A format that is enforced; the names of other formats mean nothing. -/
def formatPart (draft : Draft) (v : Json) : Option JsonSchema :=
  match KeywordValue.text v with
  | .ok name => (Format.ofName? draft name).map fun format => .assertion (.format format)
  | .error o => some (.unfit o)

/-- A text that stands for JSON text. If it does so in an encoding, that must be a known one. -/
def mediaTypePart (parts : List Part) (v : Json) : Option JsonSchema :=
  match KeywordValue.text v, Part.find? parts "contentEncoding" with
  | .error o, _ => some (.unfit o)
  | .ok "application/json", none => some (.assertion (.content .json))
  | .ok "application/json", some ⟨_, .string encoding, _⟩ =>
    if encoding = "base64" then some (.assertion (.content .encodedJson)) else none
  | .ok "application/json", some ⟨_, encoding, _⟩ => some (illTyped [.string] encoding)
  | .ok _, _ => none

/-- A text in an encoding. What it stands for is the concern of the keyword for that. -/
def encodingPart (parts : List Part) (v : Json) : Option JsonSchema :=
  if Part.has parts "contentMediaType" then none
  else
    match KeywordValue.text v with
    | .error o => some (.unfit o)
    | .ok encoding => if encoding = "base64" then some (.assertion (.content .base64)) else none

/-- Whether the draft judges what texts stand for. Later drafts only describe it. -/
def judgesContent (draft : Draft) : Bool := draft.atLeast .draft6 && !draft.atLeast .draft201909

/-- The assertion of a keyword under the options. -/
def assertion? (o : Options) (parts : List Part) (part : Part) : Option JsonSchema :=
  let v := part.value
  match part.keyword with
  | "const" => if o.draft.atLeast .draft6 then some (.assertion (.constant v)) else none
  | "contentEncoding" => if judgesContent o.draft then encodingPart parts v else none
  | "contentMediaType" => if judgesContent o.draft then mediaTypePart parts v else none
  | "dependentRequired" =>
    if o.draft.atLeast .draft201909 then
      some (asserting (.dependentRequired "dependentRequired") (KeywordValue.keyTable v))
    else none
  | "enum" => some (asserting .enumeration (KeywordValue.list v))
  | "format" => if o.validateFormats then formatPart o.draft v else none
  | "maxItems" => some (asserting .maxItems (KeywordValue.size o.draft v))
  | "maxLength" => some (asserting .maxLength (KeywordValue.size o.draft v))
  | "maxProperties" => some (asserting .maxProperties (KeywordValue.size o.draft v))
  | "minItems" => some (asserting .minItems (KeywordValue.size o.draft v))
  | "minLength" => some (asserting .minLength (KeywordValue.size o.draft v))
  | "minProperties" => some (asserting .minProperties (KeywordValue.size o.draft v))
  | "pattern" => some (asserting .pattern (KeywordValue.pattern v))
  | "required" => some (asserting .required (KeywordValue.keys v))
  | "type" => some (asserting (.type (o.draft = .draft4)) (KeywordValue.types v))
  | "uniqueItems" =>
    match v with
    | .bool unique => if unique then some (.assertion .uniqueItems) else none
    | _ => some (illTyped [.boolean] v)
  | _ => limitPart o.draft parts part

/-- The schema of a keyword that must be given a list of schemas. -/
def listed (make : List JsonSchema → JsonSchema) (part : Part) : JsonSchema :=
  match part.inner with
  | .many schemas => make schemas
  | _ => illTyped [.array] part.value

/-- The schema of a keyword that must be given a table of schemas. -/
def tabled (make : List (String × JsonSchema) → JsonSchema) (part : Part) : JsonSchema :=
  match part.inner with
  | .table entries => make entries
  | _ => illTyped [.object] part.value

/-- The schema that a keyword names. -/
def referencePart (c : Context) (keyword : String) (v : Json) : JsonSchema :=
  ofRead (fun target => .reference keyword ⟨c, target⟩) (KeywordValue.text v)

/-- The schema that a keyword names, if it names one in the draft. `$dynamicRef` is looked up as
`$ref` is, and `$recursiveRef` names the whole resource; the resources from which they were reached
play no part. -/
def reference? (c : Context) (part : Part) : Option JsonSchema :=
  match part.keyword, c.draft with
  | "$ref", _ => some (referencePart c "$ref" part.value)
  | "$recursiveRef", .draft201909 => some (.reference "$recursiveRef" ⟨c, "#"⟩)
  | "$dynamicRef", .draft202012 => some (referencePart c "$dynamicRef" part.value)
  | _, _ => none

/-- The schema of a keyword that holds other schemas. -/
def applicator? (draft : Draft) (parts : List Part) (part : Part) : Option JsonSchema :=
  match part.keyword, part.inner with
  | "additionalItems", _ =>
    if draft.atLeast .draft202012 then none else additionalItemsPart parts part
  | "additionalProperties", _ => additionalPart parts part
  | "allOf", _ => some (listed .allOf part)
  | "anyOf", _ => some (listed .anyOf part)
  | "oneOf", _ => some (listed .oneOf part)
  | "contains", .one element =>
    if draft.atLeast .draft6 then some (containsPart draft parts element) else none
  | "dependencies", .many entries => some (.keywords entries)
  | "dependencies", _ => some (illTyped [.object] part.value)
  | "dependentSchemas", _ =>
    if draft.atLeast .draft201909 then
      some (tabled (fun entries =>
        .keywords (entries.map fun (key, s) => .dependent "dependentSchemas" key s)) part)
    else none
  | "if", .one test =>
    if draft.atLeast .draft7 && (Part.has parts "then" || Part.has parts "else") then
      some (.conditional test (Part.schemaOf? parts "then") (Part.schemaOf? parts "else"))
    else none
  | "items", _ => some (itemsPart parts part)
  | "not", .one inner => some (.negation part.value inner)
  | "patternProperties", _ =>
    if isTakenOver parts then none else some (tabled .patternProperties part)
  | "prefixItems", _ =>
    if draft.atLeast .draft202012 then some (listed (.positional "prefixItems") part) else none
  | "properties", _ => if isTakenOver parts then none else some (tabled .properties part)
  | "propertyNames", .one name =>
    match draft.atLeast .draft6, part.value with
    | true, .object _ => some (.propertyNames name)
    | true, .bool false => some (.propertyNames name)
    | _, _ => none
  | _, _ => none

/-- What a keyword contributes by itself. -/
def plain? (c : Context) (parts : List Part) (part : Part) : Option JsonSchema :=
  reference? c part <|> applicator? c.draft parts part <|> assertion? c.options parts part

/-- The parts of a value that a keyword judges if nothing else evaluates them. -/
def unevaluatedKind? (keyword : String) : Option PartKind :=
  if keyword = PartKind.members.unevaluatedKeyword then some .members
  else if keyword = PartKind.elements.unevaluatedKeyword then some .elements
  else none

/-- What a keyword contributes to the schema object that it stands in. -/
def keyword? (c : Context) (parts : List Part) (part : Part) : Option JsonSchema :=
  match unevaluatedKind? part.keyword, part.inner with
  | some kind, .one inner =>
    if c.draft.atLeast .draft201909 then
      some (.unevaluated kind (parts.filterMap (plain? c parts)) inner)
    else none
  | _, _ => plain? c parts part

/-- The schema of an object. Before draft 2019-09 a `$ref` puts the keywords beside it out of
action. -/
def ofParts (c : Context) (parts : List Part) : JsonSchema :=
  match c.draft.atLeast .draft201909, Part.find? parts "$ref" with
  | false, some part => .keywords [referencePart c "$ref" part.value]
  | _, _ => .keywords (parts.filterMap (keyword? c parts))

/-- The schema that a document spells in the context. -/
def ofJson (c : Context) : Json → JsonSchema
  | .bool true => .always
  | .bool false => .never
  | .object ms => ofParts c (parts c ms)
  | v => illTyped [.boolean, .object] v
where
  parts (c : Context) : List (String × Json) → List Part
    | [] => []
    | (keyword, v) :: rest =>
      let inner := match arity keyword, v with
        | .one, v => .one (ofJson (c.inside v) v)
        | .many, .array xs => .many (list c xs)
        | .oneOrMany, .array xs => .many (list c xs)
        | .oneOrMany, v => .one (ofJson (c.inside v) v)
        | .table, .object ms => .table (table c ms)
        | .patternTable, .object ms => .table (patternTable c ms)
        | .dependencies, .object ms => .many (dependencies c ms)
        | _, _ => .nothing
      ⟨keyword, v, inner⟩ :: parts c rest
  list (c : Context) : List Json → List JsonSchema
    | [] => []
    | v :: rest => ofJson (c.inside v) v :: list c rest
  table (c : Context) : List (String × Json) → List (String × JsonSchema)
    | [] => []
    | (key, v) :: rest => (key, ofJson (c.inside v) v) :: table c rest
  /-- A pattern that cannot be searched for is held against the schema at it. -/
  patternTable (c : Context) : List (String × Json) → List (String × JsonSchema)
    | [] => []
    | (source, v) :: rest =>
      (source, if Pattern.isUsable source then ofJson (c.inside v) v
        else .unfit ⟨v, .wrongFormat Format.pattern.name⟩) :: patternTable c rest
  dependencies (c : Context) : List (String × Json) → List JsonSchema
    | [] => []
    | (key, v) :: rest =>
      (match v with
        | .array _ =>
          asserting (fun keys => .dependentRequired "dependencies" [(key, keys)])
            (KeywordValue.keys v)
        | v => .dependent "dependencies" key (ofJson (c.inside v) v)) :: dependencies c rest

end JsonSchema

/-- A schema inside a document, with its context. -/
structure Subschema where
  context : Context
  document : Json
  deriving DecidableEq, Repr

namespace Subschema

/-- The schema that the document spells. -/
def read (s : Subschema) : JsonSchema := .ofJson s.context s.document

end Subschema

end SliceContract
