import SliceContract.JsonSchema.OfJson

/-!
# Schemas within schemas

Which parts of a document are schemas: the document itself, and whatever stands in a keyword that
holds schemas. Tables of definitions count, although no value is judged by them. A reference may
name these schemas by their identifiers and anchors.
-/

namespace SliceContract

namespace Draft

/-- Keywords that hold one schema. -/
def singles (draft : Draft) : List String :=
  ["additionalProperties", "not"] ++
  (if draft.atLeast .draft6 then ["contains", "propertyNames"] else []) ++
  (if draft.atLeast .draft7 then ["else", "if", "then"] else []) ++
  (if draft.atLeast .draft201909 then
    ["contentSchema", "unevaluatedItems", "unevaluatedProperties"] else []) ++
  (if draft.atLeast .draft202012 then ["items"] else ["additionalItems"])

/-- Keywords that hold a list of schemas. -/
def lists (draft : Draft) : List String :=
  ["allOf", "anyOf", "oneOf"] ++
  (if draft.atLeast .draft202012 then ["prefixItems"] else [])

/-- Keywords that hold a table of schemas. -/
def tables (draft : Draft) : List String :=
  ["definitions", "patternProperties", "properties"] ++
  (if draft.atLeast .draft201909 then ["$defs", "dependentSchemas"] else ["dependencies"])

/-- How a keyword of the draft holds schemas. -/
def arity (draft : Draft) (keyword : String) : JsonSchema.Arity :=
  if draft.singles.contains keyword then .one
  else if draft.lists.contains keyword then .many
  else if draft.tables.contains keyword then .table
  else if keyword = "items" then .oneOrMany
  else .none

end Draft

namespace Json

/-- The schemas of a document in the order of the text, each with its depth. -/
def nested (c : Context) (depth : Nat) : Json → List (Nat × Subschema)
  | object ms => (depth, ⟨c, object ms⟩) :: members c ms
  | _ => []
where
  members (c : Context) : List (String × Json) → List (Nat × Subschema)
    | [] => []
    | (keyword, v) :: rest =>
      (match c.draft.arity keyword, v with
        | .one, v => nested (c.inside v) (depth + 1) v
        | .many, .array xs => list c xs
        | .oneOrMany, .array xs => list c xs
        | .oneOrMany, v => nested (c.inside v) (depth + 1) v
        | .table, .object ms => table c ms
        | _, _ => []) ++ members c rest
  list (c : Context) : List Json → List (Nat × Subschema)
    | [] => []
    | v :: rest => nested (c.inside v) (depth + 1) v ++ list c rest
  table (c : Context) : List (String × Json) → List (Nat × Subschema)
    | [] => []
    | (_, v) :: rest => nested (c.inside v) (depth + 1) v ++ table c rest

end Json

namespace Subschema

/-- The schemas of a document that are objects, level by level. -/
def schemas (root : Subschema) : List Subschema :=
  let all := root.document.nested root.context 0
  let deepest := (all.map (·.1)).foldl max 0
  (List.range (deepest + 1)).flatMap fun depth => (all.filter (·.1 = depth)).map (·.2)

/-- Whether a schema has a text at a keyword. -/
def has (s : Subschema) (keyword text : String) : Bool := s.document.textAt? keyword == some text

/-- Whether a schema bears an anchor. Before draft 2019-09 anchors are identifiers with a number
sign in front. -/
def bears (anchor : String) (s : Subschema) : Bool :=
  let draft := s.context.draft
  if draft.atLeast .draft201909 then
    s.has "$anchor" anchor || (draft.atLeast .draft202012 && s.has "$dynamicAnchor" anchor)
  else s.has draft.identifierKeyword ("#" ++ anchor)

/-- The schema of a resource that bears an anchor; of several, the last of the deepest. -/
def anchored? (root : Subschema) (base : Uri) (anchor : String) : Option Subschema :=
  root.schemas.reverse.find? fun s => decide (s.context.base = base) && s.bears anchor

/-- Whether a schema begins a resource. -/
def isResource (s : Subschema) : Bool := (s.context.draft.identifier? s.document).isSome

/-- The resource with an identifier; of several, the last of the deepest. The whole document is also
known as the one without a name. -/
def resource? (root : Subschema) (uri : Uri) : Option Subschema :=
  (root.schemas.reverse.find? fun s => decide (s.context.base = uri) && s.isResource) <|>
    if uri = .unnamed ∨ uri = root.context.base then some root else none

end Subschema

end SliceContract
