import SliceContract.Engine.Basic
import SliceContract.Json.Compact
import SliceContract.Occurrences
import SliceContract.Slice.Lowering

/-!
# Schema documents

A schema is a JSON Schema document. The combinators write the keywords that every draft
understands, and leave objects open, so that shapes may be intersected: each checks its own fields
and ignores the fields of the others.
-/

namespace SliceContract

structure Schema where
  document : Json
  deriving DecidableEq, Repr

namespace Schema

def ofType (name : String) : Schema := ⟨.object [("type", .string name)]⟩

def string : Schema := ofType "string"

def number : Schema := ofType "number"

def integer : Schema := ofType "integer"

def boolean : Schema := ofType "boolean"

def null : Schema := ofType "null"

/-- Accepts every value. -/
def any : Schema := ⟨.emptyObject⟩

/-- Accepts no value, in a spelling that every draft has. -/
def never : Schema := ⟨.object [("not", .emptyObject)]⟩

/-- Objects that have every listed field. A key listed twice keeps its last schema and is required
once; no key is required by an absent keyword, because not every draft allows an empty list. -/
def object (fields : List (String × Schema)) : Schema :=
  let properties := Entries.ofList (fields.map fun (key, schema) => (key, schema.document))
  let required := distinct (fields.map (·.1))
  ⟨.object (("properties", .object properties) ::
    ((if required.isEmpty then [] else [("required", .array (required.map .string))]) ++
      [("type", .string "object")]))⟩

def array (element : Schema) : Schema :=
  ⟨.object [("items", element.document), ("type", .string "array")]⟩

def allOf (schemas : NonEmpty Schema) : Schema :=
  ⟨.object [("allOf", .array (schemas.toList.map (·.document)))]⟩

@[simp] theorem object_single (key : String) (schema : Schema) :
    object [(key, schema)] = ⟨.object [("properties", .object [(key, schema.document)]),
      ("required", .array [.string key]), ("type", .string "object")]⟩ := rfl

/-- The engine whose validators are schema documents. -/
def engine : Engine Id Schema where
  string := pure string
  object fields := pure (object fields)
  array element := pure (array element)
  allOf schemas := pure (allOf schemas)
  never := pure never

/-- The schema that a slice is lowered to. -/
def ofSlice (slice : Slice Schema) : Schema := slice.lower engine

/-- The intersection of schemas; a single schema stands for itself. -/
def merge (schemas : List Schema) : Schema := Id.run (engine.merge schemas)

/-- Equality of documents in which the two zeros are the same. -/
def sameDocument (a b : Schema) : Bool := a.document.sameValue b.document

/-- The compact text of the document. -/
def display (schema : Schema) : String := schema.document.compact

end Schema

end SliceContract
