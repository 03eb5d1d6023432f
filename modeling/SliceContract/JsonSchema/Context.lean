import SliceContract.Json.Basic
import SliceContract.JsonSchema.Draft
import SliceContract.Uri

/-!
# The surroundings of a schema

A schema is read under a draft, and its references start at the identifier of the resource that it
belongs to. A schema inside another one has both from there, unless it names a draft or bears an
identifier of its own.
-/

namespace SliceContract

namespace Json

/-- The text that a schema has at a keyword. -/
def textAt? (schema : Json) (keyword : String) : Option String :=
  (schema.get? keyword).bind stringValue?

end Json

namespace Draft

/-- The draft with an identifier. -/
def ofIdentifier? : String → Option Draft
  | "http://json-schema.org/draft-04/schema" => some draft4
  | "http://json-schema.org/draft-06/schema" => some draft6
  | "http://json-schema.org/draft-07/schema" => some draft7
  | "https://json-schema.org/draft/2019-09/schema" => some draft201909
  | "https://json-schema.org/draft/2020-12/schema" => some draft202012
  | _ => none

/-- The draft of a schema inside one of this draft. The name of an unknown draft means the latest
one. -/
def detect (draft : Draft) (schema : Json) : Draft :=
  match schema.textAt? "$schema" with
  | some text =>
    let identifier := String.ofList (text.toList.reverse.dropWhile (· = '#')).reverse
    (ofIdentifier? identifier).getD draft202012
  | none => draft

/-- The keyword for identifiers. -/
def identifierKeyword (draft : Draft) : String := if draft = draft4 then "id" else "$id"

/-- The identifier that a schema of the draft bears. Before draft 2019-09 it is void beside a
`$ref`, and with a number sign in front it is an anchor. -/
def identifier? (draft : Draft) (schema : Json) : Option String :=
  if draft.atLeast .draft201909 then schema.textAt? "$id"
  else if (schema.get? "$ref").isSome then none
  else (schema.textAt? draft.identifierKeyword).filter fun id => id.toList.head? ≠ some '#'

end Draft

/-- What a schema has from its surroundings: the options, with the draft, and the identifier of the
resource. -/
structure Context where
  options : Options
  base : Uri
  deriving DecidableEq, Repr

namespace Context

def draft (c : Context) : Draft := c.options.draft

/-- The context of a document as a whole that has no identifier. -/
def plain (o : Options) : Context := ⟨o, .unnamed⟩

/-- The same options in the resource that a schema begins, if it bears an identifier. -/
def rebased (c : Context) (schema : Json) : Context :=
  match c.draft.identifier? schema with
  | some id => { c with base := c.base.join (id.toList.takeWhile (· ≠ '#')) }
  | none => c

/-- The context of a whole document, which is read under the options whatever draft it names. -/
def root (o : Options) (document : Json) : Context := (plain o).rebased document

/-- The same resource under the draft that a schema names. -/
def redrafted (c : Context) (schema : Json) : Context :=
  { c with options := { c.options with draft := c.draft.detect schema } }

/-- The context of a schema inside one of this context. -/
def inside (c : Context) (schema : Json) : Context := (c.redrafted schema).rebased schema

end Context

/-- The text of a reference, with the context that it stands in. -/
structure Reference where
  context : Context
  target : String
  deriving DecidableEq, Repr

end SliceContract
