import SliceContract.Format.Network
import SliceContract.JsonSchema.Nested
import SliceContract.Location
import SliceContract.Text.Hex

/-!
# References

A reference names a resource of the document that it stands in, or the one that it belongs to if it
has no address, and in that after a number sign the anchor of a schema, or a pointer in which bytes
may be written as percent escapes.
-/

namespace SliceContract

namespace Json

/-- The part of a value that one pointer token names, and the step to it. -/
def step? (v : Json) (token : List Char) : Option (Step × Json) :=
  match v with
  | .array xs => (Pointer.indexValue? token).bind fun i => (xs[i]?).map fun x => (.element i, x)
  | .object ms =>
    let key := String.ofList (Pointer.unescape token)
    (ms.lookup key).map fun x => (.member key, x)
  | _ => none

/-- The part of a value at a location. -/
def at? (v : Json) : Location → Option Json
  | [] => some v
  | .member key :: rest =>
    match v with
    | .object ms => (ms.lookup key).bind fun x => at? x rest
    | _ => none
  | .element i :: rest =>
    match v with
    | .array xs => (xs[i]?).bind fun x => at? x rest
    | _ => none

end Json

namespace Reference

/-- The bytes of a text in which percent escapes stand for bytes. -/
def percentBytes : List Char → List UInt8
  | '%' :: a :: b :: rest =>
    match Hex.value? a, Hex.value? b with
    | some high, some low => UInt8.ofNat (high * 16 + low) :: percentBytes rest
    | _, _ => "%".toUTF8.toList ++ percentBytes (a :: b :: rest)
  | c :: rest => (String.singleton c).toUTF8.toList ++ percentBytes rest
  | [] => []

def percentDecode (text : List Char) : Option (List Char) :=
  (String.fromUTF8? ⟨(percentBytes text).toArray⟩).map String.toList

inductive Error where
  /-- An incomplete percent escape, where it starts. -/
  | badEscape (reference : String) (index : Nat)
  /-- A character that references do not hold. -/
  | badCharacter (reference : String) (index : Nat)
  /-- Percent escapes that are no encoded text. -/
  | badEncoding (pointer : String)
  | badIndex (pointer token : String)
  | danglingPointer (pointer : String)
  /-- A name that no anchor can have. -/
  | badAnchor (name : String)
  | unknownAnchor (name : String)
  | unretrievable (reference : String)
  deriving DecidableEq, Repr

def Error.message : Error → String
  | badEscape reference index =>
    "Invalid URI reference '" ++ reference ++ "': invalid percent-encoded octet at index " ++
      toString index
  | badCharacter reference index =>
    "Invalid URI reference '" ++ reference ++ "': unexpected character at index " ++ toString index
  | badEncoding pointer =>
    "Invalid percent encoding in pointer '" ++ pointer ++
      "': the decoded bytes do not represent valid UTF-8"
  | badIndex pointer token =>
    "Failed to parse array index '" ++ token ++ "' in pointer '" ++ pointer ++ "'"
  | danglingPointer pointer => "Pointer '" ++ pointer ++ "' does not exist"
  | badAnchor name => "Anchor '" ++ name ++ "' is invalid"
  | unknownAnchor name => "Anchor '" ++ name ++ "' does not exist"
  | unretrievable reference =>
    "Resource '" ++ reference ++ "' is not present in a registry and retrieving it failed"

/-- The first fault in what follows the number sign of a reference, from an index on. -/
def faultFrom? (reference : String) (index : Nat) : List Char → Option Error
  | [] => none
  | '%' :: a :: b :: rest =>
    if Hex.isDigit a && Hex.isDigit b then faultFrom? reference (index + 3) rest
    else some (.badEscape reference index)
  | '%' :: _ => some (.badEscape reference index)
  | c :: rest =>
    if Network.isFragmentChar false c then faultFrom? reference (index + 1) rest
    else some (.badCharacter reference index)

/-- What keeps a text from being a reference into its own resource. -/
def fault? (text : String) : Option Error :=
  match text.toList with
  | '#' :: rest => faultFrom? text 1 rest
  | _ => none

/-- How a part of a schema takes part in it. -/
inductive Site where
  | schema
  /-- A schema, or a list of schemas. -/
  | schemas
  | list
  | table
  | other
  deriving DecidableEq, Repr

/-- How a part takes part in the schema, when the whole takes part in it at a site. -/
def Site.step (draft : Draft) : Site → Step → Site
  | other, _ => other
  | list, _ => schema
  | table, _ => schema
  | schemas, .element _ => schema
  | schema, .element _ => other
  | _, .member key =>
    match draft.arity key with
    | .one => schema
    | .many => list
    | .oneOrMany => schemas
    | .table => table
    | _ => other

/-- Whether a part is a schema if it is an object. -/
def Site.isSchema : Site → Bool
  | schema => true
  | schemas => true
  | _ => false

/-- The context of a part; the draft stays that of the whole. -/
def Site.context (site : Site) (c : Context) (v : Json) : Context :=
  if site.isSchema then c.rebased v else c

/-- Follow the tokens of a pointer into a value that takes part in its document at a site. -/
def follow (pointer : String) (site : Site) (c : Context) (v : Json) :
    List (List Char) → Except Error Subschema
  | [] => .ok ⟨c, v⟩
  | token :: rest =>
    match v, v.step? token with
    | _, some (step, x) =>
      let site := site.step c.draft step
      follow pointer site (site.context c x) x rest
    | .array _, none =>
      if Pointer.isIndex token then .error (.danglingPointer pointer)
      else .error (.badIndex pointer (String.ofList token))
    | _, none => .error (.danglingPointer pointer)

/-- The schema that the text behind a number sign names in a resource of a document. -/
def locate (root resource : Subschema) (uri : Uri) (fragment : List Char) :
    Except Error Subschema :=
  match fragment with
  | [] => .ok resource
  | '/' :: rest =>
    let pointer := String.ofList ('/' :: rest)
    match percentDecode rest with
    | some text => follow pointer .schema resource.context resource.document (Pointer.segments text)
    | none => .error (.badEncoding pointer)
  | _ =>
    let name := String.ofList fragment
    match root.anchored? uri name with
    | some schema => .ok schema
    | none => .error (if fragment.contains '/' then .badAnchor name else .unknownAnchor name)

/-- The address in front of the last number sign of a text, and what stands behind that. -/
def split (text : List Char) : List Char × List Char :=
  match text.reverse.dropWhile (· ≠ '#') with
  | [] => (text, [])
  | _ :: address => (address.reverse, (text.reverse.takeWhile (· ≠ '#')).reverse)

/-- The resource that a reference is about. -/
def address (r : Reference) : Uri := r.context.base.join (split r.target.toList).1

/-- The schema that a reference names in a document. -/
def resolve (root : Subschema) (r : Reference) : Except Error Subschema :=
  match fault? r.target, root.resource? r.address with
  | some e, _ => .error e
  | none, some resource => locate root resource r.address (split r.target.toList).2
  | none, none => .error (.unretrievable r.address.text)

end Reference

end SliceContract
