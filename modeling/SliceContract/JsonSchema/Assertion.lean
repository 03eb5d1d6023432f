import SliceContract.Json.Comparison
import SliceContract.Json.Reader
import SliceContract.JsonSchema.Failure
import SliceContract.Text.Base64

/-!
# Assertions

The keywords that look at one value and at no schema inside them. Each constrains the values of one
type and lets every other value pass.
-/

namespace SliceContract

/-- What a text stands for. -/
inductive TextContent where
  | json
  | base64
  /-- JSON text, and that in printable form. -/
  | encodedJson
  deriving DecidableEq, Repr

namespace TextContent

def isJson (s : String) : Bool :=
  match Json.parse s with
  | .ok _ => true
  | .error _ => false

/-- Why a text does not stand for what it should. -/
def cause? (content : TextContent) (s : String) : Option Cause :=
  match content, Base64.decode? s.toList with
  | json, _ => if isJson s then none else some .notJson
  | _, none => some .notBase64
  | base64, some _ => none
  | encodedJson, some bytes =>
    match Utf8.fault? bytes, String.fromUTF8? ⟨bytes.toArray⟩ with
    | some fault, _ => some (.undecodable fault)
    | none, some text => if isJson text then none else some .notJson
    | none, none => some .notJson

end TextContent

inductive Assertion where
  | type (strict : Bool) (names : List TypeName)
  | constant (value : Json)
  | enumeration (options : List Json)
  | minimum (limit : Json.Number)
  | maximum (limit : Json.Number)
  | exclusiveMinimum (limit : Json.Number)
  | exclusiveMaximum (limit : Json.Number)
  | multipleOf (step : Binary64)
  | minLength (least : Nat)
  | maxLength (most : Nat)
  | pattern (source : String)
  | format (format : Format)
  | content (content : TextContent)
  | minItems (least : Nat)
  | maxItems (most : Nat)
  /-- No elements after the first `allowed`. -/
  | additionalItems (allowed : Nat)
  | uniqueItems
  | minProperties (least : Nat)
  | maxProperties (most : Nat)
  | required (keys : List String)
  /-- The keys that an object must have if it has another key, under the keyword that says so. -/
  | dependentRequired (keyword : String) (table : List (String × List String))
  deriving Repr

namespace Assertion

/-- The keyword that failures are reported under, if their cause does not name another. -/
def keyword : Assertion → String
  | type _ _ => "type"
  | constant _ => "const"
  | enumeration _ => "enum"
  | minimum _ => "minimum"
  | maximum _ => "maximum"
  | exclusiveMinimum _ => "exclusiveMinimum"
  | exclusiveMaximum _ => "exclusiveMaximum"
  | multipleOf _ => "multipleOf"
  | minLength _ => "minLength"
  | maxLength _ => "maxLength"
  | pattern _ => "pattern"
  | format _ => "format"
  | content _ => "contentMediaType"
  | minItems _ => "minItems"
  | maxItems _ => "maxItems"
  | additionalItems _ => "additionalItems"
  | uniqueItems => "uniqueItems"
  | minProperties _ => "minProperties"
  | maxProperties _ => "maxProperties"
  | required _ => "required"
  | dependentRequired keyword _ => keyword

def onNumber (test : Json.Number → Bool) : Json → Bool
  | .number n => test n
  | _ => true

def onString (test : String → Bool) : Json → Bool
  | .string s => test s
  | _ => true

def onArray (test : List Json → Bool) : Json → Bool
  | .array xs => test xs
  | _ => true

def onObject (test : Entries Json → Bool) : Json → Bool
  | .object ms => test ms
  | _ => true

def hasKey (ms : Entries Json) (key : String) : Bool := (ms.lookup key).isSome

/-- Whether a value meets the assertion. -/
def holds (a : Assertion) (v : Json) : Bool :=
  match a with
  | type strict names => names.any (·.accepts strict v)
  | constant value => value.meetsConstant v
  | enumeration options => options.any (·.equivalent v)
  | minimum limit => onNumber (fun n => limit.toRat ≤ n.toRat) v
  | maximum limit => onNumber (fun n => n.toRat ≤ limit.toRat) v
  | exclusiveMinimum limit => onNumber (fun n => limit.toRat < n.toRat) v
  | exclusiveMaximum limit => onNumber (fun n => n.toRat < limit.toRat) v
  | multipleOf step => onNumber (fun n => n.toBinary64.isMultipleOf step) v
  | minLength least => onString (fun s => least ≤ s.length) v
  | maxLength most => onString (fun s => s.length ≤ most) v
  | pattern source => onString (Pattern.occurs source) v
  | format f => onString f.accepts v
  | content c => onString (fun s => (c.cause? s).isNone) v
  | minItems least => onArray (fun xs => least ≤ xs.length) v
  | maxItems most => onArray (fun xs => xs.length ≤ most) v
  | additionalItems allowed => onArray (fun xs => xs.length ≤ allowed) v
  | uniqueItems => onArray Json.allDistinct v
  | minProperties least => onObject (fun ms => least ≤ ms.length) v
  | maxProperties most => onObject (fun ms => ms.length ≤ most) v
  | required keys => onObject (fun ms => keys.all (hasKey ms)) v
  | dependentRequired _ table =>
    onObject (fun ms => table.all fun (key, keys) => !hasKey ms key || keys.all (hasKey ms)) v

/-- Why a value that does not meet the assertion is refused. An absent key is named by the
failures of the two keywords that require keys, and what a text fails to stand for is found from the
text, so these have no cause here. -/
def cause? : Assertion → Option Cause
  | type _ names => some (.wrongType names)
  | constant value => some (.notConstant value)
  | enumeration options => some (.notListed options)
  | minimum limit => some (.belowMinimum limit)
  | maximum limit => some (.aboveMaximum limit)
  | exclusiveMinimum limit => some (.notAboveMinimum limit)
  | exclusiveMaximum limit => some (.notBelowMaximum limit)
  | multipleOf step => some (.notMultiple step)
  | minLength least => some (.tooShort least)
  | maxLength most => some (.tooLong most)
  | pattern source => some (.noMatch source)
  | format f => some (.wrongFormat f.name)
  | content _ => none
  | minItems least => some (.tooFewItems least)
  | maxItems most => some (.tooManyItems most)
  | additionalItems allowed => some (.unexpectedItems allowed)
  | uniqueItems => some .repeatedItems
  | minProperties least => some (.tooFewProperties least)
  | maxProperties most => some (.tooManyProperties most)
  | required _ => none
  | dependentRequired _ _ => none

/-- One cause for each of the keys that an object does not have. -/
def missingKeys (ms : Entries Json) (keys : List String) : List Cause :=
  (keys.filter fun key => !hasKey ms key).map .missing

/-- Everything that the assertion objects to in a value. -/
def causes (a : Assertion) (v : Json) : List Cause :=
  match a, v with
  | required keys, .object ms => missingKeys ms keys
  | dependentRequired _ table, .object ms =>
    (table.filter fun (key, _) => hasKey ms key).flatMap fun (_, keys) => missingKeys ms keys
  | pattern source, .string s =>
    match Pattern.searchFor source s with
    | .found => []
    | .absent => [.noMatch source]
    | .exhausted => [.searchExhausted]
  | content c, .string s => (c.cause? s).toList
  | _, _ => if a.holds v then [] else a.cause?.toList

/-- The failure that a cause is reported as. -/
def failure (a : Assertion) (v : Json) (cause : Cause) : Failure :=
  match cause with
  | .undecodable _ => ⟨[], [], ⟨.null, cause⟩⟩
  | .notBase64 => .own "contentEncoding" v cause
  | _ => .own a.keyword v cause

def failures (a : Assertion) (v : Json) : List Failure := (a.causes v).map (a.failure v)

end Assertion

end SliceContract
