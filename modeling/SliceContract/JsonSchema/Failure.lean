import SliceContract.Format.Basic
import SliceContract.Json.Compact
import SliceContract.JsonSchema.TypeName
import SliceContract.Location
import SliceContract.Text.Utf8

/-!
# Failures

A failure says which part of a document a keyword objects to, where the keyword stands in the
schema, and why. Its text is written on demand.
-/

namespace SliceContract

/-- Why a value is refused. -/
inductive Cause where
  | wrongType (expected : List TypeName)
  | unknownType
  | missing (key : String)
  | belowMinimum (limit : Json.Number)
  | aboveMaximum (limit : Json.Number)
  | notAboveMinimum (limit : Json.Number)
  | notBelowMaximum (limit : Json.Number)
  | notMultiple (step : Binary64)
  | tooShort (least : Nat)
  | tooLong (most : Nat)
  | tooFewItems (least : Nat)
  | tooManyItems (most : Nat)
  | tooFewProperties (least : Nat)
  | tooManyProperties (most : Nat)
  | noMatch (pattern : String)
  | searchExhausted
  | wrongFormat (format : String)
  | notBase64
  | notJson
  /-- Bytes that are no encoded text. -/
  | undecodable (fault : Utf8.Fault)
  | notListed (options : List Json)
  | notConstant (expected : Json)
  | repeatedItems
  /-- Elements after the first `allowed`. -/
  | unexpectedItems (allowed : Nat)
  | unexpectedKeys (keys : List String)
  | unevaluatedItems (items : List Json)
  | unevaluatedKeys (keys : List String)
  | noBranch (keyword : String)
  | severalBranches
  | forbidden (schema : Json)
  | noneContained
  | neverAllowed
  deriving DecidableEq, Repr

/-- A value and why it is refused. -/
structure Objection where
  subject : Json
  cause : Cause
  deriving DecidableEq, Repr

namespace Cause

def counted (n : Nat) (singular plural : String) : String :=
  toString n ++ " " ++ if n = 1 then singular else plural

def numberText (n : Json.Number) : String := String.ofList n.text

/-- A type is named in quotes; several are listed in their alphabetical order, each once. -/
def typeText (types : List TypeName) : String :=
  let names := (TypeName.all.filter types.contains).map fun t => "\"" ++ t.name ++ "\""
  (if types.length = 1 then "is not of type " else "is not of types ") ++ ", ".intercalate names

def unexpectedText (what : String) (unexpected : List String) : String :=
  what ++ " are not allowed (" ++ ", ".intercalate unexpected ++
    (if unexpected.length = 1 then " was" else " were") ++ " unexpected)"

def keysText (keys : List String) : List String := keys.map fun key => "'" ++ key ++ "'"

/-- The text of a cause for a value. -/
def message (subject : Json) (cause : Cause) : String :=
  let its (what : String) : String := subject.compact ++ " " ++ what
  match cause with
  | wrongType expected => its (typeText expected)
  | unknownType => "Unexpected type"
  | missing key => (Json.string key).compact ++ " is a required property"
  | belowMinimum limit => its ("is less than the minimum of " ++ numberText limit)
  | aboveMaximum limit => its ("is greater than the maximum of " ++ numberText limit)
  | notAboveMinimum limit =>
    its ("is less than or equal to the minimum of " ++ numberText limit)
  | notBelowMaximum limit =>
    its ("is greater than or equal to the maximum of " ++ numberText limit)
  | notMultiple step => its ("is not a multiple of " ++ String.ofList (Layout.plain.text step))
  | tooShort least => its ("is shorter than " ++ counted least "character" "characters")
  | tooLong most => its ("is longer than " ++ counted most "character" "characters")
  | tooFewItems least => its ("has less than " ++ counted least "item" "items")
  | tooManyItems most => its ("has more than " ++ counted most "item" "items")
  | tooFewProperties least => its ("has less than " ++ counted least "property" "properties")
  | tooManyProperties most => its ("has more than " ++ counted most "property" "properties")
  | noMatch pattern => its ("does not match \"" ++ pattern ++ "\"")
  | searchExhausted => "Error executing regex: Max limit for backtracking count exceeded"
  | wrongFormat format => its ("is not a \"" ++ format ++ "\"")
  | notBase64 => its "is not compliant with \"base64\" content encoding"
  | notJson => its "is not compliant with \"application/json\" media type"
  | undecodable fault => fault.message
  | notListed options => its ("is not one of " ++ (Json.array options).compact)
  | notConstant expected => expected.compact ++ " was expected"
  | repeatedItems => its "has non-unique elements"
  | unexpectedItems allowed =>
    unexpectedText "Additional items" ((subject.elements.drop allowed).map Json.compact)
  | unexpectedKeys keys => unexpectedText "Additional properties" (keysText keys)
  | unevaluatedItems items => unexpectedText "Unevaluated items" (items.map Json.compact)
  | unevaluatedKeys keys => unexpectedText "Unevaluated properties" (keysText keys)
  | noBranch keyword =>
    its ("is not valid under any of the schemas listed in the '" ++ keyword ++ "' keyword")
  | severalBranches =>
    its "is valid under more than one of the schemas listed in the 'oneOf' keyword"
  | forbidden schema => schema.compact ++ " is not allowed for " ++ subject.compact
  | noneContained => "None of " ++ subject.compact ++ " are valid under the given schema"
  | neverAllowed => "False schema does not allow " ++ subject.compact

end Cause

def Objection.message (o : Objection) : String := o.cause.message o.subject

/-- An objection with the place of its value in the document and of its keyword in the schema. -/
structure Failure where
  instancePath : Location
  schemaPath : Location
  objection : Objection
  deriving DecidableEq, Repr

/-- Whether a cause is reported without a place. What an encoded text stands for is no part of the
value, and where it cannot be decoded nothing is known of the place of the text. -/
def Cause.isUnplaced : Cause → Bool
  | undecodable _ => true
  | _ => false

namespace Failure

/-- The same failure seen from further out. -/
def under (instancePath schemaPath : Location) (f : Failure) : Failure :=
  if f.objection.cause.isUnplaced then f
  else ⟨instancePath ++ f.instancePath, schemaPath ++ f.schemaPath, f.objection⟩

theorem under_of_placed {f : Failure} (h : f.objection.cause.isUnplaced = false)
    (instancePath schemaPath : Location) :
    f.under instancePath schemaPath =
      ⟨instancePath ++ f.instancePath, schemaPath ++ f.schemaPath, f.objection⟩ := by
  rw [under, h]
  rfl

theorem under_of_unplaced {f : Failure} (h : f.objection.cause.isUnplaced = true)
    (instancePath schemaPath : Location) : f.under instancePath schemaPath = f := by
  rw [under, if_pos h]

@[simp] theorem objection_under (i s : Location) (f : Failure) :
    (f.under i s).objection = f.objection := by
  rw [under]
  split <;> rfl

@[simp] theorem under_nil (f : Failure) : f.under [] [] = f := by
  rw [under]
  split <;> rfl

@[simp] theorem under_under (i i' s s' : Location) (f : Failure) :
    (f.under i' s').under i s = f.under (i ++ i') (s ++ s') := by
  cases h : f.objection.cause.isUnplaced with
  | true => simp [under, h]
  | false => simp [under, h]

/-- A failure of the whole value, reported by a keyword of the whole schema. -/
def own (keyword : String) (subject : Json) (cause : Cause) : Failure :=
  ⟨[], [.member keyword], ⟨subject, cause⟩⟩

end Failure

end SliceContract
