import SliceContract.JsonSchema.Failure
import SliceContract.Occurrences

/-!
# Violations

Failures as they are reported: with the two places as pointers, the field they are about, and the
text of the objection.
-/

namespace SliceContract

structure Violation where
  instancePath : String
  schemaPath : String
  /-- The missing key, or else the innermost key that the instance path names. -/
  field : Option String
  message : String
  deriving DecidableEq, Repr

namespace Violation

def fieldOf (path : Location) (cause : Cause) : Option String :=
  match cause with
  | .missing key => some key
  | _ => Pointer.innermostKey (Pointer.text path)

def ofFailure (f : Failure) : Violation where
  instancePath := Pointer.render f.instancePath
  schemaPath := Pointer.render f.schemaPath
  field := fieldOf f.instancePath f.objection.cause
  message := f.objection.message

def place (v : Violation) : String := if v.instancePath = "" then "(root)" else v.instancePath

/-- One line: the place, the field if there is one, and the message. -/
def display (v : Violation) : String :=
  match v.field with
  | some field => "  " ++ v.place ++ " [" ++ field ++ "]: " ++ v.message
  | none => "  " ++ v.place ++ ": " ++ v.message

end Violation

namespace Violations

/-- The fields that have a violation, first seen first. -/
def fields (violations : List Violation) : List String :=
  distinct (violations.filterMap (·.field))

/-- The violations of a field. -/
def forField (violations : List Violation) (field : String) : List Violation :=
  violations.filter fun v => v.field = some field

/-- The violations one below the other. -/
def display (violations : List Violation) : String :=
  "\n".intercalate (violations.map Violation.display)

end Violations

end SliceContract
