import SliceContract.Json.Reader
import SliceContract.Yaml.Conversion
import SliceContract.Yaml.Merge
import SliceContract.Yaml.Tree

/-!
# Documents as text

A document is loaded from JSON or from YAML text. YAML is read as a tree, its merge keys are
resolved, and the tree is converted.
-/

namespace SliceContract

/-- How a document is written. -/
inductive DocumentFormat where
  | json
  | yaml
  deriving DecidableEq, Repr

def DocumentFormat.name : DocumentFormat → String
  | json => "JSON"
  | yaml => "YAML"

/-- Why a text is no document. -/
inductive LoadError where
  | json (e : Json.Reader.Error)
  | yaml (e : Yaml.ReadError)
  | merge (e : Yaml.MergeError)
  | conversion (e : Yaml.ConversionError)
  deriving Repr

namespace LoadError

def format : LoadError → DocumentFormat
  | json _ => .json
  | yaml _ | merge _ | conversion _ => .yaml

def reason : LoadError → String
  | json e => e.message
  | yaml e => "invalid YAML: " ++ e.message
  | merge e => "invalid merge key: " ++ e.message
  | conversion e => e.message

def message (e : LoadError) : String := e.format.name ++ " document load error: " ++ e.reason

end LoadError

namespace Loading

def fromJson (text : String) : Except LoadError Json := (Json.parse text).mapError .json

/-- Convert a tree after its merge keys are resolved. -/
def fromTree (tree : Yaml) : List Yaml.DroppedTag × Except LoadError Json :=
  match Yaml.resolveMerges tree with
  | .error e => ([], .error (.merge e))
  | .ok resolved =>
    let converted := Yaml.toJson [] resolved
    (converted.dropped, converted.result.mapError .conversion)

/-- Load YAML text, with the tags that are dropped on the way. -/
def fromYaml (text : String) : List Yaml.DroppedTag × Except LoadError Json :=
  match Yaml.ofText text.toList with
  | .error e => ([], .error (.yaml e))
  | .ok tree => fromTree tree

end Loading

end SliceContract
