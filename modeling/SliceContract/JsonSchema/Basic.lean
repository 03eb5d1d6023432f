import SliceContract.JsonSchema.Context
import SliceContract.JsonSchema.Judge

/-!
# Schemas

A schema as a tree of the keywords that take part in judging a value. Its judge is put together
along the tree; what its references mean is left to a parameter, so that this recurs on the schema
alone.
-/

namespace SliceContract

inductive JsonSchema where
  | always
  | never
  /-- What cannot be part of a schema, and why. A document with such a part is refused as a whole
  before it judges anything. -/
  | unfit (o : Objection)
  /-- The keywords of one schema object, in their order. -/
  | keywords (parts : List JsonSchema)
  | assertion (a : Assertion)
  /-- The schema that a keyword names. -/
  | reference (keyword : String) (r : Reference)
  /-- A keyword that allows all parts of a kind. -/
  | covers (kind : PartKind)
  /-- Members by name or by pattern, and no others; `bare` if neither names nor patterns are
  given. -/
  | closed (known patterns : List (String × JsonSchema)) (bare : Bool)
  /-- Members by name or by pattern, and a schema for the others. -/
  | additional (known patterns : List (String × JsonSchema)) (others : JsonSchema)
  | allOf (branches : List JsonSchema)
  | anyOf (branches : List JsonSchema)
  | oneOf (branches : List JsonSchema)
  /-- Elements among which some are accepted, and whether these count as evaluated. -/
  | contains (evaluates : Bool) (quota : Quota) (element : JsonSchema)
  | conditional (test : JsonSchema) (met unmet : Option JsonSchema)
  /-- Every element after the first `skip`, under the keyword that says so. -/
  | items (keyword : String) (skip : Nat) (element : JsonSchema)
  /-- Elements by position, under the keyword that lists them. -/
  | positional (keyword : String) (elements : List JsonSchema)
  /-- A schema that must not accept, with its document. -/
  | negation (document : Json) (inner : JsonSchema)
  /-- A schema for objects that have the key, in the table of a keyword. -/
  | dependent (keyword key : String) (inner : JsonSchema)
  | properties (table : List (String × JsonSchema))
  | patternProperties (table : List (String × JsonSchema))
  | propertyNames (name : JsonSchema)
  /-- A schema for the parts of a kind that the keywords beside it do not evaluate. -/
  | unevaluated (kind : PartKind) (beside : List JsonSchema) (inner : JsonSchema)
  deriving Inhabited

namespace JsonSchema

def isNever : JsonSchema → Bool
  | never => true
  | _ => false

variable {m : Type → Type} [Monad m]

/-- The judge of a schema; `refs` says what a reference means. -/
def judge (refs : Reference → Judge m) : JsonSchema → Judge m
  | always => .always
  | never => .never
  | unfit _ => .always
  | keywords parts => .every (list refs parts)
  | assertion a => .assertion a
  | reference keyword r => .reference keyword (refs r)
  | covers kind => .covers kind
  | closed known patterns bare => .closed (table refs known) (table refs patterns) bare
  | additional known patterns others =>
    .additional (table refs known) (table refs patterns) (judge refs others)
  | allOf branches => .allOf (list refs branches)
  | anyOf branches => .anyOf (list refs branches)
  | oneOf branches => .oneOf (list refs branches)
  | contains evaluates quota element => .contains evaluates quota (judge refs element)
  | conditional test met unmet =>
    .conditional (judge refs test) (optional refs met) (optional refs unmet)
  | items keyword skip element => .items keyword skip (judge refs element)
  | positional keyword elements => .positional keyword (list refs elements)
  | negation document inner => .negation document (judge refs inner)
  | dependent keyword key inner => .dependent keyword key (judge refs inner)
  | properties entries => .properties (table refs entries)
  | patternProperties entries => .patternProperties (table refs entries)
  | propertyNames name => .propertyNames name.isNever (judge refs name)
  | unevaluated kind beside inner => .unevaluated kind (list refs beside) (judge refs inner)
where
  list (refs : Reference → Judge m) : List JsonSchema → List (Judge m)
    | [] => []
    | s :: rest => judge refs s :: list refs rest
  optional (refs : Reference → Judge m) : Option JsonSchema → Option (Judge m)
    | none => none
    | some s => some (judge refs s)
  table (refs : Reference → Judge m) : List (String × JsonSchema) → List (String × Judge m)
    | [] => []
    | (name, s) :: rest => (name, judge refs s) :: table refs rest

/-- Whether a value is accepted. -/
def accepts (refs : Reference → Judge m) (s : JsonSchema) (v : Json) : m Bool :=
  s.judge refs .verdict v

/-- Everything that a schema objects to in a value. -/
def failures (refs : Reference → Judge m) (s : JsonSchema) (v : Json) : m (List Failure) :=
  s.judge refs .report v

end JsonSchema

end SliceContract
