import SliceContract.JsonSchema.Assertion

/-!
# Judges

A judge answers three questions about a value: whether it is accepted, which of its parts have been
evaluated, and what is wrong with it. The judge of a schema is put together from those of the
schemas inside it, keyword by keyword. The answers are given in a monad, since an answer may depend
on references that lead round in a circle, and then there is none.
-/

namespace SliceContract

section Lists

variable {m : Type → Type} [Monad m] {α β : Type}

/-- The lists for all elements, one after another. -/
def collect (f : α → m (List β)) : List α → m (List β)
  | [] => return []
  | x :: xs => do return (← f x) ++ (← collect f xs)

/-- How many elements pass a test, but no more than the limit; no further element is tested once it
is reached. -/
def countUpTo (p : α → m Bool) : Nat → List α → m Nat
  | 0, _ => return 0
  | _ + 1, [] => return 0
  | limit + 1, x :: xs => do
    if ← p x then return (← countUpTo p limit xs) + 1 else countUpTo p (limit + 1) xs

end Lists

inductive Question where
  | verdict
  | evaluated
  | report

/-- The answer to a question: parts are given as the steps that lead to them. -/
@[reducible] def Question.Answer : Question → Type
  | verdict => Bool
  | evaluated => List Step
  | report => List Failure

instance (q : Question) : Inhabited q.Answer :=
  match q with
  | .verdict => inferInstanceAs (Inhabited Bool)
  | .evaluated => inferInstanceAs (Inhabited (List Step))
  | .report => inferInstanceAs (Inhabited (List Failure))

abbrev Judge (m : Type → Type) := (q : Question) → Json → m q.Answer

/-- The parts of a value of one kind. -/
inductive PartKind where
  | members
  | elements
  deriving DecidableEq, Repr

namespace PartKind

/-- The parts of a value, with the steps to them. -/
def parts : PartKind → Json → List (Step × Json)
  | members, v => v.members.map fun (key, x) => (.member key, x)
  | elements, v => v.elements.zipIdx.map fun (x, i) => (.element i, x)

/-- The keyword for parts that nothing else has evaluated. -/
def unevaluatedKeyword : PartKind → String
  | members => "unevaluatedProperties"
  | elements => "unevaluatedItems"

/-- Why a value is refused that has such parts. -/
def unevaluatedCause : PartKind → List (Step × Json) → Cause
  | members, parts => .unevaluatedKeys (parts.filterMap fun (step, _) =>
      match step with
      | .member key => some key
      | .element _ => none)
  | elements, parts => .unevaluatedItems (parts.map (·.2))

end PartKind

/-- How many elements of an array a schema must accept: at least one, unless limits are given. -/
structure Quota where
  least? : Option Nat
  most? : Option Nat
  deriving DecidableEq, Repr

namespace Quota

/-- The keyword that a number of accepted elements offends. -/
def offended? (quota : Quota) (count : Nat) : Option String :=
  match quota.least?, quota.most? with
  | none, none => if count = 0 then some "contains" else none
  | some least, none => if count < least then some "minContains" else none
  | none, some most => if count = 0 ∨ most < count then some "maxContains" else none
  | some least, some most =>
    if most < count then some "maxContains"
    else if count < least then some "minContains"
    else none

/-- The number that need not be exceeded to see whether the quota is met. -/
def enough (quota : Quota) : Nat :=
  match quota.most? with
  | some most => most + 1
  | none => max 1 (quota.least?.getD 1)

end Quota

namespace Judge

/-! ## Members by name and by pattern -/

section Tables

variable {α : Type} (known patterns : List (String × α))

/-- What tables say about the members of a name, each with its place in the schema. -/
def forName (key : String) : List (Location × α) :=
  ((known.lookup key).toList.map fun a => ([.member "properties", .member key], a)) ++
    (patterns.filter fun (source, _) => Pattern.occurs source key).map fun (source, a) =>
      ([.member "patternProperties", .member source], a)

/-- What tables say about the members of a name, or else what is said about all others. -/
def forNameOrElse (others : α) (key : String) : List (Location × α) :=
  match forName known patterns key with
  | [] => [([.member "additionalProperties"], others)]
  | found => found

/-- The members of a value about which tables say nothing. -/
def unexpected (v : Json) : Entries Json :=
  v.members.filter fun (key, _) => (forName known patterns key).isEmpty

/-- The members of a value in whose names a pattern occurs. -/
def occurring (source : String) (v : Json) : Entries Json :=
  v.members.filter fun (key, _) => Pattern.occurs source key

end Tables

variable {m : Type → Type} [Monad m]

/-! ## One judge -/

/-- What a judge reports, seen from further out. -/
def reportAt (j : Judge m) (instancePath schemaPath : Location) (v : Json) : m (List Failure) := do
  return (← j .report v).map (.under instancePath schemaPath)

/-- The parts among the given ones that a judge accepts. -/
def acceptedAmong (j : Judge m) (parts : List (Step × Json)) : m (List Step) :=
  collect (fun (step, x) => do return if ← j .verdict x then [step] else []) parts

/-- What a judge has evaluated of a value that it accepts. -/
def evaluatedIfAccepted (j : Judge m) (v : Json) : m (List Step) := do
  if ← j .verdict v then j .evaluated v else return []

/-! ## Keywords -/

/-- Nothing is wrong with any value. -/
def always : Judge m
  | .verdict, _ => return true
  | .evaluated, _ => return []
  | .report, _ => return []

def never : Judge m
  | .verdict, _ => return false
  | .evaluated, _ => return []
  | .report, v => return [⟨[], [], ⟨v, .neverAllowed⟩⟩]

def assertion (a : Assertion) : Judge m
  | .verdict, v => return a.holds v
  | .evaluated, _ => return []
  | .report, v => return a.failures v

/-- All of the judges, one after another. -/
def every (js : List (Judge m)) : Judge m
  | .verdict, v => js.allM fun j => j .verdict v
  | .evaluated, v => collect (fun j => j .evaluated v) js
  | .report, v => collect (fun j => j .report v) js

def reference (keyword : String) (j : Judge m) : Judge m
  | .verdict, v => j .verdict v
  | .evaluated, v => j .evaluated v
  | .report, v => j.reportAt [] [.member keyword] v

/-- Accepts every value, and all its parts of a kind count as evaluated. -/
def covers (kind : PartKind) : Judge m
  | .verdict, _ => return true
  | .evaluated, v => return (kind.parts v).map (·.1)
  | .report, _ => return []

def properties (table : List (String × Judge m)) : Judge m
  | .verdict, v => table.allM fun (name, j) =>
      match v.get? name with
      | some x => j .verdict x
      | none => return true
  | .evaluated, v => collect (fun (name, j) =>
      j.acceptedAmong ((v.get? name).toList.map fun x => (.member name, x))) table
  | .report, v => collect (fun (name, j) =>
      match v.get? name with
      | some x => j.reportAt [.member name] [.member "properties", .member name] x
      | none => return []) table

def patternProperties (table : List (String × Judge m)) : Judge m
  | .verdict, v => table.allM fun (source, j) =>
      (occurring source v).allM fun (_, x) => j .verdict x
  | .evaluated, v => collect (fun (source, j) =>
      j.acceptedAmong ((occurring source v).map fun (key, x) => (.member key, x))) table
  | .report, v => collect (fun (source, j) => collect (fun (key, x) =>
      j.reportAt [.member key] [.member "patternProperties", .member source] x)
      (occurring source v)) table

/-- The failure of a value with unexpected members. A schema that gives neither names nor patterns
objects to the first of them and not to the whole. -/
def refusal (unexpected : Entries Json) (bare : Bool) (v : Json) : List Failure :=
  match unexpected, bare with
  | [], _ => []
  | (_, x) :: _, true => [.own "additionalProperties" x .neverAllowed]
  | ms, false => [.own "additionalProperties" v (.unexpectedKeys (ms.map (·.1)))]

/-- Members by name or by pattern, and no others. -/
def closed (known patterns : List (String × Judge m)) (bare : Bool) : Judge m
  | .verdict, v => v.members.allM fun (key, x) =>
      match forName known patterns key with
      | [] => return false
      | js => js.allM fun (_, j) => j .verdict x
  | .evaluated, v => do
    return (← properties known .evaluated v) ++ (← patternProperties patterns .evaluated v)
  | .report, v => do
    let inside ← collect (fun (key, x) => collect (fun (place, j) =>
      j.reportAt [.member key] place x) (forName known patterns key)) v.members
    return inside ++ refusal (unexpected known patterns v) bare v

def additional (known patterns : List (String × Judge m)) (others : Judge m) : Judge m
  | .verdict, v => v.members.allM fun (key, x) =>
      (forNameOrElse known patterns others key).allM fun (_, j) => j .verdict x
  | .evaluated, v => do
    return (← properties known .evaluated v) ++ (← patternProperties patterns .evaluated v) ++
      (← others.acceptedAmong (PartKind.members.parts v))
  | .report, v => collect (fun (key, x) => collect (fun (place, j) =>
      j.reportAt [.member key] place x) (forNameOrElse known patterns others key)) v.members

def allOf (js : List (Judge m)) : Judge m
  | .verdict, v => js.allM fun j => j .verdict v
  | .evaluated, v => collect (fun j => j.evaluatedIfAccepted v) js
  | .report, v => collect (fun (j, i) => j.reportAt [] [.member "allOf", .element i] v) js.zipIdx

def anyOf (js : List (Judge m)) : Judge m
  | .verdict, v => js.anyM fun j => j .verdict v
  | .evaluated, v => collect (fun j => j.evaluatedIfAccepted v) js
  | .report, v => do
    return if ← js.anyM fun j => j .verdict v then [] else [.own "anyOf" v (.noBranch "anyOf")]

def oneOf (js : List (Judge m)) : Judge m
  | .verdict, v => return (← countUpTo (fun j => j .verdict v) 2 js) == 1
  | .evaluated, v => collect (fun j => j.evaluatedIfAccepted v) js
  | .report, v => do
    return match ← countUpTo (fun j => j .verdict v) 2 js with
      | 0 => [.own "oneOf" v (.noBranch "oneOf")]
      | 1 => []
      | _ => [.own "oneOf" v .severalBranches]

/-- The keyword that the accepted elements of an array offend by their number. -/
def offended? (quota : Quota) (j : Judge m) (xs : List Json) : m (Option String) := do
  return quota.offended? (← countUpTo (fun x => j .verdict x) quota.enough xs)

/-- Accepted elements count as evaluated if the draft has it so. -/
def contains (evaluates : Bool) (quota : Quota) (j : Judge m) : Judge m
  | .verdict, .array xs => return (← offended? quota j xs).isNone
  | .verdict, _ => return true
  | .evaluated, v => if evaluates then j.acceptedAmong (PartKind.elements.parts v) else return []
  | .report, .array xs => do
    return (← offended? quota j xs).toList.map fun keyword =>
      .own keyword (.array xs) .noneContained
  | .report, _ => return []

/-- The judge that is there, under its keyword. -/
def optional (keyword : String) : Option (Judge m) → Judge m
  | some j => j.reference keyword
  | none => always

def conditional (test : Judge m) (met unmet : Option (Judge m)) : Judge m
  | .verdict, v => do
    if ← test .verdict v then optional "then" met .verdict v
    else optional "else" unmet .verdict v
  | .evaluated, v => do
    if ← test .verdict v then
      return (← test .evaluated v) ++ (← optional "then" met .evaluated v)
    else optional "else" unmet .evaluated v
  | .report, v => do
    if ← test .verdict v then optional "then" met .report v
    else optional "else" unmet .report v

/-- Every element after the first `skip`. -/
def items (keyword : String) (skip : Nat) (j : Judge m) : Judge m
  | .verdict, v => (v.elements.drop skip).allM fun x => j .verdict x
  | .evaluated, v => return ((PartKind.elements.parts v).drop skip).map (·.1)
  | .report, v => collect (fun (x, i) => j.reportAt [.element i] [.member keyword] x)
      ((v.elements.drop skip).zipIdx skip)

/-- Elements by position. -/
def positional (keyword : String) (js : List (Judge m)) : Judge m
  | .verdict, v => (js.zip v.elements).allM fun (j, x) => j .verdict x
  | .evaluated, v => return ((PartKind.elements.parts v).take js.length).map (·.1)
  | .report, v => collect (fun ((j, x), i) =>
      j.reportAt [.element i] [.member keyword, .element i] x) (js.zip v.elements).zipIdx

def negation (document : Json) (j : Judge m) : Judge m
  | .verdict, v => return !(← j .verdict v)
  | .evaluated, _ => return []
  | .report, v => do return if ← j .verdict v then [.own "not" v (.forbidden document)] else []

/-- A judge for objects that have a key. -/
def dependent (keyword key : String) (j : Judge m) : Judge m
  | .verdict, v => if (v.get? key).isSome then j .verdict v else return true
  | .evaluated, v =>
    if (v.get? key).isSome && keyword == "dependentSchemas" then j .evaluated v else return []
  | .report, v =>
    if (v.get? key).isSome then j.reportAt [] [.member keyword, .member key] v else return []

/-- A judge for the names of members; one that accepts no name objects to the value as a whole. -/
def propertyNames (refusesAll : Bool) (j : Judge m) : Judge m
  | .verdict, v => v.members.allM fun (key, _) => j .verdict (.string key)
  | .evaluated, _ => return []
  | .report, v =>
    if refusesAll then
      return if v.members.isEmpty then [] else [.own "propertyNames" v .neverAllowed]
    else collect (fun (key, _) => j.reportAt [] [.member "propertyNames"] (.string key)) v.members

/-- The parts that neither the judges beside this one evaluate nor this one accepts. -/
def leftOver (kind : PartKind) (beside : List (Judge m)) (j : Judge m) (v : Json) :
    m (List (Step × Json)) := do
  let evaluated ← collect (fun j => j .evaluated v) beside
  let accepted ← j.acceptedAmong (kind.parts v)
  return (kind.parts v).filter fun (step, _) => !(evaluated ++ accepted).contains step

/-- A judge for the parts that those beside it do not evaluate. -/
def unevaluated (kind : PartKind) (beside : List (Judge m)) (j : Judge m) : Judge m
  | .verdict, v => return (← leftOver kind beside j v).isEmpty
  | .evaluated, v => j.acceptedAmong (kind.parts v)
  | .report, v => do
    return match ← leftOver kind beside j v with
      | [] => []
      | part :: parts =>
        [.own kind.unevaluatedKeyword v (kind.unevaluatedCause (part :: parts))]

end Judge

end SliceContract
