import SliceContract.Yaml.Value

/-!
# Merge keys

The value under the key `<<` is a mapping, or a list of them, whose entries count as entries of the
mapping around it, unless that has the key already. A `<<` that comes in with a merged mapping is
an entry like the others.
-/

namespace SliceContract

namespace Yaml

/-- Why the value under `<<` cannot be merged. -/
inductive MergeError where
  | scalar
  | tagged
  | scalarElement
  | sequenceElement
  deriving DecidableEq, Repr

def MergeError.message : MergeError → String
  | scalar => "expected a mapping or list of mappings for merging, but found scalar"
  | tagged => "unexpected tagged value in merge"
  | scalarElement => "expected a mapping for merging, but found scalar"
  | sequenceElement => "expected a mapping for merging, but found sequence"

namespace Merge

def isMergeKey : Yaml → Bool
  | .string s => s = "<<"
  | _ => false

variable {α : Type}

/-- Take the merge key out. The last entry takes its place. -/
def withoutKey (entries : List (Yaml × α)) : List (Yaml × α) :=
  let before := entries.takeWhile fun entry => !isMergeKey entry.1
  match entries.dropWhile fun entry => !isMergeKey entry.1 with
  | [] => before
  | _ :: after =>
    match after.getLast? with
    | none => before
    | some last => before ++ last :: after.dropLast

/-- Append an entry if its key is new. -/
def add (entries : List (Yaml × α)) (entry : Yaml × α) : List (Yaml × α) :=
  if entries.any fun known => entry.1.same known.1 then entries else entries ++ [entry]

/-- The entries of a mapping with those of the merged mappings, first come first served. -/
def combine (own : List (Yaml × α)) (sources : List (List (Yaml × α))) : List (Yaml × α) :=
  sources.flatten.foldl add (withoutKey own)

/-- The values of a list, or the error of the last one that has one. -/
def finishItems : List (Except MergeError Yaml) → Except MergeError (List Yaml)
  | [] => .ok []
  | x :: rest => do
    let rest ← finishItems rest
    return (← x) :: rest

/-- The entries of a list, or the error of the last one that has one. -/
def finishEntries :
    List (Yaml × Except MergeError Yaml) → Except MergeError (List (Yaml × Yaml))
  | [] => .ok []
  | (key, x) :: rest => do
    let rest ← finishEntries rest
    return (key, ← x) :: rest

end Merge

open Merge

mutual

/-- Resolve the merge keys of a value, in mappings before their parts and in later parts first. Keys
are left as they are. -/
def resolveMerges : Yaml → Except MergeError Yaml
  | .mapping entries => do
    let sources ← mergeSources entries
    return .mapping (← finishEntries (combine (resolveEntries entries) sources))
  | .sequence xs => do return .sequence (← finishItems (resolveItems xs))
  | .tagged tag v => do return .tagged tag (← resolveMerges v)
  | .null => .ok .null
  | .bool b => .ok (.bool b)
  | .number n => .ok (.number n)
  | .string s => .ok (.string s)

def resolveItems : List Yaml → List (Except MergeError Yaml)
  | [] => []
  | x :: rest => resolveMerges x :: resolveItems rest

def resolveEntries : List (Yaml × Yaml) → List (Yaml × Except MergeError Yaml)
  | [] => []
  | (key, x) :: rest => (key, resolveMerges x) :: resolveEntries rest

/-- The mappings under the merge key, with resolved values. -/
def mergeSources :
    List (Yaml × Yaml) → Except MergeError (List (List (Yaml × Except MergeError Yaml)))
  | [] => .ok []
  | (key, x) :: rest =>
    if isMergeKey key then
      match x with
      | .mapping entries => .ok [resolveEntries entries]
      | .sequence xs => elementSources xs
      | .tagged _ _ => .error .tagged
      | _ => .error .scalar
    else mergeSources rest

def elementSources : List Yaml → Except MergeError (List (List (Yaml × Except MergeError Yaml)))
  | [] => .ok []
  | x :: rest =>
    match x with
    | .mapping entries => do return resolveEntries entries :: (← elementSources rest)
    | .sequence _ => .error .sequenceElement
    | .tagged _ _ => .error .tagged
    | _ => .error .scalarElement

end

end Yaml

end SliceContract
