import SliceContract.Yaml.Document
import SliceContract.Yaml.Resolution

/-!
# From events to values

The value of a document, with every alias replaced by a copy of what it stands for. Nesting, and
the number of copies, are bounded.
-/

namespace SliceContract

namespace Yaml

/-- The way to a node in messages: keys joined by points, indices in brackets. -/
inductive Path where
  | root
  | shown (text : String)
  deriving DecidableEq, Repr

namespace Path

def text : Path → String
  | root => "."
  | shown text => text

def element (p : Path) (index : Nat) : Path := shown (p.text ++ "[" ++ toString index ++ "]")

/-- A member; a key that is no scalar is shown as a question mark. -/
def member (p : Path) (key : Option String) : Path :=
  let key := key.getD "?"
  match p with
  | root => shown key
  | shown text => shown (text ++ "." ++ key)

/-- A node that is reached by an alias is never shown as the root. -/
def through (p : Path) : Path := shown p.text

end Path

/-- Why a node has no value. -/
inductive NodeProblem where
  | scalar (problem : ScalarProblem)
  | duplicate (key : Yaml)
  deriving Repr

def NodeProblem.message : NodeProblem → String
  | scalar problem => problem.message
  | duplicate key =>
    "duplicate entry " ++ match key with
      | .null => "with null key"
      | .bool b => "with key `" ++ toString b ++ "`"
      | .number n => "with key " ++ n.text
      | .string s => "with key " ++ Debug.quoted s
      | _ => "in YAML map"

/-- Why a text has no value. -/
inductive ReadError where
  | document (e : DocumentError)
  | severalDocuments
  | recursionLimit (mark : Mark)
  | repetitionLimit
  | node (problem : NodeProblem) (path : Path) (mark : Mark)
  deriving Repr

def ReadError.message : ReadError → String
  | document e => e.message
  | severalDocuments =>
    "deserializing from YAML containing more than one document is not supported"
  | recursionLimit mark => "recursion limit exceeded" ++ mark.suffix
  | repetitionLimit => "repetition limit exceeded"
  | node problem .root mark => problem.message ++ mark.suffix
  | node problem (.shown path) mark => path ++ ": " ++ problem.message ++ mark.suffix

namespace Tree

/-- The event to read next, and how many aliases have been followed. -/
structure Place where
  position : Nat
  jumps : Nat

abbrev Read (α : Type) := StateT Place (Except ReadError) α

/-- The next event, or the error that ends the document. -/
def peek (d : Document) : Read Event := do
  let place ← get
  match d.events[place.position]?, d.failure with
  | some event, _ => return event
  | none, some e => throw (.document e)
  | none, none => throw .repetitionLimit

def advance : Read Unit := modify fun place => { place with position := place.position + 1 }

/-- A tag that names a kind of this document's own, without its exclamation mark. -/
def localTag? (tag : Option String) : Option String :=
  match tag with
  | none => none
  | some tag => if tag.startsWith "!" then some (tagName tag) else none

def maxDepth : Nat := 128

/-- Follow an alias: go to the event that it stands for, and say where to come back to. -/
def jump (d : Document) : Read Nat := do
  let place ← get
  if d.events.size * 100 < place.jumps + 1 then throw .repetitionLimit
  match d.anchors.target? place.position with
  | none => throw .repetitionLimit
  | some target =>
    set (⟨target, place.jumps + 1⟩ : Place)
    return place.position + 1

/-- Go into a collection, one of at most `depth` in each other. -/
def enter (mark : Mark) (depth : Nat) : Read Nat :=
  match depth with
  | 0 => throw (.recursionLimit mark)
  | depth + 1 => do
    advance
    return depth

def wrap (tag : Option String) (v : Yaml) : Yaml :=
  match tag with
  | some tag => .tagged tag v
  | none => v

def scalarText? : Event.Kind → Option String
  | .scalar _ text _ => some text
  | _ => none

mutual

/-- The node at hand, in at most `depth` collections. -/
def node (d : Document) : Nat → Nat → Path → Read Yaml
  | 0, _, _ => throw .repetitionLimit
  | fuel + 1, depth, path => do
    let event ← peek d
    match event.kind with
    | .repeated _ =>
      let back ← jump d
      let v ← node d fuel depth path.through
      modify fun place => { place with position := back }
      return v
    | .scalar properties text style =>
      advance
      match Resolution.scalar properties.tag style text with
      | .ok v => return wrap (localTag? properties.tag) v
      | .error problem => throw (.node (.scalar problem) path event.mark)
    | .sequenceStart properties =>
      let depth ← enter event.mark depth
      return wrap (localTag? properties.tag) (.sequence (← items d fuel depth path 0))
    | .mappingStart properties =>
      let depth ← enter event.mark depth
      return wrap (localTag? properties.tag) (.mapping (← entries d fuel depth path event.mark []))
    | .sequenceEnd | .mappingEnd => throw .repetitionLimit

/-- The rest of a sequence, from an index on. -/
def items (d : Document) : Nat → Nat → Path → Nat → Read (List Yaml)
  | 0, _, _, _ => throw .repetitionLimit
  | fuel + 1, depth, path, index => do
    let event ← peek d
    if event.kind = .sequenceEnd then advance; return []
    else
      let x ← node d fuel depth (path.element index)
      return x :: (← items d fuel depth path (index + 1))

/-- The rest of a mapping after the entries `known`. A key may not come twice. -/
def entries (d : Document) :
    Nat → Nat → Path → Mark → List (Yaml × Yaml) → Read (List (Yaml × Yaml))
  | 0, _, _, _, _ => throw .repetitionLimit
  | fuel + 1, depth, path, mark, known => do
    let event ← peek d
    if event.kind = .mappingEnd then advance; return known
    else
      let key ← node d fuel depth path
      match find? key known with
      | some (earlier, _) => throw (.node (.duplicate earlier) path mark)
      | none =>
        let value ← node d fuel depth (path.member (scalarText? event.kind))
        entries d fuel depth path mark (known ++ [(key, value)])

end

/-- Each collection takes a step for each of its parts, and an alias one more. -/
def fuel (d : Document) : Nat := (d.events.size + 3) * (2 * maxDepth + 4)

/-- The value of a document. -/
def ofDocument (d : Document) : Except ReadError Yaml := do
  if d.events.isEmpty && d.failure.isNone then return .null
  let (v, _) ← (node d (fuel d) maxDepth .root).run ⟨0, 0⟩
  match d.failure with
  | some e => throw (.document e)
  | none => if d.isLast then return v else throw .severalDocuments

end Tree

/-- The value of a text of one document. -/
def ofText (text : List Char) : Except ReadError Yaml := Tree.ofDocument (.ofText text)

end Yaml

end SliceContract
