import SliceContract.Yaml.Event

/-!
# The first document of a text

A document is its events up to the first error, with the events that its aliases stand for.
-/

namespace SliceContract

namespace Yaml

/-! ## Directives -/

structure Directives where
  hasVersion : Bool
  handles : Handles

namespace Directives

def defaults : Handles := [("!", "!"), ("!!", "tag:yaml.org,2002:")]

/-- Read directives, each version and each handle once. -/
def readFrom : Nat → Directives → TokenStream → Except SyntaxError (Handles × TokenStream)
  | 0, d, ts => .ok (d.handles ++ defaults, ts)
  | fuel + 1, d, ts => do
    let token ← ts.peek
    match token.kind with
    | .version major minor =>
      if d.hasVersion then throw ⟨.repeatedVersion, token.start, none⟩
      else if major ≠ 1 ∨ (minor ≠ 1 ∧ minor ≠ 2) then throw ⟨.incompatible, token.start, none⟩
      else readFrom fuel { d with hasVersion := true } ts.skip
    | .handle handle text =>
      if (d.handles.lookup handle).isSome then throw ⟨.repeatedHandle, token.start, none⟩
      else readFrom fuel { d with handles := d.handles ++ [(handle, text)] } ts.skip
    | _ => return (d.handles ++ defaults, ts)

def read (ts : TokenStream) : Except SyntaxError (Handles × TokenStream) :=
  readFrom (ts.tokens.length + 1) ⟨false, []⟩ ts

end Directives

/-! ## Anchors -/

/-- Anchors up to some event. A new anchor is numbered by how many names are known, and a number
stands for the last event that got it. -/
structure Anchors where
  names : List (String × Nat)
  targets : List (Nat × Nat)
  /-- The numbers that aliases stand for, by the position of the alias. -/
  references : List (Nat × Nat)
  deriving Repr

namespace Anchors

def empty : Anchors := ⟨[], [], []⟩

def anchor? : Event.Kind → Option String
  | .scalar properties _ _ | .sequenceStart properties | .mappingStart properties =>
    properties.anchor
  | _ => none

/-- Note the anchor of the event at a position. -/
def define (a : Anchors) (name : String) (position : Nat) : Anchors :=
  let number := a.names.length
  { a with
    names := (name, number) :: a.names.filter fun known => known.1 ≠ name
    targets := (number, position) :: a.targets }

/-- Note the event at a position; an alias needs a known name. -/
def note (a : Anchors) (kind : Event.Kind) (position : Nat) : Option Anchors :=
  match kind with
  | .repeated name =>
    (a.names.lookup name).map fun number =>
      { a with references := (position, number) :: a.references }
  | _ =>
    match anchor? kind with
    | some name => some (a.define name position)
    | none => some a

/-- The position of the event that the alias at a position stands for. -/
def target? (a : Anchors) (position : Nat) : Option Nat :=
  (a.references.lookup position).bind fun number => a.targets.lookup number

end Anchors

/-! ## Documents -/

/-- Why events end before their document does. -/
inductive DocumentError where
  | malformed (e : SyntaxError)
  | unknownAnchor (mark : Mark)
  deriving DecidableEq, Repr

def DocumentError.message : DocumentError → String
  | malformed e => e.message
  | unknownAnchor mark => "unknown anchor" ++ mark.suffix

/-- A document without events and failure stands for an empty text. -/
structure Document where
  events : Array Event
  anchors : Anchors
  failure : Option DocumentError
  /-- Whether nothing but the end of the text follows. -/
  isLast : Bool

namespace Document

/-- The events before the first alias without an anchor. -/
def resolve (failure : Option DocumentError) (isLast : Bool) :
    Array Event → Anchors → List Event → Document
  | known, anchors, [] => ⟨known, anchors, failure, isLast⟩
  | known, anchors, event :: rest =>
    match anchors.note event.kind known.size with
    | some anchors => resolve failure isLast (known.push event) anchors rest
    | none => ⟨known, anchors, some (.unknownAnchor event.mark), isLast⟩

/-- Tokens that end an empty document. -/
def endsEmpty : Token.Kind → Bool
  | .version _ _ | .handle _ _ | .documentStart | .documentEnd | .streamEnd => true
  | _ => false

/-- Read what stands before a document: the meanings of its tag handles, and its first frame, or
the event of an empty document. -/
def readStart (ts : TokenStream) :
    Except SyntaxError (Handles × List Event × List Frame × TokenStream) := do
  let token ← ts.peek
  match token.kind with
  | .version _ _ | .handle _ _ | .documentStart =>
    let (handles, ts) ← Directives.read ts
    let token ← ts.peek
    if token.kind ≠ .documentStart then throw ⟨.documentStart, token.start, none⟩
    let ts := ts.skip
    let token ← ts.peek
    if endsEmpty token.kind then return (handles, [Event.emptyScalar token.start], [], ts)
    else return (handles, [], [.node], ts)
  | _ => return (Directives.defaults, [], [.node], ts)

/-- Whether only the end of the text follows the end of a document. -/
def isFollowedByEnd (ts : TokenStream) : Bool :=
  let tokens := ts.tokens.dropWhile fun token => token.kind = .documentEnd
  match tokens with
  | token :: _ => token.kind = .streamEnd
  | [] => false

def ofTokens (ts : TokenStream) : Document :=
  match ts.peek with
  | .error e => ⟨#[], .empty, some (.malformed e), false⟩
  | .ok token =>
    if token.kind = .streamEnd then ⟨#[], .empty, none, true⟩
    else match readStart ts with
      | .error e => ⟨#[], .empty, some (.malformed e), false⟩
      | .ok (handles, first, frames, ts) =>
        let (events, result) := Event.run handles (4 * ts.tokens.length + 8) frames ts
        let failure := match result.bind TokenStream.peek with
          | .error e => some (.malformed e)
          | .ok _ => none
        let isLast := match result with
          | .error _ => false
          | .ok ts => isFollowedByEnd ts
        resolve failure isLast #[] .empty (first ++ events)

/-- The place of the first character that no text may hold, in bytes from the beginning. -/
def firstForbidden? : Nat → List Char → Option Nat
  | _, [] => none
  | offset, c :: rest =>
    if Chars.isAllowed c then firstForbidden? (offset + c.utf8Size) rest else some offset

/-- Read the first document. A byte order mark at the beginning is passed. -/
def ofText (text : List Char) : Document :=
  let (text, offset) := match text with
    | '\ufeff' :: rest => (rest, 3)
    | _ => (text, 0)
  match firstForbidden? offset text with
  | some place => ⟨#[], .empty, some (.malformed ⟨.controlCharacter, ⟨place, 0, 0⟩, none⟩), false⟩
  | none => ofTokens (.ofText text)

end Document

end Yaml

end SliceContract
