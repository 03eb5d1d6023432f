import SliceContract.Yaml.Token.Queue

/-!
# From tokens to events

Events are the nodes of a document in the order in which they are written, with the start and the
end of every collection. What is still to come is a stack of frames, one for each collection around.
-/

namespace SliceContract

namespace Yaml

/-- What stands before a node: the name it can be repeated by, and its resolved tag. -/
structure Properties where
  anchor : Option String
  tag : Option String
  deriving DecidableEq, Repr

def Properties.none : Properties := ⟨.none, .none⟩

inductive Event.Kind where
  /-- An alias: an anchored node once more. -/
  | repeated (anchor : String)
  | scalar (properties : Properties) (text : String) (style : ScalarStyle)
  | sequenceStart (properties : Properties)
  | sequenceEnd
  | mappingStart (properties : Properties)
  | mappingEnd
  deriving DecidableEq, Repr

structure Event where
  kind : Event.Kind
  mark : Mark
  deriving DecidableEq, Repr

/-- Tokens that are left, and the error after the last one. -/
structure TokenStream where
  tokens : List Token
  failure : Option SyntaxError
  deriving Repr

namespace TokenStream

def ofText (text : List Char) : TokenStream :=
  let (tokens, failure) := Yaml.tokens text
  ⟨tokens, failure⟩

/-- The next token. The end of the text stays the next token for ever. -/
def peek (ts : TokenStream) : Except SyntaxError Token :=
  match ts.tokens, ts.failure with
  | token :: _, _ => .ok token
  | [], some e => .error e
  | [], none => .ok ⟨.streamEnd, .start, .start⟩

def skip (ts : TokenStream) : TokenStream := { ts with tokens := ts.tokens.tail }

end TokenStream

/-- A collection that has begun, or a part of one; `since` is where the collection began. -/
inductive Frame where
  | node
  | blockSequence (since : Mark)
  /-- A block sequence that is not indented below its key; it ends without a token of its own. -/
  | bareSequence
  | blockKey (since : Mark)
  | blockValue (since : Mark)
  | flowSequence (since : Mark) (isFirst : Bool)
  /-- A mapping of one pair as an element of a flow sequence. -/
  | pairKey
  | pairValue
  | pairEnd
  | flowKey (since : Mark) (isFirst : Bool)
  | flowValue (since : Mark)
  /-- The value of a key without a mark. -/
  | absentValue (since : Mark)
  deriving DecidableEq, Repr

/-- Tag handles with the texts they stand for. -/
abbrev Handles := List (String × String)

/-- One step: the event, the frames to come in place of the one at hand, and the tokens left. -/
abbrev Move := Except SyntaxError (Event × List Frame × TokenStream)

namespace Event

def emptyScalar (mark : Mark) : Event := ⟨.scalar .none "" .plain, mark⟩

/-! ## Nodes -/

/-- A tag as it is written. -/
structure RawTag where
  handle : String
  suffix : String
  mark : Mark

/-- Anchor and tag in either order, with the place where they begin if there are any. -/
structure RawProperties where
  anchor : Option String
  tag : Option RawTag
  start : Option Mark

def readProperties (ts : TokenStream) : Except SyntaxError (RawProperties × TokenStream) := do
  let token ← ts.peek
  match token.kind with
  | .anchor name =>
    let ts := ts.skip
    let next ← ts.peek
    match next.kind with
    | .tag handle suffix =>
      return (⟨some name, some ⟨handle, suffix, next.start⟩, some token.start⟩, ts.skip)
    | _ => return (⟨some name, none, some token.start⟩, ts)
  | .tag handle suffix =>
    let ts := ts.skip
    let tag := some ⟨handle, suffix, token.start⟩
    let next ← ts.peek
    match next.kind with
    | .anchor name => return (⟨some name, tag, some token.start⟩, ts.skip)
    | _ => return (⟨none, tag, some token.start⟩, ts)
  | _ => return (⟨none, none, none⟩, ts)

/-- Replace the handle of a tag by what it stands for. -/
def resolveTag (handles : Handles) (start : Mark) (tag : RawTag) : Except SyntaxError String :=
  if tag.handle = "" then .ok tag.suffix
  else match handles.lookup tag.handle with
    | some text => .ok (text ++ tag.suffix)
    | none => .error ⟨.undefinedHandle, tag.mark, some (.node, start)⟩

/-- A node: the event that begins it, and the frame of its parts. -/
def node (handles : Handles) (isBlock isBare : Bool) (ts : TokenStream) : Move := do
  let token ← ts.peek
  if let .repeated name := token.kind then
    return (⟨.repeated name, token.start⟩, [], ts.skip)
  let (raw, ts) ← readProperties ts
  let token ← ts.peek
  let start := raw.start.getD token.start
  let tag ← match raw.tag with
    | some tag => (resolveTag handles start tag).map some
    | none => pure none
  let properties := ⟨raw.anchor, tag⟩
  let sequence := ⟨.sequenceStart properties, start⟩
  let mapping := ⟨.mappingStart properties, start⟩
  match token.kind, isBlock, isBare with
  | .blockEntry, _, true => return (sequence, [.bareSequence], ts)
  | .scalar text style, _, _ => return (⟨.scalar properties text style, start⟩, [], ts.skip)
  | .flowSequenceStart, _, _ => return (sequence, [.flowSequence token.start true], ts.skip)
  | .flowMappingStart, _, _ => return (mapping, [.flowKey token.start true], ts.skip)
  | .blockSequenceStart, true, _ => return (sequence, [.blockSequence token.start], ts.skip)
  | .blockMappingStart, true, _ => return (mapping, [.blockKey token.start], ts.skip)
  | _, _, _ =>
    if raw.anchor.isSome || raw.tag.isSome then
      return (⟨.scalar properties "" .plain, start⟩, [], ts)
    else
      let context := if isBlock then .blockNode else .flowNode
      throw ⟨.nodeContent, token.start, some (context, start)⟩

/-- A node, or an empty scalar at a place where one of the tokens `ends` follows; the frame `next`
comes after it. -/
def nodeUnless (handles : Handles) (isBlock isBare : Bool) (ends : List Token.Kind) (place : Mark)
    (next : Frame) (ts : TokenStream) : Move := do
  let token ← ts.peek
  if token.kind ∈ ends then return (emptyScalar place, [next], ts)
  else
    let (event, frames, ts) ← node handles isBlock isBare ts
    return (event, frames ++ [next], ts)

/-! ## Block collections -/

def blockSequence (handles : Handles) (since : Mark) (ts : TokenStream) : Move := do
  let token ← ts.peek
  match token.kind with
  | .blockEntry =>
    nodeUnless handles true false [.blockEntry, .blockEnd] token.stop (.blockSequence since) ts.skip
  | .blockEnd => return (⟨.sequenceEnd, token.start⟩, [], ts.skip)
  | _ => throw ⟨.blockEntry, token.start, some (.blockSequence, since)⟩

def bareSequence (handles : Handles) (ts : TokenStream) : Move := do
  let token ← ts.peek
  match token.kind with
  | .blockEntry =>
    nodeUnless handles true false [.blockEntry, .key, .value, .blockEnd] token.stop .bareSequence
      ts.skip
  | _ => return (⟨.sequenceEnd, token.start⟩, [], ts)

def blockKey (handles : Handles) (since : Mark) (ts : TokenStream) : Move := do
  let token ← ts.peek
  match token.kind with
  | .key =>
    nodeUnless handles true true [.key, .value, .blockEnd] token.stop (.blockValue since) ts.skip
  | .blockEnd => return (⟨.mappingEnd, token.start⟩, [], ts.skip)
  | _ => throw ⟨.blockKey, token.start, some (.blockMapping, since)⟩

def blockValue (handles : Handles) (since : Mark) (ts : TokenStream) : Move := do
  let token ← ts.peek
  match token.kind with
  | .value =>
    nodeUnless handles true true [.key, .value, .blockEnd] token.stop (.blockKey since) ts.skip
  | _ => return (emptyScalar token.start, [.blockKey since], ts)

/-! ## Flow collections -/

/-- Pass the comma before an element that is not the first. -/
def separator (isFirst : Bool) (failure : Mark → SyntaxError) (ts : TokenStream) :
    Except SyntaxError TokenStream :=
  if isFirst then .ok ts
  else do
    let token ← ts.peek
    if token.kind = .flowEntry then return ts.skip else throw (failure token.start)

def flowSequence (handles : Handles) (since : Mark) (isFirst : Bool) (ts : TokenStream) : Move := do
  let token ← ts.peek
  if token.kind = .flowSequenceEnd then return (⟨.sequenceEnd, token.start⟩, [], ts.skip)
  let failure mark := ⟨.flowSequenceEnd, mark, some (.flowSequence, since)⟩
  let ts ← separator isFirst failure ts
  let token ← ts.peek
  let next := .flowSequence since false
  match token.kind with
  | .key => return (⟨.mappingStart .none, token.start⟩, [.pairKey, next], ts.skip)
  | .flowSequenceEnd => return (⟨.sequenceEnd, token.start⟩, [], ts.skip)
  | _ =>
    let (event, frames, ts) ← node handles false false ts
    return (event, frames ++ [next], ts)

/-- The key of a pair in a flow sequence. Where the key is empty the token after it is passed. -/
def pairKey (handles : Handles) (ts : TokenStream) : Move := do
  let token ← ts.peek
  if token.kind ∈ [.value, .flowEntry, .flowSequenceEnd] then
    return (emptyScalar token.stop, [.pairValue], ts.skip)
  else
    let (event, frames, ts) ← node handles false false ts
    return (event, frames ++ [.pairValue], ts)

/-- The value after a colon, or an empty scalar. -/
def flowColonValue (handles : Handles) (ends : List Token.Kind) (next : Frame) (ts : TokenStream) :
    Move := do
  let token ← ts.peek
  if token.kind = .value then
    let ts := ts.skip
    let token ← ts.peek
    nodeUnless handles false false ends token.start next ts
  else return (emptyScalar token.start, [next], ts)

def flowKey (handles : Handles) (since : Mark) (isFirst : Bool) (ts : TokenStream) : Move := do
  let token ← ts.peek
  if token.kind = .flowMappingEnd then return (⟨.mappingEnd, token.start⟩, [], ts.skip)
  let failure mark := ⟨.flowMappingEnd, mark, some (.flowMapping, since)⟩
  let ts ← separator isFirst failure ts
  let token ← ts.peek
  match token.kind with
  | .key =>
    let ts := ts.skip
    let token ← ts.peek
    nodeUnless handles false false [.value, .flowEntry, .flowMappingEnd] token.start
      (.flowValue since) ts
  | .flowMappingEnd => return (⟨.mappingEnd, token.start⟩, [], ts.skip)
  | _ =>
    let (event, frames, ts) ← node handles false false ts
    return (event, frames ++ [.absentValue since], ts)

/-! ## Runs -/

def step (handles : Handles) (frame : Frame) (ts : TokenStream) : Move :=
  match frame with
  | .node => node handles true false ts
  | .blockSequence since => blockSequence handles since ts
  | .bareSequence => bareSequence handles ts
  | .blockKey since => blockKey handles since ts
  | .blockValue since => blockValue handles since ts
  | .flowSequence since isFirst => flowSequence handles since isFirst ts
  | .pairKey => pairKey handles ts
  | .pairValue => flowColonValue handles [.flowEntry, .flowSequenceEnd] .pairEnd ts
  | .pairEnd => do
    let token ← ts.peek
    return (⟨.mappingEnd, token.start⟩, [], ts)
  | .flowKey since isFirst => flowKey handles since isFirst ts
  | .flowValue since =>
    flowColonValue handles [.flowEntry, .flowMappingEnd] (.flowKey since false) ts
  | .absentValue since => do
    let token ← ts.peek
    return (emptyScalar token.start, [.flowKey since false], ts)

/-- The events of the frames, and how they end: with the tokens after them or with an error. -/
def run (handles : Handles) :
    Nat → List Frame → TokenStream → List Event × Except SyntaxError TokenStream
  | _, [], ts => ([], .ok ts)
  | 0, _, ts => ([], .ok ts)
  | fuel + 1, frame :: frames, ts =>
    match step handles frame ts with
    | .error e => ([], .error e)
    | .ok (event, next, ts) =>
      let (events, result) := run handles fuel (next ++ frames) ts
      (event :: events, result)

end Event

end Yaml

end SliceContract
