import SliceContract.Yaml.Token.Property
import SliceContract.Yaml.Token.Scalar

/-!
# From characters to tokens

Whether a token begins a mapping key is known only when a colon follows on the same line. Until then
it waits in a queue, because the key and the start of its mapping are to be put before it.
-/

namespace SliceContract

namespace Yaml

/-- A token that may turn out to begin a key. It has to when it stands at the indentation of a
block mapping. -/
structure PendingKey where
  isRequired : Bool
  number : Nat
  mark : Mark
  deriving DecidableEq, Repr

/-- The state between two tokens. The number of flow collections around is the number of
`outerKeys`, one pending key for each collection outside the innermost. -/
structure Queue where
  cursor : Cursor
  indent : Int
  outerIndents : List Int
  /-- Whether a key may begin here. -/
  isKeyAllowed : Bool
  key : Option PendingKey
  outerKeys : List (Option PendingKey)
  waiting : List Token
  released : Nat
  isEnded : Bool
  deriving Repr

namespace Queue

open Chars

def ofText (text : List Char) : Queue where
  cursor := ⟨text, .start⟩
  indent := -1
  outerIndents := []
  isKeyAllowed := true
  key := none
  outerKeys := []
  waiting := []
  released := 0
  isEnded := false

def mark (q : Queue) : Mark := q.cursor.mark

def inFlow (q : Queue) : Bool := !q.outerKeys.isEmpty

def push (q : Queue) (token : Token) : Queue := { q with waiting := q.waiting ++ [token] }

/-- Put a token before the one with a number. -/
def insert (q : Queue) (number : Nat) (token : Token) : Queue :=
  { q with waiting := q.waiting.insertIdx (number - q.released) token }

/-! ## Pending keys -/

def missingColon (key : PendingKey) (mark : Mark) : SyntaxError :=
  ⟨.missingColon, mark, some (.simpleKey, key.mark)⟩

/-- A key ends on its line and within 1024 characters. -/
def isStale (mark : Mark) (key : PendingKey) : Bool :=
  key.mark.line < mark.line || key.mark.index + 1024 < mark.index

def dropStaleKey (mark : Mark) : Option PendingKey → Except SyntaxError (Option PendingKey)
  | none => .ok none
  | some key =>
    if !isStale mark key then .ok (some key)
    else if key.isRequired then .error (missingColon key mark)
    else .ok none

/-- Give up the keys that can no longer get their colon, the outermost first. -/
def dropStale (q : Queue) : Except SyntaxError Queue := do
  let outerKeys ← q.outerKeys.reverse.mapM (dropStaleKey q.mark)
  let key ← dropStaleKey q.mark q.key
  return { q with key := key, outerKeys := outerKeys.reverse }

/-- Give up the pending key of the innermost collection. -/
def removeKey (q : Queue) : Except SyntaxError Queue :=
  match q.key with
  | none => .ok q
  | some key =>
    if key.isRequired then .error (missingColon key q.mark) else .ok { q with key := none }

/-- The next token may begin a key, if one is allowed here. -/
def saveKey (q : Queue) : Except SyntaxError Queue :=
  if q.isKeyAllowed then do
    let q ← q.removeKey
    let isRequired := !q.inFlow && q.indent = q.mark.column
    return { q with key := some ⟨isRequired, q.released + q.waiting.length, q.mark⟩ }
  else .ok q

/-! ## Indentation -/

/-- Begin a block collection if a column is right of the indentation. -/
def indentTo (q : Queue) (mark : Mark) (kind : Token.Kind) (number : Option Nat) : Queue :=
  if q.inFlow then q
  else if q.indent < mark.column then
    let q := { q with indent := mark.column, outerIndents := q.indent :: q.outerIndents }
    match number with
    | some number => q.insert number ⟨kind, mark, mark⟩
    | none => q.push ⟨kind, mark, mark⟩
  else q

/-- End the block collections whose indentation is right of a column. -/
def unindentTo (q : Queue) (column : Int) : Queue :=
  if q.inFlow then q else
    let ended := (q.indent :: q.outerIndents).takeWhile (column < ·)
    let left := (q.indent :: q.outerIndents).dropWhile (column < ·)
    { q with
      indent := left.headD (-1)
      outerIndents := left.tail
      waiting := q.waiting ++ ended.map fun _ => ⟨.blockEnd, q.mark, q.mark⟩ }

/-! ## Fetching a token -/

/-- Pass blanks, comments and line breaks. Tabs count as blanks unless a key may begin after
them. -/
def toNextToken : Nat → Queue → Queue
  | 0, q => q
  | fuel + 1, q =>
    let s := q.cursor
    let s := if s.mark.column = 0 ∧ s.first = '\ufeff' then s.skip else s
    let areTabsBlank := q.inFlow || !q.isKeyAllowed
    let s := (s.skipWhile fun c => c = ' ' || (areTabsBlank && c = '\t')).skipComment
    if isBreak s.first then
      toNextToken fuel
        { q with cursor := s.skipLine, isKeyAllowed := q.isKeyAllowed || !q.inFlow }
    else { q with cursor := s }

/-- Take an indicator of some characters as a token. -/
def indicator (q : Queue) (kind : Token.Kind) (width : Nat) : Queue :=
  let s := q.cursor.skipN width
  { q with cursor := s }.push ⟨kind, q.mark, s.mark⟩

def fetchEnd (q : Queue) : Except SyntaxError Queue := do
  let m := q.mark
  let mark := if m.column = 0 then m else { m with line := m.line + 1, column := 0 }
  let q := { q with cursor := ⟨q.cursor.rest, mark⟩ }
  let q ← (q.unindentTo (-1)).removeKey
  return { q with isKeyAllowed := false, isEnded := true }.push ⟨.streamEnd, mark, mark⟩

def fetchDirective (q : Queue) : Except SyntaxError Queue := do
  let q ← (q.unindentTo (-1)).removeKey
  let (token, s) ← Property.directive q.cursor
  return { q with isKeyAllowed := false, cursor := s }.push token

def fetchDocumentMark (q : Queue) (kind : Token.Kind) : Except SyntaxError Queue := do
  let q ← (q.unindentTo (-1)).removeKey
  return { q with isKeyAllowed := false }.indicator kind 3

def fetchFlowStart (q : Queue) (kind : Token.Kind) : Except SyntaxError Queue := do
  let q ← q.saveKey
  let q := { q with key := none, outerKeys := q.key :: q.outerKeys, isKeyAllowed := true }
  return q.indicator kind 1

def fetchFlowEnd (q : Queue) (kind : Token.Kind) : Except SyntaxError Queue := do
  let q ← q.removeKey
  let q := match q.outerKeys with
    | key :: rest => { q with key := key, outerKeys := rest }
    | [] => q
  return { q with isKeyAllowed := false }.indicator kind 1

def fetchFlowEntry (q : Queue) : Except SyntaxError Queue := do
  let q ← q.removeKey
  return { q with isKeyAllowed := true }.indicator .flowEntry 1

/-- Begin an entry of a block collection, or the collection itself. -/
def openBlock (q : Queue) (kind : Token.Kind) (problem : Problem) : Except SyntaxError Queue :=
  if q.inFlow then .ok q
  else if q.isKeyAllowed then .ok (q.indentTo q.mark kind none)
  else .error ⟨problem, q.mark, none⟩

def fetchBlockEntry (q : Queue) : Except SyntaxError Queue := do
  let q ← q.openBlock .blockSequenceStart .blockEntryPlace
  let q ← q.removeKey
  return { q with isKeyAllowed := true }.indicator .blockEntry 1

def fetchKey (q : Queue) : Except SyntaxError Queue := do
  let q ← q.openBlock .blockMappingStart .keyPlace
  let q ← q.removeKey
  return { q with isKeyAllowed := !q.inFlow }.indicator .key 1

/-- A colon turns the pending key into a key; without one it ends a key that was marked. -/
def fetchValue (q : Queue) : Except SyntaxError Queue :=
  match q.key with
  | some key =>
    let q := q.insert key.number ⟨.key, key.mark, key.mark⟩
    let q := q.indentTo key.mark .blockMappingStart (some key.number)
    .ok ({ q with key := none, isKeyAllowed := false }.indicator .value 1)
  | none => do
    let q ← q.openBlock .blockMappingStart .valuePlace
    return { q with isKeyAllowed := !q.inFlow }.indicator .value 1

/-- Take a token that may begin a key. -/
def fetchNode (q : Queue) (scan : Cursor → Except SyntaxError (Token.Kind × Cursor)) :
    Except SyntaxError Queue := do
  let q ← q.saveKey
  let (kind, s) ← scan q.cursor
  return { q with isKeyAllowed := false, cursor := s }.push ⟨kind, q.mark, s.mark⟩

def fetchAnchor (q : Queue) (kind : String → Token.Kind) (context : Context) :
    Except SyntaxError Queue :=
  q.fetchNode fun s => do
    let (name, s) ← Property.anchor context s
    return (kind name, s)

def fetchTag (q : Queue) : Except SyntaxError Queue :=
  q.fetchNode fun s => do
    let (handle, suffix, s) ← Property.tag q.inFlow s
    return (.tag handle suffix, s)

def fetchQuoted (q : Queue) (single : Bool) : Except SyntaxError Queue :=
  q.fetchNode fun s => do
    let (text, s) ← Scalar.quoted single s
    return (.scalar (String.ofList text) (if single then .singleQuoted else .doubleQuoted), s)

def fetchBlockScalar (q : Queue) (isLiteral : Bool) : Except SyntaxError Queue := do
  let q ← q.removeKey
  let (text, stop, s) ← Scalar.block isLiteral q.indent q.cursor
  let kind := .scalar (String.ofList text) (if isLiteral then .literal else .folded)
  return { q with isKeyAllowed := true, cursor := s }.push ⟨kind, q.mark, stop⟩

/-- A plain scalar; a key may follow when a line break ended it. -/
def fetchPlain (q : Queue) : Except SyntaxError Queue := do
  let q ← q.saveKey
  let p ← Scalar.plain q.inFlow (q.indent + 1) q.cursor
  let kind := .scalar (String.ofList p.text) .plain
  return { q with isKeyAllowed := p.broken, cursor := p.rest }.push ⟨kind, q.mark, p.stop⟩

/-- Characters that have a meaning at the start of a token. -/
def isIndicator (c : Char) : Bool :=
  Scalar.isFlowIndicator c || c = '-' || c = '?' || c = ':' || c = '#' || c = '&' || c = '*' ||
    c = '!' || c = '|' || c = '>' || c = '\'' || c = '"' || c = '%' || c = '@' || c = '`'

/-- Whether a plain scalar begins here, where no other token does. -/
def startsPlain (q : Queue) : Bool :=
  let c := q.cursor.first
  let next := q.cursor.peek 1
  !(isBlankOrEnd c || isIndicator c) || (c = '-' && !isBlank next) ||
    (!q.inFlow && (c = '?' || c = ':') && !isBlankOrEnd next)

/-- Take the token that begins here. -/
def fetchHere (q : Queue) : Except SyntaxError Queue :=
  let s := q.cursor
  let isLoose := isBlankOrEnd (s.peek 1)
  if s.isAtEnd then q.fetchEnd
  else if s.mark.column = 0 ∧ s.first = '%' then q.fetchDirective
  else if s.isDocumentMark '-' then q.fetchDocumentMark .documentStart
  else if s.isDocumentMark '.' then q.fetchDocumentMark .documentEnd
  else match s.first with
    | '[' => q.fetchFlowStart .flowSequenceStart
    | '\x7b' => q.fetchFlowStart .flowMappingStart
    | ']' => q.fetchFlowEnd .flowSequenceEnd
    | '\x7d' => q.fetchFlowEnd .flowMappingEnd
    | ',' => q.fetchFlowEntry
    | '*' => q.fetchAnchor .repeated .repeated
    | '&' => q.fetchAnchor .anchor .anchor
    | '!' => q.fetchTag
    | '\'' => q.fetchQuoted true
    | '"' => q.fetchQuoted false
    | c =>
      if c = '-' ∧ isLoose then q.fetchBlockEntry
      else if c = '?' ∧ (q.inFlow || isLoose) then q.fetchKey
      else if c = ':' ∧ (q.inFlow || isLoose) then q.fetchValue
      else if c = '|' ∧ !q.inFlow then q.fetchBlockScalar true
      else if c = '>' ∧ !q.inFlow then q.fetchBlockScalar false
      else if q.startsPlain then q.fetchPlain
      else s.fail .nextToken s.mark .noTokenStart

def fetch (q : Queue) : Except SyntaxError Queue := do
  let q ← (toNextToken (q.cursor.rest.length + 1) q).dropStale
  (q.unindentTo q.mark.column).fetchHere

/-! ## Releasing tokens -/

def pendingNumbers (q : Queue) : List Nat :=
  (q.key :: q.outerKeys).filterMap fun key => key.map (·.number)

/-- Release the tokens before the first pending key. -/
def release (q : Queue) : List Token × Queue :=
  let count := q.pendingNumbers.foldl (fun n number => min n (number - q.released)) q.waiting.length
  (q.waiting.take count,
    { q with waiting := q.waiting.drop count, released := q.released + count })

/-- The tokens up to the end or the first error. -/
def tokensFrom : Nat → Queue → List Token × Option SyntaxError
  | 0, _ => ([], none)
  | fuel + 1, q =>
    match q.fetch.bind dropStale with
    | .error e => ([], some e)
    | .ok q =>
      let (ready, q) := q.release
      if q.isEnded then (ready, none)
      else
        let (rest, e) := tokensFrom fuel q
        (ready ++ rest, e)

end Queue

/-- The tokens of a text up to its end or the first error. Each takes a character at least. -/
def tokens (text : List Char) : List Token × Option SyntaxError :=
  Queue.tokensFrom (text.length + 1) (.ofText text)

end Yaml

end SliceContract
