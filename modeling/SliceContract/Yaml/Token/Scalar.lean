import SliceContract.Text.Hex
import SliceContract.Yaml.Token.Basic
import SliceContract.Yaml.Token.Cursor

/-!
# Scanning scalars

Plain, quoted and block scalars: where they end, how their lines are folded, and what their
escapes stand for.
-/

namespace SliceContract

namespace Yaml

namespace Scalar

open Chars

/-- What stands between two parts of a scalar on different lines: a single line feed is folded into
a space, and any more breaks stay. -/
def folded (leading trailing : List Char) : List Char :=
  match leading with
  | ['\n'] => if trailing.isEmpty then [' '] else trailing
  | _ => leading ++ trailing

/-- Blanks and breaks between parts of a flow scalar: the blanks of the line that the part ends,
the first break and the others. -/
structure Gap where
  blanks : List Char
  leading : List Char
  trailing : List Char
  broken : Bool

namespace Gap

def none : Gap := ⟨[], [], [], false⟩

def text (g : Gap) : List Char := if g.broken then folded g.leading g.trailing else g.blanks

end Gap

/-- Read blanks and breaks. In a plain scalar a tab may not stand before the column `indent` of a
continued line. -/
def gap (plainSince : Option (Mark × Int)) :
    Nat → Gap → Cursor → Except SyntaxError (Gap × Cursor)
  | 0, g, s => .ok (g, s)
  | fuel + 1, g, s =>
    if isBlank s.first then
      match plainSince with
      | some (since, indent) =>
        if g.broken ∧ (s.mark.column : Int) < indent ∧ s.first = '\t' then
          s.fail .plainScalar since .tabInPlain
        else step fuel g s
      | Option.none => step fuel g s
    else if isBreak s.first then
      if g.broken then
        gap plainSince fuel { g with trailing := g.trailing ++ s.lineBreak } s.skipLine
      else
        gap plainSince fuel
          { g with blanks := [], leading := s.lineBreak, broken := true } s.skipLine
    else .ok (g, s)
where
  step (fuel : Nat) (g : Gap) (s : Cursor) : Except SyntaxError (Gap × Cursor) :=
    gap plainSince fuel (if g.broken then g else { g with blanks := g.blanks ++ [s.first] }) s.skip

/-! ## Plain scalars -/

def isFlowIndicator (c : Char) : Bool :=
  c = ',' || c = '[' || c = ']' || c = '\x7b' || c = '\x7d'

/-- Whether a plain scalar ends before the next character. -/
def endsPlain (inFlow : Bool) (s : Cursor) : Bool :=
  (s.first = ':' && isBlankOrEnd (s.peek 1)) || (inFlow && isFlowIndicator s.first)

/-- Whether a colon stands where a plain scalar in a flow collection cannot have it. -/
def isStrayColon (inFlow : Bool) (s : Cursor) : Bool :=
  inFlow && s.first = ':' && (isFlowIndicator (s.peek 1) || s.peek 1 = '?')

/-- The characters up to the next blank, break or indicator. -/
def plainRun (inFlow : Bool) (since : Mark) :
    Nat → List Char → Cursor → Except SyntaxError (List Char × Cursor)
  | 0, text, s => .ok (text, s)
  | fuel + 1, text, s =>
    if isBlankOrEnd s.first then .ok (text, s)
    else if isStrayColon inFlow s then s.fail .plainScalar since .plainColon
    else if endsPlain inFlow s then .ok (text, s)
    else plainRun inFlow since fuel (text ++ [s.first]) s.skip

/-- A plain scalar: its text, the mark after its last character, the rest, and whether a line break
was passed after that character. -/
structure Plain where
  text : List Char
  stop : Mark
  rest : Cursor
  broken : Bool

/-- Continue a plain scalar after the gap `g`. -/
def plainParts (inFlow : Bool) (since : Mark) (indent : Int) :
    Nat → Gap → Plain → Except SyntaxError Plain
  | 0, _, p => .ok p
  | fuel + 1, g, p =>
    let s := p.rest
    if s.isAtDocumentMark || s.first = '#' then .ok p
    else do
      let (run, s') ← plainRun inFlow since (s.rest.length + 1) [] s
      let (g, p) :=
        if run.isEmpty then (g, p)
        else (Gap.none, ⟨p.text ++ g.text ++ run, s'.mark, s', false⟩)
      if isBlank p.rest.first || isBreak p.rest.first then
        let (g, s) ← gap (some (since, indent)) (p.rest.rest.length + 1) g p.rest
        let p := { p with rest := s, broken := g.broken }
        if !inFlow ∧ (s.mark.column : Int) < indent then .ok p
        else plainParts inFlow since indent fuel g p
      else .ok p

/-- A plain scalar, inside a collection that is indented by `indent - 1`. -/
def plain (inFlow : Bool) (indent : Int) (s : Cursor) : Except SyntaxError Plain :=
  plainParts inFlow s.mark indent (s.rest.length + 1) .none ⟨[], s.mark, s, false⟩

/-! ## Quoted scalars -/

/-- The character that an escape letter stands for. -/
def escapeChar? (c : Char) : Option Char :=
  match c with
  | '0' => some '\x00'
  | 'a' => some '\x07'
  | 'b' => some '\x08'
  | 't' => some '\t'
  | '\t' => some '\t'
  | 'n' => some '\n'
  | 'v' => some '\x0b'
  | 'f' => some '\x0c'
  | 'r' => some '\r'
  | 'e' => some '\x1b'
  | ' ' => some ' '
  | '"' => some '"'
  | '/' => some '/'
  | '\\' => some '\\'
  | 'N' => some '\u0085'
  | '_' => some '\u00a0'
  | 'L' => some '\u2028'
  | 'P' => some '\u2029'
  | _ => none

/-- The number of digits after an escape letter for a code point. -/
def escapeLength? (c : Char) : Option Nat :=
  match c with
  | 'x' => some 2
  | 'u' => some 4
  | 'U' => some 8
  | _ => none

/-- An escape, from its backslash on. -/
def escape (since : Mark) (s : Cursor) : Except SyntaxError (Char × Cursor) :=
  match escapeChar? (s.peek 1), escapeLength? (s.peek 1) with
  | some c, _ => .ok (c, s.skip.skip)
  | none, none => s.fail .quotedEscape since .unknownEscape
  | none, some length =>
    let s := s.skip.skip
    let digits := s.rest.take length
    if digits.length < length || !digits.all Hex.isDigit then
      s.fail .quotedEscape since .hexNumber
    else
      let code := Hex.number digits
      if code.isValidChar then .ok (Char.ofNat code, s.skipN length)
      else s.fail .quotedEscape since .escapeCode

/-- The characters up to the next blank, break or closing quote; the flag says whether the run ends
in an escaped line break. -/
def quotedRun (single : Bool) (since : Mark) :
    Nat → List Char → Cursor → Except SyntaxError (List Char × Bool × Cursor)
  | 0, text, s => .ok (text, false, s)
  | fuel + 1, text, s =>
    let c := s.first
    if isBlankOrEnd c then .ok (text, false, s)
    else if single ∧ c = '\'' ∧ s.peek 1 = '\'' then
      quotedRun single since fuel (text ++ ['\'']) s.skip.skip
    else if c = (if single then '\'' else '"') then .ok (text, false, s)
    else if !single ∧ c = '\\' ∧ isBreak (s.peek 1) then .ok (text, true, s.skip.skipLine)
    else if !single ∧ c = '\\' then do
      let (c, s) ← escape since s
      quotedRun single since fuel (text ++ [c]) s
    else quotedRun single since fuel (text ++ [c]) s.skip

/-- The parts of a quoted scalar up to its closing quote. -/
def quotedParts (single : Bool) (since : Mark) :
    Nat → List Char → Cursor → Except SyntaxError (List Char × Cursor)
  | 0, _, s => s.fail .quotedScalar since .endOfStream
  | fuel + 1, text, s =>
    if s.isAtDocumentMark then s.fail .quotedScalar since .documentIndicator
    else if s.isAtEnd then s.fail .quotedScalar since .endOfStream
    else do
      let (text, escaped, s) ← quotedRun single since (s.rest.length + 1) text s
      if s.first = (if single then '\'' else '"') then .ok (text, s.skip)
      else
        let (g, s) ← gap none (s.rest.length + 1) { Gap.none with broken := escaped } s
        quotedParts single since fuel (text ++ g.text) s

/-- A quoted scalar, from its opening quote on. -/
def quoted (single : Bool) (s : Cursor) : Except SyntaxError (List Char × Cursor) :=
  quotedParts single s.mark (s.rest.length + 1) [] s.skip

/-! ## Block scalars -/

/-- What happens to the breaks at the end of a block scalar. -/
inductive Chomping where
  | strip
  | clip
  | keep
  deriving DecidableEq, Repr

def chomping? (c : Char) : Option Chomping :=
  match c with
  | '+' => some .keep
  | '-' => some .strip
  | _ => none

/-- A digit for the indentation; zero is refused. -/
def indentation? (since : Mark) (s : Cursor) : Except SyntaxError (Option Nat × Cursor) :=
  if !s.first.isDigit then .ok (none, s)
  else if s.first = '0' then s.fail .blockScalar since .zeroIndentation
  else .ok (some (s.first.toNat - '0'.toNat), s.skip)

/-- The indicators after the opening sign, in either order. -/
def header (since : Mark) (s : Cursor) : Except SyntaxError (Chomping × Option Nat × Cursor) :=
  match chomping? s.first with
  | some chomping => do
    let (indentation, s) ← indentation? since s.skip
    return (chomping, indentation, s)
  | none => do
    let (indentation, s) ← indentation? since s
    match indentation, chomping? s.first with
    | some _, some chomping => return (chomping, indentation, s.skip)
    | _, _ => return (.clip, indentation, s)

/-- Breaks and indentation before a line of a block scalar. -/
structure Lead where
  breaks : List Char
  stop : Mark
  widest : Nat
  rest : Cursor

/-- Whether a place is left of the column `indent`; any place is while that is not known. -/
def isInside (indent : Option Nat) (s : Cursor) : Bool :=
  match indent with
  | some n => s.mark.column < n
  | none => true

/-- Drop indentation up to the column `indent`, or all of it while that is not known. -/
def dropIndent (indent : Option Nat) : Nat → Cursor → Cursor
  | 0, s => s
  | fuel + 1, s =>
    if isInside indent s ∧ s.first = ' ' then dropIndent indent fuel s.skip else s

/-- Read empty lines and the indentation of the next line. -/
def lead (since : Mark) (indent : Option Nat) : Nat → Lead → Except SyntaxError Lead
  | 0, l => .ok l
  | fuel + 1, l =>
    let s := dropIndent indent (l.rest.rest.length + 1) l.rest
    let l := { l with widest := max l.widest s.mark.column, rest := s }
    if isInside indent s ∧ s.first = '\t' then s.fail .blockScalar since .tabAsIndentation
    else if isBreak s.first then
      lead since indent fuel
        { l with breaks := l.breaks ++ s.lineBreak, stop := s.skipLine.mark, rest := s.skipLine }
    else .ok l

def leadFrom (since : Mark) (indent : Option Nat) (s : Cursor) : Except SyntaxError Lead :=
  lead since indent (s.rest.length + 1) ⟨[], s.mark, 0, s⟩

/-- A block scalar so far: its text, the break that ends its last line, the empty lines after
that, and whether that line began with a blank. -/
structure Block where
  text : List Char
  leading : List Char
  trailing : List Char
  blank : Bool
  stop : Mark
  rest : Cursor

/-- The lines of a block scalar at the column `indent`. Only breaks between lines that do not begin
with a blank are folded. -/
def lines (isLiteral : Bool) (since : Mark) (indent : Nat) : Nat → Block → Except SyntaxError Block
  | 0, b => .ok b
  | fuel + 1, b =>
    let s := b.rest
    if s.mark.column ≠ indent ∨ s.isAtEnd then .ok b
    else do
      let blank := isBlank s.first
      let isFolded := !isLiteral && b.leading = ['\n'] && !b.blank && !blank
      let joint :=
        if isFolded then (if b.trailing.isEmpty then [' '] else b.trailing)
        else b.leading ++ b.trailing
      let (line, s) := s.takeWhile fun c => !isBreak c
      let l ← leadFrom since (some indent) s.skipLine
      lines isLiteral since indent fuel
        ⟨b.text ++ joint ++ line, s.lineBreak, l.breaks, blank, l.stop, l.rest⟩

/-- A block scalar, from its opening sign on, inside a collection that is indented by `parent`. -/
def block (isLiteral : Bool) (parent : Int) (s : Cursor) :
    Except SyntaxError (List Char × Mark × Cursor) := do
  let since := s.mark
  let (chomping, indentation, s) ← header since s.skip
  let s := s.skipBlanks.skipComment
  if !isBreakOrEnd s.first then s.fail .blockScalar since .commentOrBreak
  else
    let s := s.skipLine
    let given := indentation.map fun n => if 0 ≤ parent then parent.toNat + n else n
    let l ← leadFrom since given s
    let indent := given.getD (max l.widest (max (parent + 1).toNat 1))
    let b ← lines isLiteral since indent (s.rest.length + 1)
      ⟨[], [], l.breaks, false, l.stop, l.rest⟩
    let tail := match chomping with
      | .strip => []
      | .clip => b.leading
      | .keep => b.leading ++ b.trailing
    return (b.text ++ tail, b.stop, b.rest)

end Scalar

end Yaml

end SliceContract
