import SliceContract.Pattern.Expression
import SliceContract.Pattern.Grammar.Bracket

/-!
# Reading expressions

How a spelled out pattern is taken apart for matching. This reading knows look-arounds,
back-references, atomic groups and conditions. A brace that begins no count is a character, and a
second count after a first one is text.
-/

namespace SliceContract

namespace Pattern

namespace Expression

structure Flags where
  /-- Letters match in both cases. -/
  foldCase : Bool
  /-- Anchors match at line ends. -/
  multiLine : Bool
  /-- A dot matches line feeds too. -/
  dotAll : Bool
  /-- Repetitions are lazy unless marked. -/
  swapGreed : Bool
  /-- Blanks and comments do not count. -/
  extended : Bool

structure Reading where
  rest : List Char
  flags : Flags
  /-- How many groups have been opened. -/
  groups : Nat
  names : List (String × Nat)
  /-- The groups that something refers to. -/
  referred : List Nat
  /-- Whether a group has been referred to by its number. -/
  hasNumbers : Bool

namespace Reading

def start (text : List Char) : Reading :=
  ⟨text, ⟨false, false, false, false, false⟩, 0, [], [], false⟩

def setFlag (flags : Flags) (value : Bool) : Char → Option Flags
  | 'i' => some { flags with foldCase := value }
  | 'm' => some { flags with multiLine := value }
  | 's' => some { flags with dotAll := value }
  | 'U' => some { flags with swapGreed := value }
  | 'x' => some { flags with extended := value }
  | 'u' => if value then some flags else none
  | _ => none

end Reading

/-- What follows a comment, of which the opening mark has been read. -/
def dropComment : List Char → Option (List Char)
  | ')' :: rest => some rest
  | '\\' :: _ :: rest => dropComment rest
  | _ :: rest => dropComment rest
  | [] => none

/-- Skip comments and, in the extended style, blanks and line comments. -/
def skip (extended : Bool) : Nat → List Char → Option (List Char)
  | 0, text => some text
  | fuel + 1, text =>
    match text with
    | '(' :: '?' :: '#' :: rest => (dropComment rest).bind (skip extended fuel)
    | c :: rest =>
      if extended && c == '#' then skip extended fuel ((rest.dropWhile (· != '\n')).drop 1)
      else if extended && [' ', '\r', '\n', '\t'].contains c then skip extended fuel rest
      else some text
    | [] => some []

def Reading.skipped (r : Reading) : Option Reading :=
  (skip r.flags.extended (r.rest.length + 1) r.rest).map fun rest => { r with rest }

/-- A decimal number that fits a machine word. -/
def number? (text : List Char) : Option (Nat × List Char) :=
  let digits := text.takeWhile Char.isDigit
  let value := Nat.ofDigitChars 10 digits 0
  if digits.isEmpty || UInt64.size ≤ value then none else some (value, text.drop digits.length)

/-- A count in braces after its opening brace. Either bound may be left out. -/
def count? (extended : Bool) (text : List Char) : Option ((Nat × Option Nat) × List Char) := do
  let skip := fun text => skip extended (text.length + 1) text
  let text ← skip text
  let (least, rest) ← if text.head? = some ',' then some (0, text) else number? text
  match ← skip rest with
  | '\x7d' :: rest => return ((least, some least), rest)
  | ',' :: rest =>
    let rest ← skip rest
    let (most, rest) := match number? rest with
      | some (most, rest) => (some most, rest)
      | none => (none, rest)
    match ← skip rest with
    | '\x7d' :: rest => return ((least, most), rest)
    | _ => none
  | _ => none

/-- A name between marks. -/
def name? (opening closing : List Char) (text : List Char) : Option (String × List Char) := do
  let body ← if opening.isPrefixOf text then some (text.drop opening.length) else none
  let name := body.takeWhile fun c => c = '_' || Unicode.alphanumerics.contains c
  let rest := body.drop name.length
  if name.isEmpty || !closing.isPrefixOf rest then none
  else return (String.ofList name, rest.drop closing.length)

/-- Refer to a group that has been opened. -/
def refer (r : Reading) (number : Nat) : Option (Expression × Reading) :=
  if number ≤ r.groups then
    some (.backReference number, { r with referred := number :: r.referred })
  else none

/-- A reference by number. The number must be small beside the size of the pattern. -/
def numberedReference (size : Nat) (r : Reading) : Option (Expression × Reading) := do
  let (number, rest) ← number? r.rest
  if number < size / 2 then refer { r with rest, hasNumbers := true } number else none

/-- A reference by name, or by a number in the place of a name. -/
def namedReference (opening closing : List Char) (r : Reading) : Option (Expression × Reading) := do
  let (name, rest) ← name? opening closing r.rest
  match r.names.lookup name with
  | some number => refer { r with rest } number
  | none =>
    let (number, left) ← number? name.toList
    if left.isEmpty then refer { r with rest } number else none

/-- A code point in hexadecimal: of fixed length, or up to eight digits in braces. -/
def codePoint (count : Nat) (text : List Char) : Option (Char × List Char) :=
  let digits := (text.take count).takeWhile Hex.isDigit
  if digits.length = count then
    (Grammar.charOf? (Hex.number digits)).map fun c => (c, text.drop count)
  else
    match text with
    | '\x7b' :: rest =>
      let digits := rest.takeWhile Hex.isDigit
      match rest.drop digits.length with
      | '\x7d' :: rest =>
        if digits.isEmpty || 8 < digits.length then none
        else (Grammar.charOf? (Hex.number digits)).map fun c => (c, rest)
      | _ => none
    | _ => none

/-- The character that an escape stands for, given its letter and what follows. -/
def escapedChar (inClass : Bool) (c : Char) (rest : List Char) : Option (Char × List Char) :=
  match Grammar.controlChar? c, Grammar.digitCount? c with
  | some c, _ => some (c, rest)
  | _, some count => codePoint count rest
  | _, _ =>
    if c = 'a' then some ('\x07', rest)
    else if c = 'e' then some ('\x1b', rest)
    else if c = 'b' && inClass then some ('\x08', rest)
    else if c.isAlphanum then none
    else some (c, rest)

/-- The text of a property escape, after its letter. -/
def propertyText (text : List Char) : Option (List Char × List Char) :=
  match text with
  | '\x7b' :: rest =>
    let inside := rest.takeWhile (· != '\x7d')
    match rest.drop inside.length with
    | '\x7d' :: rest => some ('\x7b' :: (inside ++ ['\x7d']), rest)
    | _ => none
  | c :: rest => some ([c], rest)
  | [] => none

/-- The text of a class that an escape stands for, given its letter and what follows. -/
def escapedClass (c : Char) (rest : List Char) : Option (List Char × List Char) :=
  if (Shorthand.ofLetter? c).isSome then some (['\\', c], rest)
  else if c = 'h' then some ("[0-9A-Fa-f]".toList, rest)
  else if c = 'H' then some ("[^0-9A-Fa-f]".toList, rest)
  else if c = 'p' ∨ c = 'P' then
    (propertyText rest).map fun (name, rest) => ('\\' :: c :: name, rest)
  else none

/-- A character as it is written where it must not have a meaning of its own. -/
def quoted (c : Char) : List Char :=
  if Grammar.isEscapable c then ['\\', c] else [c]

/-- The text of a class, of which `depth` brackets are open, with its escapes resolved. -/
def classText : Nat → Nat → List Char → Option (List Char × List Char)
  | 0, _, _ => none
  | fuel + 1, depth, text =>
    let more (found : List Char) (depth : Nat) (rest : List Char) :=
      (classText fuel depth rest).map fun (others, rest) => (found ++ others, rest)
    match text with
    | [] => none
    | '\\' :: c :: rest =>
      match escapedClass c rest, escapedChar true c rest with
      | some (found, rest), _ => more found depth rest
      | none, some (c, rest) => more (quoted c) depth rest
      | none, none => none
    | '[' :: rest => more ['['] (depth + 1) rest
    | ']' :: rest => if depth = 1 then some ([']'], rest) else more [']'] (depth - 1) rest
    | c :: rest => more [c] depth rest

/-- The text of a class after its opening bracket. A bracket in first place does not close it. -/
def bracketText (text : List Char) : Option (List Char × List Char) :=
  let caret := if text.head? = some '^' then ['^'] else []
  let afterCaret := text.drop caret.length
  let first := if afterCaret.head? = some ']' then [']'] else []
  (classText (text.length + 1) 1 (afterCaret.drop first.length)).map fun (found, rest) =>
    ('[' :: (caret ++ first ++ found), rest)

/-- The characters of the class that a text spells. -/
def charsOf? (flags : Flags) (text : List Char) : Option Expression :=
  ((Grammar.class? text).bind (·.members? flags.foldCase)).map .chars

def literal (flags : Flags) (c : Char) : Expression :=
  .chars (if flags.foldCase then (CharSet.single c).foldCase else .single c)

/-- An anchor or a place that an escape letter stands for, given what follows. -/
def escapedPlace? (c : Char) (rest : List Char) : Option Expression :=
  if (c = 'b' ∨ c = 'B') && rest.head? == some '\x7b' then none
  else
    match c with
    | 'A' => some (.anchor .textStart)
    | 'z' => some (.anchor .textEnd)
    | 'b' => some (.anchor .wordBoundary)
    | 'B' => some (.anchor .noWordBoundary)
    | '<' => some (.anchor .wordStart)
    | '>' => some (.anchor .wordEnd)
    | 'K' => some .keepOut
    | 'G' => some .searchStart
    | _ => none

/-- An escape after its backslash. -/
def escape (size : Nat) (r : Reading) : Option (Expression × Reading) :=
  match r.rest with
  | [] => none
  | c :: rest =>
    if c.isDigit then numberedReference size r
    else if c = 'k' then
      (namedReference ['<'] ['>'] { r with rest }).or (namedReference ['\''] ['\''] { r with rest })
    else
      match escapedPlace? c rest, escapedClass c rest, escapedChar false c rest with
      | some e, _, _ => some (e, { r with rest })
      | none, some (found, rest), _ =>
        (charsOf? r.flags found).map fun e => (e, { r with rest })
      | none, none, some (c, rest) => some (literal r.flags c, { r with rest })
      | none, none, none => none

/-- A part that is neither a group nor a repetition. At a mark that ends or repeats a part, there
is nothing to be read. -/
def simplePart (size : Nat) (r : Reading) : Option (Expression × Reading) :=
  match r.rest with
  | [] => some (.empty, r)
  | c :: rest =>
    let after := { r with rest }
    match c with
    | '.' =>
      let set := if r.flags.dotAll then .full else (CharSet.single '\n').complement
      some (.chars set, after)
    | '^' => some (.anchor (if r.flags.multiLine then .lineStart else .textStart), after)
    | '$' => some (.anchor (if r.flags.multiLine then .lineEnd else .textEnd), after)
    | '\\' => escape size after
    | '+' | '*' | '?' | '|' | ')' => some (.empty, r)
    | '[' => do
      let (found, rest) ← bracketText rest
      let e ← charsOf? r.flags found
      return (e, { r with rest })
    | _ => some (literal r.flags c, after)

/-- Flags after a question mark, up to a closing parenthesis or a colon; whether they stand alone.
-/
def readFlags : Nat → Nat → Bool → Reading → Option (Bool × Reading)
  | 0, _, _, _ => none
  | fuel + 1, seen, negated, r => do
    let r ← r.skipped
    match r.rest with
    | [] => none
    | c :: rest =>
      let after := { r with rest }
      if c = ')' then
        if seen = 0 || (negated && seen = 1) then none else return (true, after)
      else if c = ':' then
        if negated && seen = 1 then none else return (false, after)
      else if c = '-' then
        if negated then none else readFlags fuel (seen + 1) true after
      else
        let flags ← Reading.setFlag r.flags (!negated) c
        readFlags fuel (seen + 1) negated { after with flags }

/-- What an opening parenthesis begins, and how its inside is used. -/
inductive Opening where
  | wrapped (wrap : Expression → Expression)
  /-- Flags for what follows. -/
  | flags
  /-- A group with flags of its own; with the flags around it. -/
  | flagged (outer : Flags)
  | reference (e : Expression)
  | condition

def namedGroup (opening : List Char) (r : Reading) : Option (Opening × Reading) := do
  let (name, rest) ← name? ['<'] ['>'] (r.rest.drop opening.length)
  let number := r.groups + 1
  let names := (name, number) :: r.names
  return (.wrapped (.group number), { r with rest, groups := number, names })

/-- Read what follows an opening parenthesis, up to the inside of a group. -/
def opening (r : Reading) : Option (Opening × Reading) := do
  let r ← r.skipped
  match r.rest with
  | '?' :: '=' :: rest => return (.wrapped (.lookAhead false), { r with rest })
  | '?' :: '!' :: rest => return (.wrapped (.lookAhead true), { r with rest })
  | '?' :: '<' :: '=' :: rest => return (.wrapped (.lookBehind false), { r with rest })
  | '?' :: '<' :: '!' :: rest => return (.wrapped (.lookBehind true), { r with rest })
  | '?' :: '<' :: _ => namedGroup ['?'] r
  | '?' :: 'P' :: '<' :: _ => namedGroup ['?', 'P'] r
  | '?' :: 'P' :: '=' :: rest =>
    let (e, r) ← namedReference [] [')'] { r with rest }
    return (.reference e, r)
  | '?' :: '>' :: rest => return (.wrapped .atomic, { r with rest })
  | '?' :: '(' :: rest => return (.condition, { r with rest })
  | '?' :: rest =>
    let (alone, inside) ← readFlags (rest.length + 1) 0 false { r with rest }
    return (if alone then .flags else .flagged r.flags, inside)
  | _ =>
    let number := r.groups + 1
    return (.wrapped (.group number), { r with groups := number })

/-- The closing parenthesis of a group. -/
def closing (r : Reading) : Option Reading := do
  let r ← r.skipped
  match r.rest with
  | ')' :: rest => return { r with rest }
  | _ => none

/-- A condition with its branches: without a branch, only whether a group has matched. -/
def condition (test body : Expression) (hasBody : Bool) : Option Expression :=
  let decided : Expression := match test with
    | .backReference number => .groupMatched number
    | test => test
  if !hasBody then
    match test with
    | .backReference _ => some decided
    | _ => none
  else
    let (met, unmet) : Expression × Expression := match body with
      | .choice [met, unmet] => (met, unmet)
      | .choice (met :: others) => (met, .choice others)
      | body => (body, .empty)
    if met.isEmpty && unmet.isEmpty then some decided else some (.conditional decided met unmet)

/-- The parts of a sequence as one expression. -/
def ofParts : List Expression → Expression
  | [] => .empty
  | [e] => e
  | parts => .concat parts

/-- The repetition that a part is followed by. -/
def repetition (r : Reading) (e : Expression) : Option (Expression × Reading) := do
  let r ← r.skipped
  let bounds := match r.rest with
    | '?' :: rest => some ((0, some 1), rest)
    | '*' :: rest => some ((0, none), rest)
    | '+' :: rest => some ((1, none), rest)
    | '\x7b' :: rest => count? r.flags.extended rest
    | _ => none
  match bounds with
  | none => return (e, r)
  | some ((least, most), rest) =>
    if !e.isRepeatable then none
    else
      let r ← { r with rest }.skipped
      let (lazy, r) := match r.rest with
        | '?' :: rest => (true, { r with rest })
        | _ => (false, r)
      let repeated := Expression.repeated e ⟨least, most, lazy == r.flags.swapGreed⟩
      match r.rest with
      | '+' :: rest => return (.atomic repeated, { r with rest })
      | _ => return (repeated, r)

/-- The deepest nesting of groups that can be matched. -/
def depthLimit : Nat := 64

/-- Alternatives up to the end of the text or to a closing parenthesis, inside `depth` groups. -/
def alternatives (size : Nat) : Nat → Nat → Reading → Option (Expression × Reading)
  | 0, _, _ => none
  | fuel + 1, depth, r => do
    let (first, r) ← sequence fuel depth [] r
    let r ← r.skipped
    match r.rest with
    | '|' :: _ =>
      let (others, r) ← branches fuel depth r
      return (.choice (first :: others), r)
    | _ => if r.hasNumbers && !r.names.isEmpty then none else return (first, r)
where
  /-- The branches that follow, each after its bar. -/
  branches : Nat → Nat → Reading → Option (List Expression × Reading)
    | 0, _, _ => none
    | fuel + 1, depth, r =>
      match r.rest with
      | '|' :: rest => do
        let (e, r) ← sequence fuel depth [] { r with rest }
        let r ← r.skipped
        let (others, r) ← branches fuel depth r
        return (e :: others, r)
      | _ => some ([], r)
  /-- Parts one after another, until one takes no text. -/
  sequence : Nat → Nat → List Expression → Reading → Option (Expression × Reading)
    | 0, _, _, _ => none
    | fuel + 1, depth, parts, r => do
      if r.rest.isEmpty then return (ofParts parts, r)
      let length := r.rest.length
      let (e, next) ← part fuel depth r
      let (e, next) ← repetition next e
      if next.rest.length = length then return (ofParts parts, next)
      else sequence fuel depth (if e.isEmpty then parts else parts ++ [e]) next
  part : Nat → Nat → Reading → Option (Expression × Reading)
    | 0, _, _ => none
    | fuel + 1, depth, r => do
      let r ← r.skipped
      match r.rest with
      | '(' :: rest =>
        if depthLimit ≤ depth + 1 then none
        else group fuel (depth + 1) (← opening { r with rest })
      | _ => simplePart size r
  /-- The rest of a group, given what it begins with. -/
  group : Nat → Nat → Opening × Reading → Option (Expression × Reading)
    | 0, _, _ => none
    | fuel + 1, depth, (.wrapped wrap, r) => do
      let (inner, r) ← alternatives size fuel depth r
      return (wrap inner, ← closing r)
    | _ + 1, _, (.flags, r) => some (.empty, r)
    | fuel + 1, depth, (.flagged outer, r) => do
      let (inner, r) ← alternatives size fuel depth r
      return (inner, { ← closing r with flags := outer })
    | _ + 1, _, (.reference e, r) => some (e, r)
    | fuel + 1, depth, (.condition, r) => do
      let (test, r) ← testOf fuel depth r
      let r ← closing r
      let length := r.rest.length
      let (body, r) ← alternatives size fuel depth r
      let e ← condition test body (r.rest.length != length)
      return (e, ← closing r)
  /-- What a condition asks: whether a group has matched, or whether an expression matches. -/
  testOf : Nat → Nat → Reading → Option (Expression × Reading)
    | 0, _, _ => none
    | fuel + 1, depth, r =>
      match r.rest with
      | c :: _ =>
        if c.isDigit then numberedReference size r
        else if c = '\'' then namedReference ['\''] ['\''] r
        else if c = '<' then namedReference ['<'] ['>'] r
        else alternatives size fuel depth r
      | [] => none

/-- The expression that a text spells, with the number of its groups and those that something refers
to. -/
def read? (text : List Char) : Option (Expression × Nat × List Nat) :=
  let size := (String.ofList text).utf8ByteSize
  match alternatives size (6 * text.length + 6) 0 (.start text) with
  | some (e, r) => if r.rest.isEmpty then some (e, r.groups, r.referred) else none
  | none => none

end Expression

end Pattern

end SliceContract
