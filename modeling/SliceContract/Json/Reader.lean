import SliceContract.Json.Basic
import SliceContract.Text.Hex

/-!
# Reading JSON text

A reader of one value with blanks around it. An error says what is wrong and where: the line, and
the bytes since its start, up to the character at which the reader stopped; an error about a
character that was only looked at counts one byte of it.
-/

namespace SliceContract

namespace Json

namespace Reader

inductive Problem where
  | endInValue
  | endInList
  | endInObject
  | endInString
  | expectedValue
  | expectedIdent
  | expectedColon
  | expectedListCommaOrEnd
  | expectedObjectCommaOrEnd
  | keyMustBeString
  | trailingComma
  | trailingCharacters
  | invalidNumber
  | numberOutOfRange
  | invalidEscape
  | controlCharacter
  | unexpectedEndOfHexEscape
  | loneSurrogate
  | recursionLimit
  deriving DecidableEq, Repr

def Problem.message : Problem → String
  | endInValue => "EOF while parsing a value"
  | endInList => "EOF while parsing a list"
  | endInObject => "EOF while parsing an object"
  | endInString => "EOF while parsing a string"
  | expectedValue => "expected value"
  | expectedIdent => "expected ident"
  | expectedColon => "expected `:`"
  | expectedListCommaOrEnd => "expected `,` or `]`"
  | expectedObjectCommaOrEnd => "expected `,` or `\x7d`"
  | keyMustBeString => "key must be a string"
  | trailingComma => "trailing comma"
  | trailingCharacters => "trailing characters"
  | invalidNumber => "invalid number"
  | numberOutOfRange => "number out of range"
  | invalidEscape => "invalid escape"
  | controlCharacter => "control character (\\u0000-\\u001F) found while parsing a string"
  | unexpectedEndOfHexEscape => "unexpected end of hex escape"
  | loneSurrogate => "lone leading surrogate in hex escape"
  | recursionLimit => "recursion limit exceeded"

/-- A place in the text: a line from one, and the bytes since its start. -/
structure Position where
  line : Nat
  column : Nat
  deriving DecidableEq, Repr

structure Error where
  problem : Problem
  position : Position
  deriving DecidableEq, Repr

def Error.message (e : Error) : String :=
  e.problem.message ++ " at line " ++ toString e.position.line ++ " column " ++
    toString e.position.column

/-- What is left of the text, and where it begins. -/
structure Cursor where
  rest : List Char
  position : Position
  deriving DecidableEq, Repr

namespace Position

def start : Position := ⟨1, 0⟩

/-- Past a character, or past its first byte when that is all that was read. -/
def past (p : Position) (c : Char) (bytes : Nat) : Position :=
  if c = '\n' then ⟨p.line + 1, 0⟩ else ⟨p.line, p.column + bytes⟩

def pastAll (p : Position) : List Char → Position
  | [] => p
  | c :: rest => pastAll (p.past c c.utf8Size) rest

/-- Past the first `bytes` bytes of a text. -/
def pastBytes (p : Position) : Nat → List Char → Position
  | 0, _ => p
  | _, [] => p
  | bytes + 1, c :: rest =>
    let taken := min (bytes + 1) c.utf8Size
    pastBytes (p.past c taken) (bytes + 1 - taken) rest
  termination_by _ cs => cs.length

end Position

namespace Cursor

def ofText (text : List Char) : Cursor := ⟨text, .start⟩

/-- Drop the first character. -/
def next (s : Cursor) : Cursor :=
  match s.rest with
  | [] => s
  | c :: rest => ⟨rest, s.position.past c c.utf8Size⟩

/-- The position after one byte of the next character. -/
def peekPosition (s : Cursor) : Position :=
  match s.rest with
  | [] => s.position
  | c :: _ => s.position.past c 1

/-- Fail at the character that was only looked at. -/
def failPeek {α : Type} (s : Cursor) (problem : Problem) : Except Error α :=
  .error ⟨problem, s.peekPosition⟩

/-- Fail where the reader stands. -/
def failHere {α : Type} (s : Cursor) (problem : Problem) : Except Error α :=
  .error ⟨problem, s.position⟩

end Cursor

def isBlank (c : Char) : Bool := c = ' ' || c = '\n' || c = '\t' || c = '\r'

/-- Drop characters while they satisfy a test. -/
def skipWhile (test : Char → Bool) : List Char → Position → Cursor
  | [], p => ⟨[], p⟩
  | c :: rest, p => if test c then skipWhile test rest (p.past c c.utf8Size) else ⟨c :: rest, p⟩

def skipBlanks (s : Cursor) : Cursor := skipWhile isBlank s.rest s.position

/-- The letters that must follow the first letter of a word. -/
def ident (letters : List Char) (s : Cursor) : Except Error (Unit × Cursor) :=
  match letters with
  | [] => .ok ((), s)
  | letter :: letters =>
    match s.rest with
    | [] => s.failHere .endInValue
    | c :: _ => if c = letter then ident letters s.next else s.failPeek .expectedIdent

/-! ## Strings -/

def utf8Length (text : List Char) : Nat := text.foldl (fun n c => n + c.utf8Size) 0

/-- Four hexadecimal digits. Anything else stops the reader four bytes on. -/
def hexEscape (s : Cursor) : Except Error (Nat × Cursor) :=
  let fail : Except Error (Nat × Cursor) :=
    if utf8Length s.rest < 4 then .error ⟨.endInString, s.position.pastAll s.rest⟩
    else .error ⟨.invalidEscape, s.position.pastBytes 4 s.rest⟩
  match s.rest with
  | a :: b :: c :: d :: _ =>
    match Hex.value? a, Hex.value? b, Hex.value? c, Hex.value? d with
    | some a, some b, some c, some d =>
      .ok (((a * 16 + b) * 16 + c) * 16 + d, s.next.next.next.next)
    | _, _, _, _ => fail
  | _ => fail

/-- Expect a character inside an escape; another one is read before the reader stops. -/
def expectInEscape (expected : Char) (s : Cursor) : Except Error (Unit × Cursor) :=
  match s.rest with
  | [] => s.failHere .endInString
  | c :: _ => if c = expected then .ok ((), s.next) else s.failPeek .unexpectedEndOfHexEscape

/-- The character of a `\u` escape; a leading surrogate needs its trailing one. -/
def unicodeEscape (s : Cursor) : Except Error (Char × Cursor) := do
  let (high, s) ← hexEscape s
  if 0xDC00 ≤ high ∧ high ≤ 0xDFFF then s.failHere .loneSurrogate
  else if high < 0xD800 ∨ 0xDBFF < high then return (Char.ofNat high, s)
  else
    let ((), s) ← expectInEscape '\\' s
    let ((), s) ← expectInEscape 'u' s
    let (low, s) ← hexEscape s
    if low < 0xDC00 ∨ 0xDFFF < low then s.failHere .loneSurrogate
    else return (Char.ofNat ((high - 0xD800) * 1024 + (low - 0xDC00) + 0x10000), s)

/-- The character of an escape, after its backslash. -/
def escape (s : Cursor) : Except Error (Char × Cursor) :=
  match s.rest with
  | [] => s.failHere .endInString
  | c :: _ =>
    match c with
    | '"' => .ok ('"', s.next)
    | '\\' => .ok ('\\', s.next)
    | '/' => .ok ('/', s.next)
    | 'b' => .ok ('\x08', s.next)
    | 'f' => .ok ('\x0c', s.next)
    | 'n' => .ok ('\n', s.next)
    | 'r' => .ok ('\r', s.next)
    | 't' => .ok ('\t', s.next)
    | 'u' => unicodeEscape s.next
    | _ => s.failPeek .invalidEscape

/-- The characters of a string, after its opening quote. -/
def stringBody : Nat → Cursor → Except Error ((List Char) × Cursor)
  | 0, s => s.failHere .endInString
  | fuel + 1, s =>
    match s.rest with
    | [] => s.failHere .endInString
    | c :: _ =>
      if c = '"' then .ok ([], s.next)
      else if c = '\\' then do
        let (c, s) ← escape s.next
        let (cs, s) ← stringBody fuel s
        return (c :: cs, s)
      else if c.toNat < 32 then s.failPeek .controlCharacter
      else do
        let (cs, s) ← stringBody fuel s.next
        return (c :: cs, s)

def string (s : Cursor) : Except Error (String × Cursor) := do
  let (cs, s) ← stringBody (s.rest.length + 1) s
  return (String.ofList cs, s)

/-! ## Numbers -/

/-- The digits of a number read so far: a significand below `2 ^ 64` and the power of ten that it
is scaled by. Digits that no longer fit are dropped. -/
structure Scaled where
  significand : Nat
  exponent : Int

def digitValue (c : Char) : Nat := c.toNat - '0'.toNat

def peekIs (test : Char → Bool) (s : Cursor) : Bool :=
  match s.rest with
  | [] => false
  | c :: _ => test c

/-- Significands are below two to the power 64. -/
def significandLimit : Nat := 18446744073709551616

def fits (significand digit : Nat) : Bool := significand * 10 + digit < significandLimit

def leadingDigits (text : List Char) : List Char := text.takeWhile Char.isDigit

def skipDigits (s : Cursor) : Cursor := skipWhile Char.isDigit s.rest s.position

/-- Digits that are kept while the significand fits, with how many were kept. -/
def keptDigits (significand : Nat) : List Char → Nat × Nat
  | [] => (significand, 0)
  | c :: rest =>
    if fits significand (digitValue c) then
      let (total, count) := keptDigits (significand * 10 + digitValue c) rest
      (total, count + 1)
    else (significand, 0)

/-- The largest power of ten that is a double. -/
def maxPower : Nat := 308

def powerOfTen (n : Nat) : Binary64 := (Binary64.ofRatio? false (Nat.pow 10 n) 1).getD (.zero false)

/-- Divide by `10 ^ 308` until the remaining negative power is in range or nothing is left. -/
def scaleDown (x : Binary64) (power : Nat) : Binary64 :=
  if maxPower < power then
    if x.mantissa = 0 then x
    else scaleDown ((x.div? (powerOfTen maxPower)).getD x) (power - maxPower)
  else (x.div? (powerOfTen power)).getD x
termination_by power
decreasing_by simp_all [maxPower]; omega

/-- The double of a scaled significand: the significand is rounded, then scaled by a rounded power
of ten and rounded again. `none` stands for a number that is too large. -/
def Scaled.toBinary64? (n : Scaled) : Option Binary64 :=
  let x := Binary64.ofInt n.significand
  if 0 ≤ n.exponent then
    if n.exponent ≤ maxPower then x.mul? (powerOfTen n.exponent.toNat)
    else if x.mantissa = 0 then some x else none
  else some (scaleDown x (-n.exponent).toNat)

def withSign (negative : Bool) (x : Binary64) : Binary64 := { x with negative := negative }

def float (negative : Bool) (n : Scaled) (s : Cursor) : Except Error (Number × Cursor) :=
  match n.toBinary64? with
  | none => s.failHere .numberOutOfRange
  | some x => .ok (.float (withSign negative x), s)

/-- The largest exponent that is read in full. -/
def maxExponent : Nat := 2147483647

/-- Digits of an exponent that are read before it becomes too large, if it does. -/
def exponentOverflow (value : Nat) : List Char → Option Nat
  | [] => none
  | c :: rest =>
    if maxExponent < value * 10 + digitValue c then some 1
    else (exponentOverflow (value * 10 + digitValue c) rest).map (· + 1)

def dropDigits (n : Nat) (s : Cursor) : Cursor :=
  ⟨s.rest.drop n, s.position.pastAll (s.rest.take n)⟩

/-- The part of a number after `e` or `E`. -/
def exponentPart (negative : Bool) (n : Scaled) (s : Cursor) : Except Error (Number × Cursor) :=
  let down := peekIs (· = '-') s
  let s := if down || peekIs (· = '+') s then s.next else s
  match s.rest with
  | [] => s.failHere .endInValue
  | c :: _ =>
    if c.isDigit then
      let digits := leadingDigits s.rest
      match exponentOverflow 0 digits with
      | some read =>
        if n.significand ≠ 0 ∧ !down then (dropDigits read s).failHere .numberOutOfRange
        else .ok (.float (.zero negative), skipDigits s)
      | none =>
        let power : Int := Nat.ofDigitChars 10 digits 0
        let exponent := if down then n.exponent - power else n.exponent + power
        float negative ⟨n.significand, exponent⟩ (skipDigits s)
    else s.failPeek .invalidNumber

/-- An exponent if there is one. -/
def afterDigits (negative : Bool) (n : Scaled) (s : Cursor) : Except Error (Number × Cursor) :=
  if peekIs (fun c => c = 'e' || c = 'E') s then exponentPart negative n s.next
  else float negative n s

/-- The part of a number after its point. -/
def fractionPart (negative : Bool) (n : Scaled) (s : Cursor) : Except Error (Number × Cursor) :=
  let digits := leadingDigits s.rest
  if digits.isEmpty then
    if s.rest.isEmpty then s.failPeek .endInValue else s.failPeek .invalidNumber
  else
    let (significand, kept) := keptDigits n.significand digits
    afterDigits negative ⟨significand, n.exponent - kept⟩ (skipDigits s)

/-- A number after its sign. -/
def unsigned (negative : Bool) (s : Cursor) : Except Error (Number × Cursor) :=
  match s.rest with
  | [] => s.failHere .endInValue
  | c :: more =>
    if !c.isDigit then s.failPeek .invalidNumber
    else if c = '0' ∧ peekIs Char.isDigit s.next then s.next.failPeek .invalidNumber
    else
      let digits := leadingDigits (c :: more)
      let (significand, kept) := keptDigits 0 digits
      let n : Scaled := ⟨significand, (digits.length - kept : Nat)⟩
      let s := skipDigits s
      if peekIs (· = '.') s then fractionPart negative n s.next
      else if peekIs (fun c => c = 'e' || c = 'E') s then exponentPart negative n s.next
      else if kept < digits.length then float negative n s
      else if !negative then .ok (.int significand, s)
      else if significand = 0 ∨ significandLimit / 2 < significand then
        .ok (.float (withSign true (Binary64.ofInt significand)), s)
      else .ok (.int (-significand), s)

/-! ## Values -/

/-- The elements of a list after the first, each after a comma, up to the closing bracket. -/
def moreItems (item : Cursor → Except Error (Json × Cursor)) :
    Nat → Cursor → Except Error (List Json × Cursor)
  | 0, s => s.failPeek .endInList
  | fuel + 1, s =>
    let s := skipBlanks s
    match s.rest with
    | [] => s.failPeek .endInList
    | c :: _ =>
      if c = ']' then .ok ([], s.next)
      else if c = ',' then
        let s := skipBlanks s.next
        match s.rest with
        | [] => s.failPeek .endInValue
        | c :: _ =>
          if c = ']' then s.failPeek .trailingComma
          else do
            let (x, s) ← item s
            let (xs, s) ← moreItems item fuel s
            return (x :: xs, s)
      else s.failPeek .expectedListCommaOrEnd

/-- A list after its opening bracket. -/
def items (item : Cursor → Except Error (Json × Cursor)) (s : Cursor) :
    Except Error (List Json × Cursor) :=
  let s := skipBlanks s
  match s.rest with
  | [] => s.failPeek .endInList
  | c :: _ =>
    if c = ']' then .ok ([], s.next)
    else do
      let (x, s) ← item s
      let (xs, s) ← moreItems item (s.rest.length + 1) s
      return (x :: xs, s)

/-- A key in quotes, a colon and a value; the reader stands on the opening quote. -/
def member (item : Cursor → Except Error (Json × Cursor)) (s : Cursor) :
    Except Error ((String × Json) × Cursor) := do
  let (key, s) ← string s.next
  let s := skipBlanks s
  match s.rest with
  | [] => s.failPeek .endInObject
  | c :: _ =>
    if c = ':' then do
      let (value, s) ← item s.next
      return ((key, value), s)
    else s.failPeek .expectedColon

/-- The members of an object after the first, each after a comma, up to the closing brace. -/
def moreMembers (item : Cursor → Except Error (Json × Cursor)) :
    Nat → Cursor → Except Error (List (String × Json) × Cursor)
  | 0, s => s.failPeek .endInObject
  | fuel + 1, s =>
    let s := skipBlanks s
    match s.rest with
    | [] => s.failPeek .endInObject
    | c :: _ =>
      if c = '\x7d' then .ok ([], s.next)
      else if c = ',' then
        let s := skipBlanks s.next
        match s.rest with
        | [] => s.failPeek .endInValue
        | c :: _ =>
          if c = '"' then do
            let (m, s) ← member item s
            let (ms, s) ← moreMembers item fuel s
            return (m :: ms, s)
          else if c = '\x7d' then s.failPeek .trailingComma
          else s.failPeek .keyMustBeString
      else s.failPeek .expectedObjectCommaOrEnd

/-- An object after its opening brace. -/
def objectMembers (item : Cursor → Except Error (Json × Cursor)) (s : Cursor) :
    Except Error (List (String × Json) × Cursor) :=
  let s := skipBlanks s
  match s.rest with
  | [] => s.failPeek .endInObject
  | c :: _ =>
    if c = '\x7d' then .ok ([], s.next)
    else if c = '"' then do
      let (m, s) ← member item s
      let (ms, s) ← moreMembers item (s.rest.length + 1) s
      return (m :: ms, s)
    else s.failPeek .keyMustBeString

/-- A value with blanks before it, in which at most `levels` arrays and objects may be open at
once. A repeated key keeps its last value. -/
def value (levels : Nat) (s : Cursor) : Except Error (Json × Cursor) :=
  let s := skipBlanks s
  match s.rest with
  | [] => s.failPeek .endInValue
  | c :: _ =>
    if c = 'n' then do
      let ((), s) ← ident ['u', 'l', 'l'] s.next
      return (.null, s)
    else if c = 't' then do
      let ((), s) ← ident ['r', 'u', 'e'] s.next
      return (.bool true, s)
    else if c = 'f' then do
      let ((), s) ← ident ['a', 'l', 's', 'e'] s.next
      return (.bool false, s)
    else if c = '-' then do
      let (n, s) ← unsigned true s.next
      return (.number n, s)
    else if c.isDigit then do
      let (n, s) ← unsigned false s
      return (.number n, s)
    else if c = '"' then do
      let (text, s) ← string s.next
      return (.string text, s)
    else if c = '[' then
      match levels with
      | 0 => s.failPeek .recursionLimit
      | levels + 1 => do
        let (xs, s) ← items (value levels) s.next
        return (.array xs, s)
    else if c = '\x7b' then
      match levels with
      | 0 => s.failPeek .recursionLimit
      | levels + 1 => do
        let (ms, s) ← objectMembers (value levels) s.next
        return (.object (Entries.ofList ms), s)
    else s.failPeek .expectedValue

/-- Read a whole text as one value with at most `levels` levels of nesting. -/
def read (levels : Nat) (text : List Char) : Except Error Json := do
  let (v, s) ← value levels (.ofText text)
  let s := skipBlanks s
  if s.rest.isEmpty then return v else s.failPeek .trailingCharacters

end Reader

/-- Levels of nesting that a document may have. -/
def levelLimit : Nat := 127

/-- Read a text as a JSON document. -/
def parse (text : String) : Except Reader.Error Json := Reader.read levelLimit text.toList

end Json

end SliceContract
