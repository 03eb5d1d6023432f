import SliceContract.Pattern.CharClass

/-!
# Escapes in patterns

What a backslash and the text after it stand for. Where a pattern is written in the extended style,
blanks and comments may stand between the parts of an escape.
-/

namespace SliceContract

namespace Pattern

namespace Grammar

/-- Why reading a pattern stops before its end. -/
inductive Stop where
  | malformed
  /-- A look-around or a back-reference: the grammar has none, but the matcher may know it. -/
  | beyond
  /-- An escape without a meaning; with the length of the text from its backslash on. -/
  | unknownEscape (left : Nat)
  deriving DecidableEq, Repr

inductive Escape where
  | char (c : Char)
  /-- The character that sounds a bell. -/
  | bell
  | charClass (c : CharClass)
  | anchor
  deriving Repr

/-- Text without the blanks and comments at its beginning. A comment runs to the end of its line. -/
def skipBlanks : Bool → List Char → List Char
  | _, [] => []
  | true, c :: rest => skipBlanks (c != '\n') rest
  | false, c :: rest =>
    if Unicode.blanks.contains c then skipBlanks false rest
    else if c = '#' then skipBlanks true rest
    else c :: rest

/-- In the extended style, blanks and comments do not count. -/
def skip (extended : Bool) (text : List Char) : List Char :=
  if extended then skipBlanks false text else text

def charOf? (code : Nat) : Option Char :=
  if code.isValidChar then some (Char.ofNat code) else none

/-- ASCII characters may be escaped, letters, digits and angle brackets apart. -/
def isEscapable (c : Char) : Bool :=
  c.toNat < 128 && !c.isAlphanum && c != '<' && c != '>'

/-- The number that exactly `count` hexadecimal digits spell. -/
def hexDigits (extended : Bool) : Nat → Nat → List Char → Option (Nat × List Char)
  | 0, value, text => some (value, text)
  | count + 1, value, c :: rest =>
    (Hex.value? c).bind fun digit =>
      hexDigits extended count (value * 16 + digit) (skip extended rest)
  | _ + 1, _, [] => none

/-- The text before a closing brace, and what follows the brace. -/
def untilBrace (extended : Bool) : Nat → List Char → Option (List Char × List Char)
  | 0, _ => none
  | fuel + 1, text =>
    match skip extended text with
    | [] => none
    | '\x7d' :: rest => some ([], rest)
    | c :: rest => (untilBrace extended fuel rest).map fun (inside, rest) => (c :: inside, rest)

/-- A code point: `count` hexadecimal digits, or any number of them in braces. -/
def codePoint (extended : Bool) (count : Nat) (text : List Char) : Option (Char × List Char) :=
  match skip extended text with
  | '\x7b' :: rest =>
    match untilBrace extended (rest.length + 1) rest with
    | some (digits, rest) =>
      if digits.isEmpty || !digits.all Hex.isDigit then none
      else (charOf? (Hex.number digits)).map fun c => (c, rest)
    | none => none
  | text =>
    match hexDigits extended count 0 text with
    | some (code, rest) => (charOf? code).map fun c => (c, rest)
    | none => none

/-- The part of a text before the first occurrence of a mark, and the part after it. -/
def splitAt? (mark : List Char) : List Char → Option (List Char × List Char)
  | [] => none
  | c :: rest =>
    if mark.isPrefixOf (c :: rest) then some ([], (c :: rest).drop mark.length)
    else (splitAt? mark rest).map fun (before, after) => (c :: before, after)

/-- The class that the inside of the braces of a property escape names. -/
def propertyClass (negated : Bool) (inside : List Char) : CharClass :=
  match splitAt? ['!', '='] inside with
  | some (name, value) => .property (String.ofList name) (some (String.ofList value)) (!negated)
  | none =>
    match (splitAt? [':'] inside).or (splitAt? ['='] inside) with
    | some (name, value) => .property (String.ofList name) (some (String.ofList value)) negated
    | none => .property (String.ofList inside) none negated

/-- A property: one letter, or a name in braces. -/
def propertyEscape (extended negated : Bool) (text : List Char) :
    Option (CharClass × List Char) :=
  match skip extended text with
  | '\x7b' :: rest =>
    (untilBrace extended (rest.length + 1) rest).map fun (inside, rest) =>
      (propertyClass negated inside, rest)
  | '\\' :: _ => none
  | c :: rest => some (.property (String.singleton c) none negated, rest)
  | [] => none

def isBoundaryLetter (c : Char) : Bool := c.isAlpha || c = '-'

/-- The name in braces of a special word boundary, after its opening brace. -/
def boundaryName (extended : Bool) : Nat → List Char → List Char × List Char
  | 0, text => ([], text)
  | fuel + 1, text =>
    match skip extended text with
    | c :: rest =>
      if isBoundaryLetter c then
        let (name, rest) := boundaryName extended fuel rest
        (c :: name, rest)
      else ([], c :: rest)
    | [] => ([], [])

/-- What follows a word boundary: the name of a special one in braces, if the braces do not hold a
count. -/
def wordBoundary (extended : Bool) (text : List Char) : Option (List Char) :=
  match text with
  | '\x7b' :: inner =>
    match skip extended inner with
    | [] => none
    | c :: rest =>
      if !isBoundaryLetter c then some text
      else
        match boundaryName extended (rest.length + 2) (c :: rest) with
        | (name, '\x7d' :: rest) =>
          if ["start", "end", "start-half", "end-half"].contains (String.ofList name) then some rest
          else none
        | _ => none
  | _ => some text

/-- Characters that have an escape letter of their own. -/
def controlChar? : Char → Option Char
  | 'f' => some '\x0c'
  | 'n' => some '\n'
  | 'r' => some '\r'
  | 't' => some '\t'
  | 'v' => some '\x0b'
  | _ => none

/-- The digits that the escape letters of code points ask for. -/
def digitCount? : Char → Option Nat
  | 'x' => some 2
  | 'u' => some 4
  | 'U' => some 8
  | _ => none

def orMalformed {α : Type} : Option α → Except Stop α
  | some a => .ok a
  | none => .error .malformed

/-- An escape after its backslash. -/
def escape (extended : Bool) (text : List Char) : Except Stop (Escape × List Char) :=
  match text with
  | [] => .error .malformed
  | c :: rest =>
    if c.isDigit then .error .beyond
    else if isEscapable c then .ok (.char c, rest)
    else
      match digitCount? c, Shorthand.ofLetter? c, controlChar? c with
      | some count, _, _ =>
        orMalformed ((codePoint extended count rest).map fun (c, rest) => (.char c, rest))
      | _, some (kind, negated), _ => .ok (.charClass (.shorthand kind negated), rest)
      | _, _, some c => .ok (.char c, rest)
      | _, _, _ =>
        if c = 'p' ∨ c = 'P' then
          orMalformed ((propertyEscape extended (c = 'P') rest).map fun (p, rest) =>
            (.charClass p, rest))
        else if c = 'a' then .ok (.bell, rest)
        else if c = 'b' then
          orMalformed ((wordBoundary extended rest).map fun rest => (.anchor, rest))
        else if "AzB<>".toList.contains c then .ok (.anchor, rest)
        else .error (.unknownEscape (text.length + 1))

end Grammar

end Pattern

end SliceContract
