import SliceContract.Text.Hex
import SliceContract.Yaml.Token.Basic
import SliceContract.Yaml.Token.Cursor

/-!
# Scanning directives and node properties

Anchors, aliases and tags before a node, and the directives before a document.
-/

namespace SliceContract

namespace Yaml

namespace Property

open Chars

/-! ## Anchors -/

/-- Characters that may follow an anchor directly. -/
def endsAnchor (c : Char) : Bool :=
  isBlankOrEnd c || c = '?' || c = ':' || c = ',' || c = ']' || c = '\x7d' || c = '%' || c = '@' ||
    c = '`'

/-- The name of an anchor or an alias, from its sign on. -/
def anchor (context : Context) (s : Cursor) : Except SyntaxError (String × Cursor) :=
  let (name, rest) := s.skip.takeWhile isWord
  if name.isEmpty || !endsAnchor rest.first then rest.fail context s.mark .name
  else .ok (String.ofList name, rest)

/-! ## Tags -/

/-- Where a tag is written; it decides which characters it may have and what an error says. -/
inductive TagPlace where
  | short
  | verbatim
  | directive
  deriving DecidableEq, Repr

def TagPlace.context : TagPlace → Context
  | directive => .handleDirectiveUri
  | _ => .tagUri

/-- Characters of a tag; flow punctuation only where nothing else could be meant. -/
def isUriChar (place : TagPlace) (c : Char) : Bool :=
  isWord c || c = ';' || c = '/' || c = '?' || c = ':' || c = '@' || c = '&' || c = '=' ||
    c = '+' || c = '$' || c = '.' || c = '%' || c = '!' || c = '~' || c = '*' || c = '\'' ||
    c = '(' || c = ')' || (place ≠ .short && (c = ',' || c = '[' || c = ']'))

/-- The number of octets that a leading octet announces, and its own part of the code point. -/
def leadingOctet? (octet : Nat) : Option (Nat × Nat) :=
  if octet < 0x80 then some (1, octet)
  else if octet < 0xC0 then none
  else if octet < 0xE0 then some (2, octet - 0xC0)
  else if octet < 0xF0 then some (3, octet - 0xE0)
  else if octet < 0xF8 then some (4, octet - 0xF0)
  else none

/-- A percent sign and two hexadecimal digits. -/
def octet (place : TagPlace) (since : Mark) (s : Cursor) : Except SyntaxError (Nat × Cursor) :=
  match s.rest with
  | '%' :: a :: b :: _ =>
    if Hex.isDigit a && Hex.isDigit b then .ok (Hex.number [a, b], s.skipN 3)
    else s.fail place.context since .uriEscape
  | _ => s.fail place.context since .uriEscape

/-- The octets of a code point after the first. -/
def trailingOctets (place : TagPlace) (since : Mark) :
    Nat → Nat → Cursor → Except SyntaxError (Nat × Cursor)
  | 0, code, s => .ok (code, s)
  | count + 1, code, s => do
    let (n, rest) ← octet place since s
    if 0x80 ≤ n ∧ n < 0xC0 then trailingOctets place since count (64 * code + (n - 0x80)) rest
    else s.fail place.context since .trailingOctet

/-- A character written as octets. -/
def escapedChar (place : TagPlace) (since : Mark) (s : Cursor) :
    Except SyntaxError (Char × Cursor) := do
  let (n, rest) ← octet place since s
  match leadingOctet? n with
  | none => s.fail place.context since .leadingOctet
  | some (count, code) =>
    let (code, rest) ← trailingOctets place since (count - 1) code rest
    return (Char.ofNat code, rest)

def uriFrom (place : TagPlace) (since : Mark) :
    Nat → List Char → Cursor → Except SyntaxError (List Char × Cursor)
  | 0, text, s => .ok (text, s)
  | fuel + 1, text, s =>
    if !isUriChar place s.first then .ok (text, s)
    else if s.first = '%' then do
      let (c, s) ← escapedChar place since s
      uriFrom place since fuel (text ++ [c]) s
    else uriFrom place since fuel (text ++ [s.first]) s.skip

/-- The text of a tag. What was read of it as a handle comes first, and makes up for it when
nothing follows. -/
def uri (place : TagPlace) (since : Mark) (handle : List Char) (s : Cursor) :
    Except SyntaxError (String × Cursor) := do
  let (text, rest) ← uriFrom place since (s.rest.length + 1) [] s
  if text.isEmpty && handle.isEmpty then rest.fail place.context since .tagUri
  else return (String.ofList ((handle.drop 1 ++ text).takeWhile (· ≠ '\x00')), rest)

/-- An exclamation mark with the word after it, and the mark that may close that. -/
def handle (place : TagPlace) (since : Mark) (s : Cursor) :
    Except SyntaxError (List Char × Cursor) :=
  let isDirective := place = .directive
  if s.first ≠ '!' then
    s.fail (if isDirective then .handleDirectiveBang else .tag) since .bang
  else
    let (word, s) := s.skip.takeWhile isWord
    if s.first = '!' then .ok ('!' :: word ++ ['!'], s.skip)
    else if isDirective ∧ !word.isEmpty then s.fail .handleDirectiveEnd since .bang
    else .ok ('!' :: word, s)

def isFullHandle (handle : List Char) : Bool :=
  match handle with
  | '!' :: word => word.getLast? = some '!'
  | _ => false

/-- A tag as a handle and a suffix. The tag `!` alone is a suffix without a handle, as is a verbatim
tag. -/
def tag (inFlow : Bool) (s : Cursor) : Except SyntaxError (String × String × Cursor) := do
  let since := s.mark
  let (handle, suffix, rest) ←
    if s.peek 1 = '<' then do
      let (suffix, rest) ← uri .verbatim since [] s.skip.skip
      if rest.first ≠ '>' then rest.fail .tag since .tagEnd
      else pure ("", suffix, rest.skip)
    else do
      let (handle, rest) ← handle .short since s
      if isFullHandle handle then do
        let (suffix, rest) ← uri .short since [] rest
        pure (String.ofList handle, suffix, rest)
      else do
        let (suffix, rest) ← uri .short since handle rest
        pure (if suffix = "" then ("", "!", rest) else ("!", suffix, rest))
  if isBlankOrEnd rest.first || (inFlow && rest.first = ',') then return (handle, suffix, rest)
  else rest.fail .tag since .blankOrBreak

/-! ## Directives -/

/-- A number of a version, of nine digits at most. -/
def versionNumber (since : Mark) (s : Cursor) : Except SyntaxError (Nat × Cursor) :=
  let (digits, rest) := s.takeWhile Char.isDigit
  if 9 < digits.length then (s.skipN 9).fail .versionDirective since .longVersion
  else if digits.isEmpty then rest.fail .versionDirective since .versionNumber
  else .ok (Nat.ofDigitChars 10 digits 0, rest)

def version (since : Mark) (s : Cursor) : Except SyntaxError (Token.Kind × Cursor) := do
  let (major, s) ← versionNumber since s.skipBlanks
  if s.first ≠ '.' then s.fail .versionDirective since .versionPoint
  else
    let (minor, s) ← versionNumber since s.skip
    return (.version major minor, s)

def handleDirective (since : Mark) (s : Cursor) : Except SyntaxError (Token.Kind × Cursor) := do
  let (handle, s) ← handle .directive since s.skipBlanks
  if !isBlank s.first then s.fail .handleDirective since .blank
  else
    let (uri, s) ← uri .directive since [] s.skipBlanks
    if !isBlankOrEnd s.first then s.fail .handleDirective since .blankOrBreak
    else return (.handle (String.ofList handle) uri, s)

/-- A directive with the rest of its line, from its percent sign on. -/
def directive (s : Cursor) : Except SyntaxError (Token × Cursor) := do
  let since := s.mark
  let (name, s) := s.skip.takeWhile isWord
  if name.isEmpty then s.fail .directive since .noDirectiveName
  else if !isBlankOrEnd s.first then s.fail .directive since .directiveNameEnd
  else
    let (kind, s) ← match String.ofList name with
      | "YAML" => version since s
      | "TAG" => handleDirective since s
      | _ => s.fail .directive since .unknownDirective
    let stop := s.mark
    let s := s.skipBlanks.skipComment
    if !isBreakOrEnd s.first then s.fail .directive since .commentOrBreak
    else return (⟨kind, since, stop⟩, s.skipLine)

end Property

end Yaml

end SliceContract
