import SliceContract.Text.Hex

/-!
# Addresses and references

Internet addresses, resource references and their templates.
-/

namespace SliceContract

namespace Network

/-- A number from 0 to 255 without leading zeros. -/
def isOctet (text : List Char) : Bool :=
  text.all Char.isDigit && 1 ≤ text.length && text.length ≤ 3 &&
    (text.length = 1 || text.head? ≠ some '0') && Nat.ofDigitChars 10 text 0 ≤ 255

def isIpv4 (text : List Char) : Bool :=
  let parts := text.splitOn '.'
  parts.length = 4 && parts.all isOctet

def isGroup (text : List Char) : Bool :=
  1 ≤ text.length && text.length ≤ 4 && text.all Hex.isDigit

/-- How many 16-bit groups a run of groups between colons has, if it is one. The last part may be
an address of four octets where `mayEnd` allows it. -/
def groups? (mayEnd : Bool) (text : List Char) : Option Nat :=
  if text.isEmpty then some 0
  else
    let parts := text.splitOn ':'
    let last := parts.getLast?.getD []
    if mayEnd && isIpv4 last then
      if parts.dropLast.all isGroup then some (parts.length + 1) else none
    else if parts.all isGroup then some parts.length else none

/-- The texts before and after the first double colon. -/
def splitAtGap : List Char → Option (List Char × List Char)
  | ':' :: ':' :: rest => some ([], rest)
  | c :: rest => (splitAtGap rest).map fun (before, after) => (c :: before, after)
  | [] => none

def isIpv6 (text : List Char) : Bool :=
  match splitAtGap text with
  | none => groups? true text == some 8
  | some (before, after) =>
    match groups? false before, groups? true after with
    | some m, some n => m + n ≤ 7
    | _, _ => false

/-- Characters beyond ASCII that international references may hold. -/
def isWide (c : Char) : Bool :=
  let code := c.toNat
  (0xA0 ≤ code && code ≤ 0xD7FF) || (0xF900 ≤ code && code ≤ 0xFDCF) ||
    (0xFDF0 ≤ code && code ≤ 0xFFEF) ||
    (0x10000 ≤ code && code < 0xE0000 && code % 0x10000 < 0xFFFE) ||
    (0xE1000 ≤ code && code ≤ 0xEFFFD)

/-- Characters for private use, which international references may hold in their queries. -/
def isPrivate (c : Char) : Bool :=
  let code := c.toNat
  (0xE000 ≤ code && code ≤ 0xF8FF) || (0xF0000 ≤ code && code % 0x10000 < 0xFFFE)

/-- Characters that references may hold as they are, besides percent escapes. -/
def isPlainChar (wide : Bool) (c : Char) : Bool :=
  c.isAlphanum || "-._~!$&'()*+,;=".toList.contains c || (wide && isWide c)

/-- Whether a text holds only allowed characters and percent escapes. -/
def areAllowed (test : Char → Bool) : List Char → Bool
  | [] => true
  | '%' :: a :: b :: rest =>
    if Hex.isDigit a && Hex.isDigit b then areAllowed test rest else false
  | c :: rest => test c && areAllowed test rest

def isPathChar (wide : Bool) (c : Char) : Bool :=
  isPlainChar wide c || c = ':' || c = '@' || c = '/'

def isPort (text : List Char) : Bool :=
  match text with
  | [] => true
  | ':' :: digits => digits.all Char.isDigit
  | _ => false

/-- An address of a version of the protocol yet to come. -/
def isFutureAddress (text : List Char) : Bool :=
  match text with
  | v :: rest =>
    let version := rest.takeWhile (· ≠ '.')
    let address := rest.drop (version.length + 1)
    (v = 'v' || v = 'V') && !version.isEmpty && version.all Hex.isDigit && !address.isEmpty &&
      address.all fun c => isPlainChar false c || c = ':'
  | [] => false

def isHostAndPort (wide : Bool) (text : List Char) : Bool :=
  match text with
  | '[' :: rest =>
    let address := rest.takeWhile (· ≠ ']')
    match rest.drop address.length with
    | ']' :: port => (isIpv6 address || isFutureAddress address) && isPort port
    | _ => false
  | _ =>
    let host := text.takeWhile (· ≠ ':')
    areAllowed (isPlainChar wide) host && isPort (text.drop host.length)

def isAuthority (wide : Bool) (text : List Char) : Bool :=
  let user := text.takeWhile (· ≠ '@')
  match text.drop user.length with
  | '@' :: rest =>
    areAllowed (fun c => isPlainChar wide c || c = ':') user && isHostAndPort wide rest
  | _ => isHostAndPort wide text

/-- An authority after two slashes, and a path. -/
def isHierarchy (wide : Bool) (text : List Char) : Bool :=
  match text with
  | '/' :: '/' :: rest =>
    let authority := rest.takeWhile (· ≠ '/')
    isAuthority wide authority && areAllowed (isPathChar wide) (rest.drop authority.length)
  | _ => areAllowed (isPathChar wide) text

def isFragmentChar (wide : Bool) (c : Char) : Bool := isPathChar wide c || c = '?'

def isFragment (wide : Bool) (text : List Char) : Bool := areAllowed (isFragmentChar wide) text

def isQuery (wide : Bool) (text : List Char) : Bool :=
  areAllowed (fun c => isFragmentChar wide c || (wide && isPrivate c)) text

def isScheme (text : List Char) : Bool :=
  match text with
  | c :: rest => c.isAlpha && rest.all fun c => c.isAlphanum || c = '+' || c = '-' || c = '.'
  | [] => false

/-- Split a reference into what precedes its query, and whether query and fragment are allowed. -/
def withoutSuffixes (wide : Bool) (text : List Char) : List Char × Bool :=
  let main := text.takeWhile (· ≠ '#')
  let fragment := text.drop (main.length + 1)
  let path := main.takeWhile (· ≠ '?')
  let query := main.drop (path.length + 1)
  (path, isQuery wide query && isFragment wide fragment)

/-- A reference with a scheme. -/
def isUri (wide : Bool) (text : List Char) : Bool :=
  let (main, suffixes) := withoutSuffixes wide text
  let scheme := main.takeWhile (· ≠ ':')
  match main.drop scheme.length with
  | ':' :: rest => suffixes && isScheme scheme && isHierarchy wide rest
  | _ => false

/-- A reference with a scheme, or one relative to another: then the first segment of its path has
no colon. -/
def isReference (wide : Bool) (text : List Char) : Bool :=
  let (main, suffixes) := withoutSuffixes wide text
  isUri wide text ||
    (suffixes && !(main.takeWhile (· ≠ '/')).contains ':' && isHierarchy wide main)

/-- Characters that a template holds outside its expressions, besides percent escapes. -/
def isTemplateChar (c : Char) : Bool :=
  ' ' < c && !"\"'<>%\\^`\x7b|\x7d".toList.contains c

/-- Whether a text holds only allowed characters and percent escapes, which have small letters. -/
def areAllowedInTemplate (test : Char → Bool) : List Char → Bool
  | [] => true
  | '%' :: a :: b :: rest =>
    Hex.isDigit a && !a.isUpper && Hex.isDigit b && !b.isUpper && areAllowedInTemplate test rest
  | c :: rest => test c && areAllowedInTemplate test rest

/-- A variable of a template, with an optional longest length or a star. -/
def isVariable (text : List Char) : Bool :=
  let variableName := text.takeWhile fun c => c ≠ ':' && c ≠ '*'
  !variableName.isEmpty &&
    areAllowedInTemplate (fun c => c.isLower || c.isDigit || c = '_') variableName &&
    match text.drop variableName.length with
    | [] | ['*'] => true
    | ':' :: digits =>
      1 ≤ digits.length && digits.length ≤ 4 && digits.all Char.isDigit && digits.head? ≠ some '0'
    | _ => false

/-- The inside of an expression: an optional operator and variables between commas. -/
def isExpression (text : List Char) : Bool :=
  let body := match text with
    | c :: rest => if "+#./;?&=,!@|".toList.contains c then rest else text
    | [] => []
  (body.splitOn ',').all isVariable

/-- Literal text around expressions in braces. -/
def isTemplate (text : List Char) : Bool :=
  match text.splitOn '\x7b' with
  | [] => true
  | literal :: expressions =>
    areAllowedInTemplate isTemplateChar literal && expressions.all fun part =>
      let inside := part.takeWhile (· ≠ '\x7d')
      match part.drop inside.length with
      | _ :: literal => isExpression inside && areAllowedInTemplate isTemplateChar literal
      | [] => false

end Network

end SliceContract
