import SliceContract.Format.Network
import SliceContract.HostName.Basic
import SliceContract.Unicode.Query

/-!
# Mail addresses

A local part and a domain around an at sign, after an optional display text.
-/

namespace SliceContract

namespace Mail

/-- The longest local part, domain and label of a domain, in bytes. -/
def localLimit : Nat := 64
def domainLimit : Nat := 254
def labelLimit : Nat := 63

def size (text : List Char) : Nat := (String.ofList text).utf8ByteSize

/-- Characters whose code points, byte by byte, look like a character encoded in two bytes. -/
def looksEncoded (c : Char) : Bool :=
  let (high, low) := (c.toNat / 256, c.toNat % 256)
  0xC2 ≤ high && high ≤ 0xDF && 0x80 ≤ low && low ≤ 0xBF

/-- Characters that need no quotes. -/
def isAtomChar (c : Char) : Bool :=
  Unicode.alphanumerics.contains c || "!#$%&'*+-/=?^_`\x7b|\x7d~".toList.contains c ||
    looksEncoded c

def isAtom (text : List Char) : Bool := !text.isEmpty && text.all isAtomChar

def isVisible (c : Char) : Bool := '!' ≤ c && c ≤ '~'

/-- Text between quotes, in which a backslash precedes a visible character. -/
def isQuoted : List Char → Bool
  | [] => true
  | '\\' :: c :: rest => isVisible c && isQuoted rest
  | c :: rest =>
    (c = ' ' || c = '\t' || (isVisible c && c ≠ '"' && c ≠ '\\') || looksEncoded c) && isQuoted rest

def isLocalPart (text : List Char) : Bool :=
  size text ≤ localLimit &&
    match text, text.getLast? with
    | '"' :: rest, some '"' => 2 ≤ rest.length && isQuoted rest.dropLast
    | _, _ => (text.splitOn '.').all isAtom

/-- The text in brackets, if the text is in brackets. -/
def bracketed? (text : List Char) : Option (List Char) :=
  match text, text.getLast? with
  | '[' :: rest, some ']' => some rest.dropLast
  | _, _ => none

def isLabel (text : List Char) : Bool :=
  isAtom text && size text ≤ labelLimit && text.head?.any Unicode.alphanumerics.contains &&
    text.getLast?.any Unicode.alphanumerics.contains

/-- A domain: an address in brackets, or labels that together are a host name. -/
def isDomain (isHost : List Char → Bool) (text : List Char) : Bool :=
  match bracketed? text with
  | some ('I' :: 'P' :: 'v' :: '6' :: ':' :: address) => Network.isIpv6 address
  | some address => Network.isIpv4 address
  | none => size text ≤ domainLimit && (text.splitOn '.').all isLabel && isHost text

/-- The parts of a text before and after the last occurrence of a mark. -/
def splitLast? (mark : List Char) (text : List Char) : Option (List Char × List Char) :=
  match text with
  | [] => none
  | c :: rest =>
    match splitLast? mark rest with
    | some (before, after) => some (c :: before, after)
    | none =>
      if mark.isPrefixOf (c :: rest) then some ([], (c :: rest).drop mark.length) else none

def trimEnd (text : List Char) : List Char :=
  (text.reverse.dropWhile Unicode.blanks.contains).reverse

/-- The address without its display text: with one, it is in angle brackets. -/
def address? (text : List Char) : Option (List Char) :=
  match splitLast? [' ', '<'] text with
  | none => some text
  | some (_, after) =>
    let address := (trimEnd after).dropWhile Unicode.blanks.contains
    if address.getLast? = some '>' then some address.dropLast else none

/-- Whether a text is a mail address, given which texts are host names. -/
def isAddress (isHost : List Char → Bool) (text : List Char) : Bool :=
  match (address? text).bind (splitLast? ['@']) with
  | some (localPart, domain) =>
    !localPart.isEmpty && !domain.isEmpty && isLocalPart localPart && isDomain isHost domain
  | none => false

end Mail

end SliceContract
