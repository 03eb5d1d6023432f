/-!
# Places inside a value

A location is the list of steps from the root of a value to one of its parts. Its pointer is the
text in which every step is a slash and a token; a token escapes `~` as `~0` and `/` as `~1`.
-/

namespace SliceContract

inductive Step where
  | member (key : String)
  | element (index : Nat)
  deriving DecidableEq, Repr

abbrev Location := List Step

namespace Pointer

def escapeChar (c : Char) : List Char :=
  if c = '~' then ['~', '0'] else if c = '/' then ['~', '1'] else [c]

def escape (token : List Char) : List Char := token.flatMap escapeChar

/-- Read `~1` as a slash, left to right. -/
def unescapeSlash : List Char → List Char
  | '~' :: '1' :: rest => '/' :: unescapeSlash rest
  | c :: rest => c :: unescapeSlash rest
  | [] => []

/-- Read `~0` as a tilde, left to right. -/
def unescapeTilde : List Char → List Char
  | '~' :: '0' :: rest => '~' :: unescapeTilde rest
  | c :: rest => c :: unescapeTilde rest
  | [] => []

/-- The order matters: `~01` stands for `~1`. -/
def unescape (token : List Char) : List Char := unescapeTilde (unescapeSlash token)

/-- The token of a step before escaping. -/
def token : Step → List Char
  | .member key => key.toList
  | .element index => Nat.toDigits 10 index

def text (location : Location) : List Char :=
  location.flatMap fun step => '/' :: escape (token step)

def render (location : Location) : String := String.ofList (text location)

/-- The pieces of a text between its slashes, at least one. -/
def segments (text : List Char) : List (List Char) := text.splitOn '/'

/-- The number that a segment reads as: digits after at most one plus sign, below `2 ^ 64`. -/
def indexValue? (segment : List Char) : Option Nat :=
  let digits := match segment with
    | '+' :: rest => rest
    | other => other
  if !digits.isEmpty && digits.all Char.isDigit && Nat.ofDigitChars 10 digits 0 < UInt64.size then
    some (Nat.ofDigitChars 10 digits 0)
  else none

def isIndex (segment : List Char) : Bool := (indexValue? segment).isSome

/-- The key that a pointer's last part names: from the right, up to the first empty segment, the
first segment that is not an index. -/
def innermostKey (text : List Char) : Option String :=
  let candidates := (segments text).reverse.takeWhile fun segment => !segment.isEmpty
  (candidates.find? fun segment => !isIndex segment).map fun segment =>
    String.ofList (unescape segment)

end Pointer

end SliceContract
