import SliceContract.Yaml.Token.Basic
import SliceContract.Yaml.Value

/-!
# What scalars stand for

A plain scalar is null, a truth value, a whole number, a double or else text; a quoted or a block
scalar is text. Four tags of the common schema force a kind.
-/

namespace SliceContract

namespace Yaml

/-- Why a scalar has no value. -/
inductive ScalarProblem where
  /-- A whole number that needs more than 64 but not more than 128 bits. -/
  | wideInteger (value : Int)
  | unfit (text : String) (expected : String)
  deriving DecidableEq, Repr

def ScalarProblem.message : ScalarProblem → String
  | wideInteger value =>
    "invalid type: integer `" ++ toString value ++ "` as " ++
      (if value < 0 then "i128" else "u128") ++ ", expected any YAML value"
  | unfit text expected =>
    "invalid value: string " ++ Debug.quoted text ++ ", expected " ++ expected

namespace Resolution

/-! ## Whole numbers -/

def digitValue? (radix : Nat) (c : Char) : Option Nat :=
  let value? :=
    if c.isDigit then some (c.toNat - '0'.toNat)
    else if 'a' ≤ c ∧ c ≤ 'f' then some (c.toNat - 'a'.toNat + 10)
    else if 'A' ≤ c ∧ c ≤ 'F' then some (c.toNat - 'A'.toNat + 10)
    else none
  value?.filter (· < radix)

/-- The number that one or more digits spell. -/
def natural? (radix : Nat) (digits : List Char) : Option Nat :=
  if digits.isEmpty then none
  else digits.foldlM (fun n c => (digitValue? radix c).map (n * radix + ·)) 0

def dropPlus (text : List Char) : List Char :=
  match text with
  | '+' :: rest => rest
  | _ => text

def dropSign (text : List Char) : List Char :=
  match text with
  | '+' :: rest | '-' :: rest => rest
  | _ => text

/-- Digits with a leading zero that counts for nothing are text. -/
def isPadded (text : List Char) : Bool :=
  match dropSign text with
  | '0' :: c :: rest => (c :: rest).all Char.isDigit
  | _ => false

/-- A number without its sign: digits of the radix that its beginning names. -/
def magnitude? (unsigned : List Char) : Option Nat :=
  match unsigned with
  | '0' :: 'x' :: digits => natural? 16 digits
  | '0' :: 'o' :: digits => natural? 8 digits
  | '0' :: 'b' :: digits => natural? 2 digits
  | digits => if isPadded digits then none else natural? 10 digits

def integer? (text : List Char) : Option Int :=
  match text with
  | '-' :: rest => (magnitude? rest).map fun n => -(n : Int)
  | _ => (magnitude? (dropPlus text)).map Int.ofNat

/-- Whether a number of some bits, with or without a sign, can hold a number. -/
def fitsBits (bits : Nat) (n : Int) : Bool :=
  -(Nat.pow 2 (bits - 1) : Int) ≤ n && n < (Nat.pow 2 bits : Int)

/-- Whole numbers of at most 64 bits have a value; more than 128 bits are no whole number. -/
def wholeNumber? (text : List Char) : Option (Except ScalarProblem Yaml) :=
  match integer? text with
  | none => none
  | some n =>
    if fitsBits 64 n then some (.ok (.number (.int n)))
    else if fitsBits 128 n then some (.error (.wideInteger n))
    else none

/-! ## Doubles -/

def isExponentMark (c : Char) : Bool := c = 'e' || c = 'E'

/-- An exponent with its mark, or nothing. -/
def exponent? (text : List Char) : Option Int :=
  match text with
  | [] => some 0
  | c :: '-' :: digits =>
    if isExponentMark c then (natural? 10 digits).map fun n => -(n : Int) else none
  | c :: rest => if isExponentMark c then (natural? 10 (dropPlus rest)).map Int.ofNat else none

/-- A decimal without a sign; digits may be missing on one side of the point. -/
def decimal? (text : List Char) : Option Decimal :=
  let whole := text.takeWhile Char.isDigit
  let rest := text.dropWhile Char.isDigit
  let (fraction, rest) := match rest with
    | '.' :: rest => (rest.takeWhile Char.isDigit, rest.dropWhile Char.isDigit)
    | _ => ([], rest)
  match natural? 10 (whole ++ fraction), exponent? rest with
  | some digits, some exponent => some ⟨digits, exponent - fraction.length⟩
  | _, _ => none

/-- The nearest double; a decimal that is too large for doubles has none. -/
def double? (text : List Char) : Option Binary64 :=
  match text with
  | '-' :: rest => (decimal? rest).bind fun d => Binary64.ofDecimal? true d.digits d.exponent
  | _ => (decimal? text).bind fun d => Binary64.ofDecimal? false d.digits d.exponent

def infinities : List String := [".inf", ".Inf", ".INF"]

def notNumbers : List String := [".nan", ".NaN", ".NAN"]

def float? (text : List Char) : Option Number :=
  let s := String.ofList text
  if String.ofList (dropPlus text) ∈ infinities then some (.infinite false)
  else if s ∈ infinities.map ("-" ++ ·) then some (.infinite true)
  else if s ∈ notNumbers then some .nan
  else match text with
    | '+' :: '-' :: _ => none
    | _ => (double? (dropPlus text)).map .float

/-! ## Plain scalars -/

def bool? (s : String) : Option Bool :=
  if s ∈ ["true", "True", "TRUE"] then some true
  else if s ∈ ["false", "False", "FALSE"] then some false
  else none

def isNull (s : String) : Bool := s ∈ ["~", "null", "Null", "NULL"]

def plain (s : String) : Except ScalarProblem Yaml :=
  if s = "" || isNull s then .ok .null
  else match bool? s, wholeNumber? s.toList with
    | some b, _ => .ok (.bool b)
    | none, some result => result
    | none, none =>
      if isPadded s.toList then .ok (.string s)
      else match float? s.toList with
        | some x => .ok (.number x)
        | none => .ok (.string s)

/-! ## Tagged scalars -/

/-- Read a text as the kind that a tag of the common schema names. -/
def core? (tag s : String) : Option (Except ScalarProblem Yaml) :=
  let expect (value : Option Yaml) (expected : String) : Except ScalarProblem Yaml :=
    match value with
    | some v => .ok v
    | none => .error (.unfit s expected)
  match tag with
  | "tag:yaml.org,2002:bool" => some (expect ((bool? s).map .bool) "a boolean")
  | "tag:yaml.org,2002:int" => some ((wholeNumber? s.toList).getD (expect none "an integer"))
  | "tag:yaml.org,2002:float" => some (expect ((float? s.toList).map .number) "a float")
  | "tag:yaml.org,2002:null" => some (expect (if isNull s then some .null else none) "null")
  | _ => none

/-- The value of a scalar. A local tag does not touch it; any other tag makes it text, except for
those of `core?`. -/
def scalar (tag : Option String) (style : ScalarStyle) (s : String) : Except ScalarProblem Yaml :=
  let untagged : Except ScalarProblem Yaml :=
    match style with
    | .plain => plain s
    | _ => .ok (.string s)
  match tag with
  | none => untagged
  | some tag =>
    match core? tag s with
    | some result => result
    | none => if tag.startsWith "!" then untagged else .ok (.string s)

end Resolution

end Yaml

end SliceContract
