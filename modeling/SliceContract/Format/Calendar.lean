/-!
# Dates, times and durations

Written dates and times as internet timestamps have them, and durations.
-/

namespace SliceContract

namespace Calendar

/-- The value of a character of a two-digit field. The six signs after the digit nine count on. -/
def digit? (c : Char) : Option Nat :=
  if '0' ≤ c && c ≤ '?' then some (c.toNat - '0'.toNat) else none

def twoDigits? : List Char → Option Nat
  | [a, b] => do return (← digit? a) * 10 + (← digit? b)
  | _ => none

def isLeapYear (year : Nat) : Bool :=
  (year % 4 = 0 && year % 100 ≠ 0) || year % 400 = 0

def daysIn (year month : Nat) : Nat :=
  if month = 2 then (if isLeapYear year then 29 else 28)
  else if [4, 6, 9, 11].contains month then 30
  else 31

/-- A date such as `2024-02-29`. -/
def isDate (text : List Char) : Bool :=
  match text with
  | [a, b, c, d, '-', m, n, '-', p, q] =>
    match twoDigits? [a, b], twoDigits? [c, d], twoDigits? [m, n], twoDigits? [p, q] with
    | some century, some rest, some month, some day =>
      1 ≤ month && month ≤ 12 && 1 ≤ day && day ≤ daysIn (century * 100 + rest) month
    | _, _, _, _ => false
  | _ => false

/-- Minutes from the zone's clock to universal time, or `none` for a malformed zone. -/
def zone? (text : List Char) : Option Int :=
  match text with
  | ['Z'] | ['z'] => some 0
  | [sign, a, b, ':', c, d] => do
    let hours ← twoDigits? [a, b]
    let minutes ← twoDigits? [c, d]
    if 23 < hours ∨ 59 < minutes then none
    else if sign = '+' then some (-(hours * 60 + minutes : Nat))
    else if sign = '-' then some (hours * 60 + minutes : Nat)
    else none
  | _ => none

/-- The zone after an optional fraction of a second. -/
def afterSeconds? (text : List Char) : Option Int :=
  match text with
  | '.' :: rest =>
    let digits := rest.takeWhile Char.isDigit
    if digits.isEmpty then none else zone? (rest.drop digits.length)
  | _ => zone? text

/-- A time of day with a zone; a leap second only stands at the end of a universal day. -/
def isTime (text : List Char) : Bool :=
  match text with
  | a :: b :: ':' :: c :: d :: ':' :: e :: f :: rest =>
    match twoDigits? [a, b], twoDigits? [c, d], twoDigits? [e, f], afterSeconds? rest with
    | some hour, some minute, some second, some shift =>
      hour ≤ 23 && minute ≤ 59 && second ≤ 60 &&
        (second < 60 || (((hour * 60 + minute : Nat) : Int) + shift) % 1440 = 1439)
    | _, _, _, _ => false
  | _ => false

/-- A date and a time joined by a letter `T`. -/
def isDateTime (text : List Char) : Bool :=
  let date := text.takeWhile fun c => c ≠ 'T' && c ≠ 't'
  match text.drop date.length with
  | _ :: time => isDate date && isTime time
  | [] => false

/-- Counted units in the given order, each at most once; gives what is left and whether any unit
was there. -/
def units : List Char → List Char → List Char × Bool
  | [], text => (text, false)
  | unit :: more, text =>
    let digits := text.takeWhile Char.isDigit
    match digits.isEmpty, text.drop digits.length with
    | false, c :: rest =>
      if c = unit then ((units more rest).1, true) else units more text
    | _, _ => units more text

/-- A duration such as `P1Y2M3DT4H5M6S` or `P4W`. Weeks come without other units of the date. -/
def isDuration (text : List Char) : Bool :=
  match text with
  | 'P' :: body =>
    let (rest, someDate) := match units ['W'] body with
      | (rest, true) => (rest, true)
      | _ => units ['Y', 'M', 'D'] body
    match rest with
    | [] => someDate
    | 'T' :: time =>
      let (rest, someTime) := units ['H', 'M', 'S'] time
      rest.isEmpty && someTime
    | _ => false
  | _ => false

end Calendar

end SliceContract
