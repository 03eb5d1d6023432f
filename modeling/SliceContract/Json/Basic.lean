import SliceContract.Binary64.Layout
import SliceContract.Entries

/-!
# JSON values

Whole numbers and doubles are different values even when they are numerically equal; the two
comparisons that look through this are `Json.sameValue` (doubles by value) and `Json.equivalent`
(all numbers by value). Objects are kept in key order.
-/

namespace SliceContract

namespace Json

inductive Number where
  | int (value : Int)
  | float (value : Binary64)
  deriving DecidableEq, Repr, Inhabited

end Json

inductive Json where
  | null
  | bool (value : Bool)
  | number (value : Json.Number)
  | string (value : String)
  | array (items : List Json)
  | object (members : List (String × Json))
  deriving Repr, Inhabited

namespace Json

namespace Number

/-- The exact numerical value. -/
def toRat : Number → Rat
  | int value => value
  | float value => value.toRat

/-- The nearest double. -/
def toBinary64 : Number → Binary64
  | int value => Binary64.ofInt value
  | float value => value

def isWhole : Number → Bool
  | int _ => true
  | float value => value.isWhole

/-- Same kind and same value. -/
def sameValue : Number → Number → Bool
  | int a, int b => a == b
  | float a, float b => a.sameValue b
  | _, _ => false

/-- Same exact numerical value. -/
def equivalent : Number → Number → Bool
  | int a, int b => a == b
  | a, b => a.toRat == b.toRat

end Number

def int (value : Int) : Json := number (.int value)

def emptyObject : Json := object []

/-- Equality of values up to a relation on their numbers. -/
def eqBy (numbers : Number → Number → Bool) : Json → Json → Bool
  | null, null => true
  | bool a, bool b => a == b
  | number a, number b => numbers a b
  | string a, string b => a == b
  | array xs, array ys => items xs ys
  | object ms, object ns => members ms ns
  | _, _ => false
where
  items : List Json → List Json → Bool
    | [], [] => true
    | x :: xs, y :: ys => eqBy numbers x y && items xs ys
    | _, _ => false
  members : List (String × Json) → List (String × Json) → Bool
    | [], [] => true
    | (k, x) :: ms, (l, y) :: ns => k == l && eqBy numbers x y && members ms ns
    | _, _ => false

/-- Equality in which the two zeros are the same but `1` and `1.0` are not. -/
def sameValue : Json → Json → Bool := eqBy Number.sameValue

/-- Equality by numerical value. -/
def equivalent : Json → Json → Bool := eqBy Number.equivalent

/-- Levels of nesting of arrays and objects. -/
def depth : Json → Nat
  | array xs => 1 + items xs
  | object ms => 1 + members ms
  | _ => 0
where
  items : List Json → Nat
    | [] => 0
    | x :: xs => max (depth x) (items xs)
  members : List (String × Json) → Nat
    | [] => 0
    | (_, x) :: ms => max (depth x) (members ms)

/-- The members of an object; any other value has none. -/
def members : Json → Entries Json
  | object ms => ms
  | _ => []

/-- The elements of an array; any other value has none. -/
def elements : Json → List Json
  | array xs => xs
  | _ => []

/-- The member of an object at a key. -/
def get? (v : Json) (key : String) : Option Json := v.members.lookup key

@[simp] theorem get?_object (ms : Entries Json) (key : String) :
    (object ms).get? key = ms.lookup key := rfl

def stringValue? : Json → Option String
  | string s => some s
  | _ => none

def isObject : Json → Bool
  | object _ => true
  | _ => false

mutual

protected def decEq : (a b : Json) → Decidable (a = b)
  | null, null => isTrue rfl
  | bool a, bool b => if h : a = b then isTrue (h ▸ rfl) else isFalse fun e => h (bool.inj e)
  | number a, number b => if h : a = b then isTrue (h ▸ rfl) else isFalse fun e => h (number.inj e)
  | string a, string b => if h : a = b then isTrue (h ▸ rfl) else isFalse fun e => h (string.inj e)
  | array xs, array ys =>
    match Json.decEqItems xs ys with
    | isTrue h => isTrue (h ▸ rfl)
    | isFalse h => isFalse fun e => h (array.inj e)
  | object ms, object ns =>
    match Json.decEqMembers ms ns with
    | isTrue h => isTrue (h ▸ rfl)
    | isFalse h => isFalse fun e => h (object.inj e)
  | null, bool _ | null, number _ | null, string _ | null, array _ | null, object _
  | bool _, null | bool _, number _ | bool _, string _ | bool _, array _ | bool _, object _
  | number _, null | number _, bool _ | number _, string _ | number _, array _ | number _, object _
  | string _, null | string _, bool _ | string _, number _ | string _, array _ | string _, object _
  | array _, null | array _, bool _ | array _, number _ | array _, string _ | array _, object _
  | object _, null | object _, bool _ | object _, number _ | object _, string _
  | object _, array _ =>
    isFalse (by intro h; cases h)

protected def decEqItems : (xs ys : List Json) → Decidable (xs = ys)
  | [], [] => isTrue rfl
  | [], _ :: _ | _ :: _, [] => isFalse (by intro h; cases h)
  | x :: xs, y :: ys =>
    match Json.decEq x y, Json.decEqItems xs ys with
    | isTrue h, isTrue h' => isTrue (h ▸ h' ▸ rfl)
    | isFalse h, _ => isFalse fun e => h (List.cons.inj e).1
    | _, isFalse h => isFalse fun e => h (List.cons.inj e).2

protected def decEqMembers : (ms ns : List (String × Json)) → Decidable (ms = ns)
  | [], [] => isTrue rfl
  | [], _ :: _ | _ :: _, [] => isFalse (by intro h; cases h)
  | (k, x) :: ms, (l, y) :: ns =>
    match (inferInstance : Decidable (k = l)), Json.decEq x y, Json.decEqMembers ms ns with
    | isTrue hk, isTrue h, isTrue h' => isTrue (by subst hk h h'; rfl)
    | isFalse hk, _, _ => isFalse fun e => hk (Prod.mk.inj (List.cons.inj e).1).1
    | _, isFalse h, _ => isFalse fun e => h (Prod.mk.inj (List.cons.inj e).1).2
    | _, _, isFalse h => isFalse fun e => h (List.cons.inj e).2

end

instance : DecidableEq Json := Json.decEq

end Json

end SliceContract
