import SliceContract.Unicode.Folding
import SliceContract.Unicode.Query

/-!
# Classes of characters

A class names a set of characters: by ranges, by shorthands, by Unicode properties, and by combining
smaller classes. Letters that differ in case only can be taken together.
-/

namespace SliceContract

namespace Pattern

/-- Classes that a single letter stands for. -/
inductive Shorthand where
  | digit
  | blank
  | word
  deriving DecidableEq, Repr

def Shorthand.members : Shorthand → CharSet
  | digit => Unicode.digits
  | blank => Unicode.blanks
  | word => Unicode.wordChars

/-- The shorthand of an escape letter, and whether it stands for the complement. -/
def Shorthand.ofLetter? : Char → Option (Shorthand × Bool)
  | 'd' => some (digit, false)
  | 'D' => some (digit, true)
  | 's' => some (blank, false)
  | 'S' => some (blank, true)
  | 'w' => some (word, false)
  | 'W' => some (word, true)
  | _ => none

/-- How two classes are combined. -/
inductive ClassOperator where
  | intersection
  | difference
  | symmetricDifference
  deriving DecidableEq, Repr

def ClassOperator.combine : ClassOperator → CharSet → CharSet → CharSet
  | intersection => CharSet.inter
  | difference => CharSet.diff
  | symmetricDifference => CharSet.symmDiff

inductive CharClass where
  | range (low high : Char)
  /-- A class of ASCII characters that goes by a name. -/
  | ascii (set : CharSet) (negated : Bool)
  | shorthand (kind : Shorthand) (negated : Bool)
  /-- The characters of a property, or those for which it has a value. -/
  | property (name : String) (value : Option String) (negated : Bool)
  | bracket (negated : Bool) (inner : CharClass)
  | union (items : List CharClass)
  | combined (operator : ClassOperator) (left right : CharClass)
  deriving Repr, Inhabited

namespace CharClass

def single (c : Char) : CharClass := range c c

/-- Several items as one class; an item alone is the class itself. -/
def ofItems : List CharClass → CharClass
  | [item] => item
  | items => union items

/-- A set, with both cases of its letters if `fold`, and then its complement if `negated`. -/
def adjust (fold negated : Bool) (s : CharSet) : CharSet :=
  let folded := if fold then s.foldCase else s
  if negated then folded.complement else folded

/-- The characters of a class, if it names only properties that there are. -/
def members? (fold : Bool) : CharClass → Option CharSet
  | range low high => some (.range low high)
  | ascii set negated => some (adjust fold negated set)
  | shorthand kind negated => some (adjust false negated kind.members)
  | property name none negated => (Unicode.setOf? name).map (adjust fold negated)
  | property name (some value) negated => (Unicode.setOfValue? name value).map (adjust fold negated)
  | bracket negated inner => (members? fold inner).map (adjust fold negated)
  | union items => list fold items
  | combined operator left right =>
    match members? fold left, members? fold right with
    | some s, some t => some (operator.combine (adjust fold false s) (adjust fold false t))
    | _, _ => none
where
  list (fold : Bool) : List CharClass → Option CharSet
    | [] => some .empty
    | item :: rest =>
      match members? fold item, list fold rest with
      | some s, some t => some (s.union t)
      | _, _ => none

/-- How deeply brackets, unions and operators are nested. -/
def depth : CharClass → Nat
  | bracket _ inner => depth inner + 1
  | union [] => 0
  | union items => list items + 1
  | combined _ left right => max (depth left) (depth right) + 1
  | _ => 0
where
  list : List CharClass → Nat
    | [] => 0
    | item :: rest => max (depth item) (list rest)

end CharClass

end Pattern

end SliceContract
