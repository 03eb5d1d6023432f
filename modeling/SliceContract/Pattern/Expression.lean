import SliceContract.Unicode.CharSet

/-!
# Expressions

The tree of a pattern. An expression is regular if it can be matched without trying anything twice:
look-arounds, back-references, atomic groups and word boundaries are not, and neither is a group
that something refers to.
-/

namespace SliceContract

namespace Pattern

/-- A condition on a place in a text. -/
inductive Anchor where
  | textStart
  | textEnd
  | lineStart
  | lineEnd
  | wordBoundary
  | noWordBoundary
  | wordStart
  | wordEnd
  deriving DecidableEq, Repr

/-- Whether an anchor only looks at line feeds and at the ends of the text. -/
def Anchor.isRegular : Anchor → Bool
  | textStart | textEnd | lineStart | lineEnd => true
  | _ => false

/-- How often a part is repeated, and whether more repetitions are tried before fewer. -/
structure Repetition where
  least : Nat
  /-- Without a bound, there is no most. -/
  most : Option Nat
  greedy : Bool
  deriving DecidableEq, Repr

inductive Expression where
  | empty
  /-- One character of a set. -/
  | chars (set : CharSet)
  | anchor (a : Anchor)
  | concat (parts : List Expression)
  | choice (branches : List Expression)
  /-- A group that remembers what it matched; groups are numbered from one. -/
  | group (number : Nat) (inner : Expression)
  | repeated (inner : Expression) (repetition : Repetition)
  | lookAhead (negated : Bool) (inner : Expression)
  | lookBehind (negated : Bool) (inner : Expression)
  /-- The text that a group matched. -/
  | backReference (number : Nat)
  /-- Match once, and never try to match otherwise. -/
  | atomic (inner : Expression)
  /-- Forget where the match began. -/
  | keepOut
  /-- The place where the search began. -/
  | searchStart
  /-- Whether a group has matched. -/
  | groupMatched (number : Nat)
  | conditional (test met unmet : Expression)
  deriving Repr, Inhabited

namespace Expression

def isEmpty : Expression → Bool
  | empty => true
  | _ => false

/-- Whether a repetition may follow: not after nothing, an anchor or a look-around. -/
def isRepeatable : Expression → Bool
  | empty | anchor _ | lookAhead _ _ | lookBehind _ _ => false
  | _ => true

/-- Whether the expression is regular, given the groups that something refers to. -/
def isRegular (referred : List Nat) : Expression → Bool
  | empty => true
  | chars _ => true
  | anchor a => a.isRegular
  | concat parts => list referred parts
  | choice branches => list referred branches
  | group number inner => !referred.contains number && isRegular referred inner
  | repeated inner _ => isRegular referred inner
  | _ => false
where
  list (referred : List Nat) : List Expression → Bool
    | [] => true
    | e :: rest => isRegular referred e && list referred rest

/-- How many characters an expression matches: the least number, and whether it is always that
number. -/
structure Width where
  least : Nat
  fixed : Bool
  deriving DecidableEq, Repr

namespace Width

def nothing : Width := ⟨0, true⟩

def followedBy (a b : Width) : Width := ⟨a.least + b.least, a.fixed && b.fixed⟩

def or (a b : Width) : Width := ⟨min a.least b.least, a.fixed && b.fixed && a.least == b.least⟩

end Width

def width : Expression → Width
  | empty => .nothing
  | chars _ => ⟨1, true⟩
  | anchor _ => .nothing
  | concat parts => sum parts
  | choice [] => .nothing
  | choice (first :: rest) => common (width first) rest
  | group _ inner => width inner
  | repeated inner r =>
    let w := width inner
    ⟨w.least * r.least, w.fixed && r.most == some r.least⟩
  | lookAhead _ _ => .nothing
  | lookBehind _ _ => .nothing
  | backReference _ => ⟨0, false⟩
  | atomic inner => width inner
  | keepOut => .nothing
  | searchStart => .nothing
  | groupMatched _ => .nothing
  | conditional test met unmet =>
    let (t, m, u) := (width test, width met, width unmet)
    ⟨t.least + min m.least u.least,
      t.fixed && m.fixed && u.fixed && t.least + m.least == u.least⟩
where
  sum : List Expression → Width
    | [] => .nothing
    | e :: rest => (width e).followedBy (sum rest)
  /-- The width of any of several branches, from that of those before them. -/
  common (w : Width) : List Expression → Width
    | [] => w
    | e :: rest => common (w.or (width e)) rest

/-- Whether an expression is regular and always matches the same number of characters. -/
def isRigid (referred : List Nat) (e : Expression) : Bool :=
  e.isRegular referred && (width e).fixed

end Expression

end Pattern

end SliceContract
