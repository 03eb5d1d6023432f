import Std.Data.HashSet
import SliceContract.Pattern.Expression
import SliceContract.Unicode.Query

/-!
# Regular expressions as automata

A regular expression is laid out as a list of states; a search walks them in order of preference and
never enters a state twice at one place, so that it takes time in proportion to the states and the
text. The first end found is the preferred one.
-/

namespace SliceContract

namespace Pattern

namespace Anchor

def isWordAt (text : Array Char) (place : Nat) : Bool :=
  (text[place]?).any Unicode.wordChars.contains

def isWordBefore (text : Array Char) (place : Nat) : Bool :=
  place != 0 && isWordAt text (place - 1)

/-- Whether an anchor holds at a place. -/
def holds (text : Array Char) (place : Nat) : Anchor → Bool
  | textStart => place == 0
  | textEnd => place == text.size
  | lineStart => place == 0 || text[place - 1]? == some '\n'
  | lineEnd => place == text.size || text[place]? == some '\n'
  | wordBoundary => isWordBefore text place != isWordAt text place
  | noWordBoundary => isWordBefore text place == isWordAt text place
  | wordStart => !isWordBefore text place && isWordAt text place
  | wordEnd => isWordBefore text place && !isWordAt text place

end Anchor

/-- A state of an automaton; where it goes on is not said, it is the next state. -/
inductive State where
  | chars (set : CharSet)
  | anchor (a : Anchor)
  | jump (target : Nat)
  | split (preferred other : Nat)
  deriving Repr, Inhabited

abbrev Automaton := Array State

namespace Automaton

/-- A split that prefers its first target if `greedy`. -/
def choose (greedy : Bool) (first second : Nat) : State :=
  if greedy then .split first second else .split second first

/-- Do something `n` times. -/
def times (n : Nat) (f : Automaton → Automaton) (a : Automaton) : Automaton :=
  n.fold (fun _ _ a => f a) a

/-- Any number of repetitions. Where a repetition may be empty, one repetition is entered before it
is asked whether more follow. -/
def star (greedy nullable : Bool) (f : Automaton → Automaton) (a : Automaton) : Automaton :=
  let start := a.size
  let inner := f (a.push default)
  if nullable then
    let last := inner.size
    (inner.push (choose greedy (start + 1) (last + 1))).setIfInBounds start
      (choose greedy (start + 1) (last + 1))
  else
    (inner.push (.jump start)).setIfInBounds start (choose greedy (start + 1) (inner.size + 1))

/-- One more repetition than any number. -/
def plus (greedy : Bool) (f : Automaton → Automaton) (a : Automaton) : Automaton :=
  let inner := f a
  inner.push (choose greedy a.size (inner.size + 1))

/-- At most `n` repetitions, each of which can be the last. -/
def upTo (greedy : Bool) (f : Automaton → Automaton) (n : Nat) (a : Automaton) : Automaton :=
  let (inner, starts) := n.fold (fun _ _ (a, starts) => (f (a.push default), a.size :: starts))
    (a, [])
  starts.foldl (fun a start => a.setIfInBounds start (choose greedy (start + 1) a.size)) inner

/-- Lay out a repetition of what `f` lays out. -/
def repetition (r : Repetition) (nullable : Bool) (f : Automaton → Automaton) (a : Automaton) :
    Automaton :=
  match r.most with
  | some most => upTo r.greedy f (most - r.least) (times r.least f a)
  | none =>
    match r.least with
    | 0 => star r.greedy nullable f a
    | least + 1 => plus r.greedy f (times least f a)

/-- Lay out an expression after what has been laid out. What is not regular is left out. -/
def append : Expression → Automaton → Automaton
  | .empty, a => a
  | .chars set, a => a.push (.chars set)
  | .anchor place, a => a.push (.anchor place)
  | .concat parts, a => sequence parts a
  | .choice branches, a => alternatives branches a
  | .group _ inner, a => append inner a
  | .repeated inner r, a => repetition r (inner.width.least == 0) (append inner) a
  | _, a => a
where
  sequence : List Expression → Automaton → Automaton
    | [], a => a
    | e :: rest, a => sequence rest (append e a)
  alternatives : List Expression → Automaton → Automaton
    | [], a => a
    | [e], a => append e a
    | e :: rest, a =>
      let start := a.size
      let first := append e (a.push default)
      let whole := alternatives rest (first.push default)
      (whole.setIfInBounds start (.split (start + 1) (first.size + 1))).setIfInBounds first.size
        (.jump whole.size)

/-- Bytes that the states of a set of characters take. Beyond ASCII a state is needed for each byte
of the encoding. -/
def charsCost (set : CharSet) : Nat :=
  match set.ranges with
  | [(low, high)] =>
    if high < 0x80 then 32
    else if low = high then 32 * (Char.ofNat low).utf8Size
    else 32 * 10
  | ranges =>
    if ranges.all fun range => range.2 < 0x80 then 32 + 8 * ranges.length
    else 32 * (2 * ranges.length + 8)

/-- Bytes that the automaton of an expression takes. -/
def cost : Expression → Nat
  | .chars set => charsCost set
  | .anchor _ => 32
  | .concat parts => list parts
  | .choice branches => list branches + 36 * branches.length
  | .group _ inner => cost inner + 64
  | .repeated inner r => (cost inner + 40) * max 1 (r.most.getD (r.least + 1))
  | _ => 0
where
  list : List Expression → Nat
    | [] => 0
    | e :: rest => cost e + list rest

/-- The most bytes that an automaton may take. -/
def costLimit : Nat := 10 * 1024 * 1024

/-- Whether all counts of an expression are in order and small enough to be laid out. -/
def hasSoundCounts : Expression → Bool
  | .concat parts => list parts
  | .choice branches => list branches
  | .group _ inner => hasSoundCounts inner
  | .repeated inner r =>
    hasSoundCounts inner && r.least < UInt32.size &&
      match r.most with
      | some most => r.least ≤ most && most < UInt32.size
      | none => true
  | _ => true
where
  list : List Expression → Bool
    | [] => true
    | e :: rest => hasSoundCounts e && list rest

/-- The automaton of a regular expression, unless it would be too large. -/
def ofExpression? (e : Expression) : Option Automaton :=
  if hasSoundCounts e && cost e ≤ costLimit then some (append e #[]) else none

/-- What is left to be tried, and what need not be tried again. -/
structure Search where
  /-- States at places, the preferred one first. -/
  pending : List (Nat × Nat)
  /-- Numbers of the pairs of state and place that have been entered. -/
  visited : Std.HashSet Nat

/-- Walk on until an end is found or nothing is left to be tried. -/
def walk (a : Automaton) (text : Array Char) : Nat → Search → Option Nat × Search
  | 0, s => (none, s)
  | fuel + 1, s =>
    match s.pending with
    | [] => (none, s)
    | (state, place) :: rest =>
      let key := state * (text.size + 1) + place
      if s.visited.contains key then walk a text fuel { s with pending := rest }
      else
        let visited := s.visited.insert key
        let go (next : List (Nat × Nat)) := walk a text fuel ⟨next ++ rest, visited⟩
        match a[state]? with
        | none => (some place, ⟨rest, visited⟩)
        | some (.chars set) =>
          if (text[place]?).any set.contains then go [(state + 1, place + 1)] else go []
        | some (.anchor condition) =>
          if condition.holds text place then go [(state + 1, place)] else go []
        | some (.jump target) => go [(target, place)]
        | some (.split preferred other) => go [(preferred, place), (other, place)]

/-- Enough steps to enter every state at every place. -/
def fuel (a : Automaton) (text : Array Char) : Nat := 2 * (a.size + 1) * (text.size + 1) + 2

/-- The preferred end of a match that begins at a place. -/
def endFrom? (a : Automaton) (text : Array Char) (place : Nat) : Option Nat :=
  (walk a text (a.fuel text) ⟨[(0, place)], ∅⟩).1

/-- Whether a match begins somewhere in the text. -/
def occursIn (a : Automaton) (text : Array Char) : Bool :=
  (walk a text (a.fuel text + text.size)
    ⟨(List.range (text.size + 1)).map fun place => (0, place), ∅⟩).1.isSome

end Automaton

end Pattern

end SliceContract
