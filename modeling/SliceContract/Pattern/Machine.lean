import SliceContract.Pattern.Automaton

/-!
# Matching by backtracking

What is not regular is matched by a machine that tries alternatives in order of preference and goes
back to the latest one left when it fails. It gives up after a fixed number of failures. Regular
parts of fixed width are left to automata.
-/

namespace SliceContract

namespace Pattern

inductive Instruction where
  | chars (set : CharSet)
  | anchor (a : Anchor)
  /-- Go to the preferred end of a match of an automaton. -/
  | regular (a : Automaton)
  | jump (target : Nat)
  | split (preferred other : Nat)
  /-- Keep the place in a slot. -/
  | save (slot : Nat)
  /-- Put zero into a slot. -/
  | clear (slot : Nat)
  /-- Return to the place in a slot. -/
  | restore (slot : Nat)
  /-- Count a repetition in a slot; after the last go to `next`. -/
  | count (r : Repetition) (slot next : Nat)
  /-- Count a repetition that may be empty; fail if the one before left the place in `check`. -/
  | countNonEmpty (r : Repetition) (slot check next : Nat)
  | goBack (distance : Nat)
  | backReference (slot : Nat)
  | hasValue (slot : Nat)
  | atSearchStart
  /-- Remember how many alternatives are left. -/
  | beginAtomic
  /-- Drop all alternatives but those remembered. -/
  | endAtomic
  /-- Drop the alternatives up to the one that follows this instruction, and fail. -/
  | failNegative
  | done
  deriving Repr, Inhabited

/-- Instructions, with the number of slots that they use. -/
structure Program where
  code : Array Instruction
  slots : Nat
  deriving Repr

namespace Program

def size (p : Program) : Nat := p.code.size

def push (p : Program) (i : Instruction) : Program := { p with code := p.code.push i }

/-- Put an instruction in the place of another. -/
def set (p : Program) (place : Nat) (i : Instruction) : Program :=
  { p with code := p.code.setIfInBounds place i }

/-- A slot that no instruction uses yet. -/
def newSlot (p : Program) : Nat × Program := (p.slots, { p with slots := p.slots + 1 })

def choose (greedy : Bool) (first second : Nat) : Instruction :=
  if greedy then .split first second else .split second first

/-- Repeat what `f` lays out. A repetition without bound that may be empty must make progress. -/
def repetition (r : Repetition) (nullable : Bool) (f : Program → Option Program) (p : Program) :
    Option Program :=
  let start := p.size
  match r.least, r.most with
  | 0, some 1 => do
    let inner ← f (p.push default)
    return inner.set start (choose r.greedy (start + 1) inner.size)
  | least, none =>
    if nullable then do
      let (slot, p) := p.newSlot
      let (check, p) := p.newSlot
      let inner ← f ((p.push (.clear slot)).push default)
      let inner := inner.push (.jump (start + 1))
      return inner.set (start + 1) (.countNonEmpty r slot check inner.size)
    else if least = 0 then do
      let inner := (← f (p.push default)).push (.jump start)
      return inner.set start (choose r.greedy (start + 1) inner.size)
    else if least = 1 then do
      let inner ← f p
      return inner.push (choose r.greedy start (inner.size + 1))
    else counted start
  | _, _ => counted start
where
  counted (start : Nat) : Option Program := do
    let (slot, p) := p.newSlot
    let inner := (← f ((p.push (.clear slot)).push default)).push (.jump (start + 1))
    return inner.set (start + 1) (.count r slot inner.size)

/-- Match an expression, but as an automaton if it is regular. -/
def appendRegular (e : Expression) (p : Program) : Option Program :=
  (Automaton.ofExpression? e).map fun a => p.push (.regular a)

/-- Match regular expressions one after another as one automaton. -/
def appendAll (parts : List Expression) (p : Program) : Option Program :=
  if parts.isEmpty then some p else appendRegular (.concat parts) p

/-- Look ahead or behind with what `f` lays out, and return to the place. -/
def look (negated : Bool) (f : Program → Option Program) (p : Program) : Option Program :=
  if negated then do
    let start := p.size
    let inner := (← f (p.push default)).push .failNegative
    return inner.set start (.split (start + 1) inner.size)
  else do
    let (slot, p) := p.newSlot
    let inner ← f (p.push (.save slot))
    return inner.push (.restore slot)

/-- Lay out an expression. What is looked for behind must have a fixed width. With `whole`, a
regular expression becomes an automaton as a whole. -/
def append (referred : List Nat) (whole : Bool) (e : Expression) (p : Program) : Option Program :=
  if whole && e.isRegular referred then appendRegular e p
  else
    match e with
    | .empty => some p
    | .chars set => some (p.push (.chars set))
    | .anchor a => some (p.push (.anchor a))
    | .concat parts =>
      let lead := (parts.takeWhile (·.isRigid referred)).length
      let canTrail (e : Expression) : Bool :=
        if whole then e.isRegular referred else e.isRigid referred
      let trail := ((parts.drop lead).reverse.takeWhile canTrail).length
      let last := parts.length - trail
      (appendAll (parts.take lead) p).bind fun p =>
        (middle parts lead (last - lead) p).bind (appendAll (parts.drop last))
    | .choice branches => alternatives whole branches p
    | .group number inner =>
      (append referred whole inner (p.push (.save (2 * number)))).map
        (·.push (.save (2 * number + 1)))
    | .repeated inner r =>
      let once := r.least = 0 && r.most = some 1
      repetition r (inner.width.least == 0) (append referred (whole && once) inner) p
    | .lookAhead negated inner => look negated (append referred true inner) p
    | .lookBehind negated (.choice branches) =>
      if negated then noneBehind branches p else someBehind branches p
    | .lookBehind negated inner => look negated (behind inner (append referred true inner)) p
    | .backReference number => some (p.push (.backReference (2 * number)))
    | .atomic inner =>
      (append referred true inner (p.push .beginAtomic)).map (·.push .endAtomic)
    | .keepOut => some (p.push (.save 0))
    | .searchStart => some (p.push .atSearchStart)
    | .groupMatched number => some (p.push (.hasValue (2 * number)))
    | .conditional test met unmet => do
      let start := p.size + 1
      let tested ← append referred whole test ((p.push .beginAtomic).push default)
      let first ← append referred whole met (tested.push .endAtomic)
      let second ← append referred whole unmet (first.push default)
      return (second.set start (.split (start + 1) (first.size + 1))).set first.size
        (.jump second.size)
where
  /-- Go back by the width of an expression before `f`. -/
  behind (e : Expression) (f : Program → Option Program) (p : Program) : Option Program :=
    if e.width.fixed then f (p.push (.goBack e.width.least)) else none
  /-- `count` parts after the first `skip`. -/
  middle : List Expression → Nat → Nat → Program → Option Program
    | [], _, _, p => some p
    | _ :: rest, skip + 1, count, p => middle rest skip count p
    | e :: rest, 0, count + 1, p => (append referred false e p).bind (middle rest 0 count)
    | _ :: _, 0, 0, p => some p
  alternatives (whole : Bool) : List Expression → Program → Option Program
    | [], p => some p
    | [e], p => append referred whole e p
    | e :: rest, p => do
      let start := p.size
      let first ← append referred whole e (p.push default)
      let all ← alternatives whole rest (first.push default)
      return (all.set start (.split (start + 1) (first.size + 1))).set first.size (.jump all.size)
  /-- One of several expressions behind, each with a width of its own. -/
  someBehind : List Expression → Program → Option Program
    | [], p => some p
    | [e], p => look false (behind e (append referred true e)) p
    | e :: rest, p => do
      let start := p.size
      let first ← look false (behind e (append referred true e)) (p.push default)
      let all ← someBehind rest (first.push default)
      return (all.set start (.split (start + 1) (first.size + 1))).set first.size (.jump all.size)
  noneBehind : List Expression → Program → Option Program
    | [], p => some p
    | e :: rest, p => (look true (behind e (append referred true e)) p).bind (noneBehind rest)

/-- The program that looks for an expression with so many groups at every place in turn. -/
def ofExpression? (referred : List Nat) (groups : Nat) (e : Expression) : Option Program := do
  let start : Program :=
    ⟨#[.split 3 1, .chars .full, .jump 0, .save 0], 2 * groups + 2⟩
  return ((← append referred false e start).push (.save 1)).push .done

end Program

/-- How a search ends. -/
inductive Outcome where
  | found
  | absent
  /-- Too many alternatives have been tried. -/
  | exhausted
  deriving DecidableEq, Repr

/-- A way that has not been tried. -/
structure Alternative where
  next : Nat
  place : Nat
  slots : Array (Option Nat)
  /-- For each atomic part that is open, how many alternatives were left at its beginning. -/
  marks : List Nat

/-- A machine at work. -/
structure Machine where
  current : Alternative
  /-- The alternatives left, and how many there are. -/
  left : List Alternative
  count : Nat
  failures : Nat

namespace Machine

/-- What an instruction leads to. -/
inductive Step where
  | go (m : Machine)
  | fail (m : Machine)
  | done

def slot (m : Machine) (i : Nat) : Option Nat := (m.current.slots[i]?).join

/-- Go to an instruction, at a place. -/
def goTo (m : Machine) (next place : Nat) : Machine :=
  { m with current := { m.current with next, place } }

/-- Put a value into a slot. -/
def write (m : Machine) (i : Nat) (value : Option Nat) : Machine :=
  { m with current := { m.current with slots := m.current.slots.setIfInBounds i value } }

/-- Leave an alternative. -/
def leave (m : Machine) (next : Nat) : Machine :=
  { m with left := { m.current with next } :: m.left, count := m.count + 1 }

/-- Begin another repetition or leave the loop: the alternative is left if there may be fewer. -/
def enter (m : Machine) (r : Repetition) (mayLeave : Bool) (next : Nat) : Machine :=
  let inside := m.current.next + 1
  let place := m.current.place
  if !mayLeave then m.goTo inside place
  else if r.greedy then (m.leave next).goTo inside place
  else (m.leave inside).goTo next place

/-- Keep only the oldest `n` alternatives. -/
def keepOldest (m : Machine) (n : Nat) : Machine :=
  { m with left := m.left.drop (m.count - n), count := min m.count n }

/-- Drop the alternatives that were left after one that goes on at `next`, and that one. -/
def dropThrough (next : Nat) : List Alternative → List Alternative
  | [] => []
  | a :: rest => if a.next = next then rest else dropThrough next rest

/-- The place after a piece of text, if the text has it at a place. -/
def after? (text : Array Char) (place first last : Nat) : Option Nat :=
  let piece := text.extract first last
  if text.extract place (place + piece.size) = piece then some (place + piece.size) else none

/-- Carry out an instruction. -/
def step (text : Array Char) (m : Machine) (i : Instruction) : Step :=
  let next := m.current.next + 1
  let place := m.current.place
  let proceed (condition : Bool) : Step := if condition then .go (m.goTo next place) else .fail m
  match i with
  | .chars set =>
    if (text[place]?).any set.contains then .go (m.goTo next (place + 1)) else .fail m
  | .anchor a => proceed (a.holds text place)
  | .regular a =>
    match a.endFrom? text place with
    | some last => .go (m.goTo next last)
    | none => .fail m
  | .jump target => .go (m.goTo target place)
  | .split preferred other => .go ((m.leave other).goTo preferred place)
  | .save slot => .go ((m.write slot (some place)).goTo next place)
  | .clear slot => .go ((m.write slot (some 0)).goTo next place)
  | .restore slot => .go (m.goTo next ((m.slot slot).getD place))
  | .count r slot exit =>
    let n := (m.slot slot).getD 0
    if some n = r.most then .go (m.goTo exit place)
    else .go ((m.write slot (some (n + 1))).enter r (r.least ≤ n) exit)
  | .countNonEmpty r slot check exit =>
    let n := (m.slot slot).getD 0
    if 0 < n && m.slot check == some place then .fail m
    else
      let counted := m.write slot (some (n + 1))
      if r.least ≤ n then .go ((counted.write check (some place)).enter r true exit)
      else .go (counted.enter r false exit)
  | .goBack distance => if distance ≤ place then .go (m.goTo next (place - distance)) else .fail m
  | .backReference slot =>
    match m.slot slot, m.slot (slot + 1) with
    | some first, some last =>
      match after? text place first last with
      | some place => .go (m.goTo next place)
      | none => .fail m
    | _, _ => .fail m
  | .hasValue slot => proceed (m.slot slot).isSome
  | .atSearchStart => proceed (place == 0)
  | .beginAtomic =>
    let current := { m.current with next, marks := m.count :: m.current.marks }
    .go { m with current }
  | .endAtomic =>
    match m.current.marks with
    | mark :: marks => .go { m.keepOldest mark with current := { m.current with next, marks } }
    | [] => .fail m
  | .failNegative =>
    let left := dropThrough next m.left
    .fail { m with left, count := left.length }
  | .done => .done

/-- How many failures a search may see. -/
def failureLimit : Nat := 1000000

/-- Run until the program is done, fails for good or has failed too often. -/
def run (code : Array Instruction) (text : Array Char) : Nat → Machine → Outcome
  | 0, _ => .exhausted
  | fuel + 1, m =>
    match m.step text (code[m.current.next]?.getD .done) with
    | .done => .found
    | .go m => run code text fuel m
    | .fail m =>
      match m.left with
      | [] => .absent
      | a :: left =>
        if failureLimit < m.failures + 1 then .exhausted
        else run code text fuel ⟨a, left, m.count - 1, m.failures + 1⟩

/-- Look for a match of a program. Between two failures a program does not carry out more
instructions than it has at more places than there are, its counts apart. -/
def search (p : Program) (text : Array Char) : Outcome :=
  run p.code text ((failureLimit + 2) * (p.size + 2) * (text.size + 2))
    ⟨⟨0, 0, Array.replicate p.slots none, []⟩, [], 0, 0⟩

end Machine

end Pattern

end SliceContract
