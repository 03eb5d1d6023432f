import SliceContract.Text.Hex

/-!
# Sets of characters

A set of characters as ranges of code points that ascend, and between any two of which a code point
is missing. Tables write a set as its ranges in hexadecimal.
-/

namespace SliceContract

structure CharSet where
  ranges : List (Nat × Nat)
  deriving DecidableEq, Repr

namespace CharSet

/-- The last code point. -/
def top : Nat := 0x10FFFF

def empty : CharSet := ⟨[]⟩

def full : CharSet := ⟨[(0, top)]⟩

def range (low high : Char) : CharSet := ⟨[(low.toNat, high.toNat)]⟩

def single (c : Char) : CharSet := range c c

/-- Whether a code point lies in one of several ascending ranges. -/
def covers : List (Nat × Nat) → Nat → Bool
  | [], _ => false
  | (low, high) :: rest, code => low ≤ code && (code ≤ high || covers rest code)

def contains (s : CharSet) (c : Char) : Bool := covers s.ranges c.toNat

/-- Join ranges that overlap or touch; they come in the order of their lower ends. -/
def join : List (Nat × Nat) → List (Nat × Nat)
  | (a, b) :: (c, d) :: rest =>
    if c ≤ b + 1 then join ((a, max b d) :: rest) else (a, b) :: join ((c, d) :: rest)
  | ranges => ranges
termination_by ranges => ranges.length

/-- The set of all code points in some of the ranges, which may come in any order. -/
def ofRanges (ranges : List (Nat × Nat)) : CharSet :=
  ⟨join (ranges.mergeSort fun a b => a.1 ≤ b.1)⟩

/-- The code points outside ascending ranges, from `start` on. -/
def gaps (start : Nat) : List (Nat × Nat) → List (Nat × Nat)
  | [] => if start ≤ top then [(start, top)] else []
  | (low, high) :: rest =>
    if start < low then (start, low - 1) :: gaps (high + 1) rest else gaps (high + 1) rest

def complement (s : CharSet) : CharSet := ⟨gaps 0 s.ranges⟩

def unions (sets : List CharSet) : CharSet := ofRanges (sets.flatMap ranges)

def union (s t : CharSet) : CharSet := unions [s, t]

def inter (s t : CharSet) : CharSet := (s.complement.union t.complement).complement

def diff (s t : CharSet) : CharSet := s.inter t.complement

def symmDiff (s t : CharSet) : CharSet := (s.diff t).union (t.diff s)

/-- The ranges of a table: numbers between blanks, or two numbers around a hyphen. `low` is what
stands before the hyphen, and `current` what has been read of the number in hand. -/
def scan (low current : Option Nat) : List Char → List (Nat × Nat)
  | [] => close low current []
  | c :: rest =>
    match Hex.value? c with
    | some digit => scan low (some (current.getD 0 * 16 + digit)) rest
    | none =>
      if c = '-' then scan current none rest else close low current (scan none none rest)
where
  close (low current : Option Nat) (ranges : List (Nat × Nat)) : List (Nat × Nat) :=
    match current with
    | some high => (low.getD high, high) :: ranges
    | none => ranges

/-- The set that a table lists in ascending order. -/
def ofTable (text : String) : CharSet := ⟨scan none none text.toList⟩

@[simp] theorem contains_empty (c : Char) : empty.contains c = false := rfl

end CharSet

end SliceContract
