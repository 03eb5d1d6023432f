import SliceContract.Yaml.Syntax

/-!
# Reading characters

What is left of a text with the place where it begins. The text holds no null character, so that
one can stand for the end.
-/

namespace SliceContract

namespace Yaml

structure Cursor where
  rest : List Char
  mark : Mark
  deriving DecidableEq, Repr

namespace Chars

def isBreak (c : Char) : Bool :=
  c = '\r' || c = '\n' || c = '\u0085' || c = '\u2028' || c = '\u2029'

def isEnd (c : Char) : Bool := c = '\x00'

def isBlank (c : Char) : Bool := c = ' ' || c = '\t'

def isBreakOrEnd (c : Char) : Bool := isBreak c || isEnd c

def isBlankOrEnd (c : Char) : Bool := isBlank c || isBreakOrEnd c

/-- Letters, digits, underscore and hyphen. -/
def isWord (c : Char) : Bool := c.isAlphanum || c = '_' || c = '-'

/-- Characters that text may hold. -/
def isAllowed (c : Char) : Bool :=
  let n := c.toNat
  n = 0x09 || n = 0x0A || n = 0x0D || (0x20 ≤ n && n ≤ 0x7E) || n = 0x85 ||
    (0xA0 ≤ n && n ≤ 0xFFFD) || 0x10000 ≤ n

end Chars

namespace Cursor

open Chars

/-- The character `n` places on; the null character stands for the end. -/
def peek (s : Cursor) (n : Nat) : Char := (s.rest[n]?).getD '\x00'

def first (s : Cursor) : Char := s.peek 0

def isAtEnd (s : Cursor) : Bool := s.rest.isEmpty

/-- Drop one character of a line. -/
def skip (s : Cursor) : Cursor :=
  match s.rest with
  | [] => s
  | _ :: rest => ⟨rest, { s.mark with index := s.mark.index + 1, column := s.mark.column + 1 }⟩

def skipN : Nat → Cursor → Cursor
  | 0, s => s
  | n + 1, s => skipN n s.skip

def nextLine (m : Mark) (width : Nat) : Mark := ⟨m.index + width, m.line + 1, 0⟩

/-- Drop a line break, if one is next. -/
def skipLine (s : Cursor) : Cursor :=
  match s.rest with
  | '\r' :: '\n' :: rest => ⟨rest, nextLine s.mark 2⟩
  | c :: rest => if isBreak c then ⟨rest, nextLine s.mark 1⟩ else s
  | [] => s

/-- What a line break stands for in a text: a line feed, or one of the two wide breaks itself. -/
def lineBreak (s : Cursor) : List Char :=
  match s.rest with
  | c :: _ => if c = '\u2028' || c = '\u2029' then [c] else if isBreak c then ['\n'] else []
  | [] => []

def skipWhileFrom (test : Char → Bool) : List Char → Mark → Cursor
  | [], m => ⟨[], m⟩
  | c :: rest, m =>
    if test c then
      skipWhileFrom test rest { m with index := m.index + 1, column := m.column + 1 }
    else ⟨c :: rest, m⟩

/-- Drop characters of a line while they satisfy a test. -/
def skipWhile (test : Char → Bool) (s : Cursor) : Cursor := skipWhileFrom test s.rest s.mark

/-- The characters of a line that satisfy a test, and what follows them. -/
def takeWhile (test : Char → Bool) (s : Cursor) : List Char × Cursor :=
  (s.rest.takeWhile test, s.skipWhile test)

def skipBlanks (s : Cursor) : Cursor := s.skipWhile isBlank

/-- Drop a comment up to the end of its line. -/
def skipComment (s : Cursor) : Cursor :=
  if s.first = '#' then s.skipWhile fun c => !isBreak c else s

/-- Whether three times the character, and a blank or an end, are next at the start of a line. -/
def isDocumentMark (c : Char) (s : Cursor) : Bool :=
  s.mark.column = 0 && s.peek 0 = c && s.peek 1 = c && s.peek 2 = c && isBlankOrEnd (s.peek 3)

def isAtDocumentMark (s : Cursor) : Bool := s.isDocumentMark '-' || s.isDocumentMark '.'

/-- Fail here, with what was being read since a place. -/
def fail {α : Type} (s : Cursor) (context : Context) (since : Mark) (problem : Problem) :
    Except SyntaxError α :=
  .error ⟨problem, s.mark, some (context, since)⟩

end Cursor

end Yaml

end SliceContract
