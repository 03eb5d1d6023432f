import SliceContract.Pattern.Grammar.Bracket

/-!
# The grammar of patterns

The written form that every pattern has to have: alternatives, groups, classes, repetitions and
escapes. A pattern may go beyond the grammar by a look-around or a back-reference; what follows it
is then not read here. Reading tells how deeply a pattern is nested.
-/

namespace SliceContract

namespace Pattern

namespace Grammar

/-- What is left to be read, and what has been met so far. -/
structure Reading where
  rest : List Char
  /-- Whether blanks and comments do not count. -/
  extended : Bool
  /-- The names of the groups so far. -/
  names : List String
  /-- Whether a bell stands outside all classes. -/
  hasBell : Bool

/-- Flags in the order in which they are written, a hyphen among them. -/
def flags : List Char → List Char → Except Stop (List Char × List Char)
  | _, [] => .error .malformed
  | found, c :: rest =>
    if c = ':' ∨ c = ')' then
      if found.getLast? = some '-' then .error .malformed else .ok (found, c :: rest)
    else if (c = '-' ∨ "imsUuRx".toList.contains c) ∧ !found.contains c then
      flags (found ++ [c]) rest
    else .error .malformed

/-- What flags say about the extended style, if they do. -/
def extendedFlag? (found : List Char) : Option Bool :=
  if !found.contains 'x' then none
  else some (!(found.takeWhile (· != 'x')).contains '-')

def isNameStart (c : Char) : Bool := c = '_' || Unicode.letters.contains c

def isNameChar (c : Char) : Bool :=
  c = '_' || c = '.' || c = '[' || c = ']' || Unicode.alphanumerics.contains c

/-- The name of a group, up to its closing angle bracket. -/
def groupName (text : List Char) : Except Stop (String × List Char) :=
  let name := text.takeWhile (· != '>')
  match name, text.drop name.length with
  | first :: others, '>' :: rest =>
    if isNameStart first && others.all isNameChar then .ok (String.ofList name, rest)
    else .error .malformed
  | _, _ => .error .malformed

/-- What an opening parenthesis begins. -/
inductive Opening where
  | group
  /-- Flags up to the end of the group that they stand in. -/
  | flags

/-- Read what follows an opening parenthesis, up to the inside of a group. -/
def opening (r : Reading) : Except Stop (Opening × Reading) :=
  match skip r.extended r.rest with
  | '?' :: '=' :: _ | '?' :: '!' :: _ | '?' :: '<' :: '=' :: _ | '?' :: '<' :: '!' :: _ =>
    .error .beyond
  | '?' :: 'P' :: '<' :: rest | '?' :: '<' :: rest => do
    let (name, rest) ← groupName rest
    if r.names.contains name then .error .malformed
    else .ok (.group, { r with rest, names := name :: r.names })
  | '?' :: rest => do
    let (found, rest) ← flags [] rest
    let extended := (extendedFlag? found).getD r.extended
    match rest with
    | ')' :: rest =>
      if found.isEmpty then .error .malformed else .ok (.flags, { r with rest, extended })
    | _ => .ok (.group, { r with rest := rest.drop 1, extended })
  | rest => .ok (.group, { r with rest })

/-- A decimal number with blanks around it. -/
def decimal (extended : Bool) (text : List Char) : Option (Nat × List Char) :=
  let start := text.dropWhile Unicode.blanks.contains
  let (digits, rest) := digitRun (start.length + 1) start
  let value := Nat.ofDigitChars 10 digits 0
  if digits.isEmpty || UInt32.size ≤ value then none
  else some (value, afterBlanks (rest.length + 1) rest)
where
  digitRun : Nat → List Char → List Char × List Char
    | fuel + 1, c :: rest =>
      if c.isDigit then
        let (digits, rest) := digitRun fuel (skip extended rest)
        (c :: digits, rest)
      else ([], c :: rest)
    | _, text => ([], text)
  afterBlanks : Nat → List Char → List Char
    | fuel + 1, c :: rest =>
      if Unicode.blanks.contains c then afterBlanks fuel (skip extended rest) else c :: rest
    | _, text => text

/-- A counted repetition after its opening brace, up to its closing one. -/
def countedRepetition (extended : Bool) (text : List Char) : Option (List Char) := do
  let (least, rest) ← decimal extended (skip extended text)
  match rest with
  | '\x7d' :: rest => return rest
  | ',' :: rest =>
    match skip extended rest with
    | '\x7d' :: rest => return rest
    | rest =>
      let (most, rest) ← decimal extended rest
      match rest with
      | '\x7d' :: rest => if least ≤ most then return rest else none
      | _ => none
  | _ => none

/-- The text after a mark that says how eagerly to repeat. -/
def dropEagerness (text : List Char) : List Char :=
  match text with
  | '?' :: rest => rest
  | _ => text

/-- The depth of parts that stand side by side; `none` is a part that takes no place. -/
def depthTogether (parts : List (Option Nat)) : Nat :=
  match parts with
  | [] => 0
  | [part] => part.getD 0
  | _ => (parts.foldl (fun deepest part => max deepest (part.getD 0)) 0) + 1

/-- Repeat the last of the parts, the first of the list. -/
def repeatLast : List (Option Nat) → Except Stop (List (Option Nat))
  | some depth :: parts => .ok (some (depth + 1) :: parts)
  | _ => .error .malformed

/-- A part that is neither a group nor a repetition, with its depth. -/
def simplePart (r : Reading) : List Char → Except Stop (Nat × Reading)
  | [] => .error .malformed
  | '[' :: rest => do
    let (c, rest) ← bracket r.extended (2 * rest.length + 2) rest
    return (c.depth, { r with rest })
  | '\\' :: rest => do
    let (found, rest) ← escape r.extended rest
    match found with
    | .bell => return (0, { r with rest, hasBell := true })
    | _ => return (0, { r with rest })
  | _ :: rest => .ok (0, { r with rest })

/-- Alternatives up to the end of the text or to a closing parenthesis, with their depth. -/
def alternatives : Nat → Reading → Except Stop (Nat × Reading)
  | 0, _ => .error .malformed
  | fuel + 1, r => branches fuel [] r
where
  branches : Nat → List (Option Nat) → Reading → Except Stop (Nat × Reading)
    | 0, _, _ => .error .malformed
    | fuel + 1, found, r => do
      let (depth, r) ← branch fuel [] r
      match r.rest with
      | '|' :: rest => branches fuel (some depth :: found) { r with rest }
      | _ => return (depthTogether (some depth :: found), r)
  /-- Parts one after another; the last part comes first in the list. -/
  branch : Nat → List (Option Nat) → Reading → Except Stop (Nat × Reading)
    | 0, _, _ => .error .malformed
    | fuel + 1, parts, r =>
      match skip r.extended r.rest with
      | [] => .ok (depthTogether parts, { r with rest := [] })
      | c :: rest =>
        if c = '|' ∨ c = ')' then .ok (depthTogether parts, { r with rest := c :: rest })
        else if c = '*' ∨ c = '+' ∨ c = '?' then do
          branch fuel (← repeatLast parts) { r with rest := dropEagerness rest }
        else if c = '\x7b' then do
          let parts ← repeatLast parts
          let rest ← orMalformed (countedRepetition r.extended rest)
          branch fuel parts { r with rest := dropEagerness (skip r.extended rest) }
        else if c = '(' then do
          match ← opening { r with rest } with
          | (.flags, inside) => branch fuel (none :: parts) inside
          | (.group, inside) =>
            let (depth, inside) ← alternatives fuel inside
            match inside.rest with
            | ')' :: rest =>
              branch fuel (some (depth + 1) :: parts) { inside with rest, extended := r.extended }
            | _ => .error .malformed
        else do
          let (depth, r) ← simplePart r (c :: rest)
          branch fuel (some depth :: parts) r

/-- The deepest nesting that a pattern may have. -/
def depthLimit : Nat := 250

/-- Read a whole pattern. Outside classes it may not ask for a bell. -/
def check (text : List Char) : Except Stop Unit := do
  let start : Reading := ⟨text, false, [], false⟩
  let (depth, r) ← alternatives (3 * text.length + 3) start
  if r.rest.isEmpty && depth ≤ depthLimit && !r.hasBell then .ok () else .error .malformed

end Grammar

end Pattern

end SliceContract
