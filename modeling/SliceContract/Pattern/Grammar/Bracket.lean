import SliceContract.Pattern.Grammar.Escape

/-!
# Classes in brackets

Classes nest, hold ranges, escapes and named ASCII classes, and are combined by doubled signs, which
all bind alike and from the left.
-/

namespace SliceContract

namespace Pattern

namespace Grammar

/-- The ASCII classes that go by a name. -/
def asciiClasses : List (String × String) := [
  ("alnum", "30-39 41-5A 61-7A"), ("alpha", "41-5A 61-7A"), ("ascii", "0-7F"), ("blank", "9 20"),
  ("cntrl", "0-1F 7F"), ("digit", "30-39"), ("graph", "21-7E"), ("lower", "61-7A"),
  ("print", "20-7E"), ("punct", "21-2F 3A-40 5B-60 7B-7E"), ("space", "9-D 20"),
  ("upper", "41-5A"), ("word", "30-39 41-5A 5F 61-7A"), ("xdigit", "30-39 41-46 61-66")]

/-- A named ASCII class after its opening bracket, such as `:alpha:]`. -/
def asciiClass? (text : List Char) : Option (CharClass × List Char) :=
  match text with
  | ':' :: rest =>
    let negated := rest.head? == some '^'
    let body := if negated then rest.drop 1 else rest
    match splitAt? [':'] body with
    | some (name, ']' :: rest) =>
      (asciiClasses.lookup (String.ofList name)).map fun table =>
        (.ascii (.ofTable table) negated, rest)
    | _ => none
  | _ => none

/-- One item of a class: a character or an escape. A bracket is an item only where a range ends. -/
def classItem (extended : Bool) (text : List Char) : Except Stop ((Char ⊕ CharClass) × List Char) :=
  match text with
  | [] => .error .malformed
  | '\\' :: rest =>
    match escape extended rest with
    | .ok (.char c, rest) => .ok (.inl c, rest)
    | .ok (.bell, rest) => .ok (.inl '\x07', rest)
    | .ok (.charClass c, rest) => .ok (.inr c, rest)
    | .ok (.anchor, _) => .error .malformed
    | .error stop => .error stop
  | c :: rest => .ok (.inl c, rest)

/-- An item, or a range from one character to another. A hyphen before a bracket or before another
hyphen makes no range. -/
def classRange (extended : Bool) (text : List Char) : Except Stop (CharClass × List Char) :=
  match classItem extended text with
  | .error stop => .error stop
  | .ok (first, rest) =>
    let alone : CharClass := match first with
      | .inl c => .single c
      | .inr c => c
    match skip extended rest with
    | [] => .error .malformed
    | '-' :: after =>
      let rest := '-' :: after
      match skip extended after with
      | [] => .error .malformed
      | c :: after =>
        if c = ']' ∨ c = '-' then .ok (alone, rest)
        else
          match first, classItem extended (c :: after) with
          | _, .error stop => .error stop
          | .inl low, .ok (.inl high, rest) =>
            if low ≤ high then .ok (.range low high, rest) else .error .malformed
          | _, _ => .error .malformed
    | rest => .ok (alone, rest)

/-- The hyphens that a class begins with are characters. -/
def leadingHyphens (extended : Bool) : Nat → List Char → List CharClass × List Char
  | 0, text => ([], text)
  | fuel + 1, text =>
    match text with
    | '-' :: rest =>
      let (items, rest) := leadingHyphens extended fuel (skip extended rest)
      (.single '-' :: items, rest)
    | _ => ([], text)

/-- The operator that a text begins with. -/
def classOperator? : List Char → Option (ClassOperator × List Char)
  | '&' :: '&' :: rest => some (.intersection, rest)
  | '-' :: '-' :: rest => some (.difference, rest)
  | '~' :: '~' :: rest => some (.symmetricDifference, rest)
  | _ => none

/-- A class so far: what is to the left of the last operator, and the items after it. -/
structure ClassSoFar where
  left : Option (ClassOperator × CharClass)
  items : List CharClass

namespace ClassSoFar

def push (c : ClassSoFar) (item : CharClass) : ClassSoFar := { c with items := c.items ++ [item] }

def close (c : ClassSoFar) : CharClass :=
  match c.left with
  | some (operator, left) => .combined operator left (.ofItems c.items)
  | none => .ofItems c.items

def operate (c : ClassSoFar) (operator : ClassOperator) : ClassSoFar :=
  ⟨some (operator, c.close), []⟩

end ClassSoFar

/-- A class after its opening bracket. -/
def bracket (extended : Bool) : Nat → List Char → Except Stop (CharClass × List Char)
  | 0, _ => .error .malformed
  | fuel + 1, text =>
    let opened := skip extended text
    let negated := opened.head? == some '^'
    let start := if negated then skip extended (opened.drop 1) else opened
    match leadingHyphens extended (start.length + 1) start with
    | ([], ']' :: rest) => body fuel negated ⟨none, [.single ']']⟩ rest
    | (items, rest) => body fuel negated ⟨none, items⟩ rest
where
  /-- The rest of a class, up to its closing bracket. -/
  body : Nat → Bool → ClassSoFar → List Char → Except Stop (CharClass × List Char)
    | 0, _, _, _ => .error .malformed
    | fuel + 1, negated, found, text =>
      match skip extended text with
      | [] => .error .malformed
      | ']' :: rest => .ok (.bracket negated found.close, rest)
      | '[' :: rest =>
        match asciiClass? rest with
        | some (c, rest) => body fuel negated (found.push c) rest
        | none =>
          match bracket extended fuel rest with
          | .ok (c, rest) => body fuel negated (found.push c) rest
          | .error stop => .error stop
      | text =>
        match classOperator? text with
        | some (operator, rest) => body fuel negated (found.operate operator) rest
        | none =>
          match classRange extended text with
          | .ok (c, rest) => body fuel negated (found.push c) rest
          | .error stop => .error stop

/-- The class that a whole text spells. -/
def class? (text : List Char) : Option CharClass :=
  match text with
  | '[' :: rest =>
    match bracket false (2 * rest.length + 2) rest with
    | .ok (c, []) => some c
    | _ => none
  | '\\' :: rest =>
    match escape false rest with
    | .ok (.charClass c, []) => some c
    | _ => none
  | _ => none

end Grammar

end Pattern

end SliceContract
