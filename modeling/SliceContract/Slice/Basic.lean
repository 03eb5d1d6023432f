import SliceContract.NonEmpty

/-!
# Slices

A slice describes a named, possibly nested unit of structured content. The schemas that its data
fields carry are a parameter; nothing here looks inside them.
-/

namespace SliceContract

/-- A keyed leaf: free text, or data that follows a schema. -/
inductive Field (S : Type _) where
  | text (key : String)
  | data (key : String) (schema : S)
  deriving DecidableEq, Repr

namespace Field

variable {S T : Type _}

def key : Field S → String
  | text key => key
  | data key _ => key

@[simp] theorem key_text (k : String) : (text k : Field S).key = k := rfl

@[simp] theorem key_data (k : String) (s : S) : (data k s).key = k := rfl

def map (f : S → T) : Field S → Field T
  | text key => text key
  | data key schema => data key (f schema)

end Field

/-- A leaf, several fields that stand side by side without a key of their own, the elements of an
array under a key, or an object under a key whose value must fit every child. -/
inductive Slice (S : Type _) where
  | leaf (field : Field S)
  | multi (main : Field S) (others : NonEmpty (String × S))
  | array (key : String) (child : Slice S)
  | object (key : String) (children : NonEmpty (Slice S))

inductive Slice.Kind where
  | text
  | data
  | multi
  | array
  | object
  deriving DecidableEq, Repr

def Slice.Kind.name : Slice.Kind → String
  | text => "text"
  | data => "data"
  | multi => "multi"
  | array => "array"
  | object => "object"

namespace Slice

variable {S T : Type _}

def text (key : String) : Slice S := leaf (.text key)

def data (key : String) (schema : S) : Slice S := leaf (.data key schema)

/-- Text with auxiliary data fields beside it. -/
def textWith (key : String) (others : NonEmpty (String × S)) : Slice S :=
  multi (.text key) others

/-- Data with auxiliary data fields beside it. -/
def dataWith (key : String) (schema : S) (others : NonEmpty (String × S)) : Slice S :=
  multi (.data key schema) others

def kind : Slice S → Kind
  | leaf (.text _) => .text
  | leaf (.data _ _) => .data
  | multi _ _ => .multi
  | array _ _ => .array
  | object _ _ => .object

/-- The key of the slice; a multi slice has none. -/
def key : Slice S → Option String
  | leaf field => some field.key
  | multi _ _ => none
  | array key _ => some key
  | object key _ => some key

/-- The auxiliary fields of a multi slice as fields. -/
def auxiliary (others : NonEmpty (String × S)) : List (Field S) :=
  others.toList.map fun (key, schema) => .data key schema

/-- The keys under which the slice puts content into the enclosing object, main key first. -/
def fieldKeys : Slice S → List String
  | leaf field => [field.key]
  | multi main others => main.key :: others.toList.map (·.1)
  | array key _ => [key]
  | object key _ => [key]

/-- Levels of nesting: a leaf and a multi slice have one. -/
def depth : Slice S → Nat
  | leaf _ => 1
  | multi _ _ => 1
  | array _ child => 1 + depth child
  | object _ ⟨first, rest⟩ => 1 + max (depth first) (deepest rest)
where
  deepest : List (Slice S) → Nat
    | [] => 0
    | child :: rest => max (depth child) (deepest rest)

/-- Apply a function to every schema. -/
def map (f : S → T) : Slice S → Slice T
  | leaf field => leaf (field.map f)
  | multi main others => multi (main.map f) (others.map fun (key, schema) => (key, f schema))
  | array key child => array key (map f child)
  | object key ⟨first, rest⟩ => object key ⟨map f first, mapAll f rest⟩
where
  mapAll (f : S → T) : List (Slice S) → List (Slice T)
    | [] => []
    | child :: rest => map f child :: mapAll f rest

/-- Equality up to a relation on schemas. -/
def eqBy (schemas : S → S → Bool) : Slice S → Slice S → Bool
  | leaf a, leaf b => fields a b
  | multi a ⟨p, ps⟩, multi b ⟨q, qs⟩ => fields a b && pair p q && pairs ps qs
  | array k a, array l b => k == l && eqBy schemas a b
  | object k ⟨a, as⟩, object l ⟨b, bs⟩ => k == l && eqBy schemas a b && children as bs
  | _, _ => false
where
  fields : Field S → Field S → Bool
    | .text k, .text l => k == l
    | .data k s, .data l t => k == l && schemas s t
    | _, _ => false
  pair (p q : String × S) : Bool := p.1 == q.1 && schemas p.2 q.2
  pairs : List (String × S) → List (String × S) → Bool
    | [], [] => true
    | p :: ps, q :: qs => pair p q && pairs ps qs
    | _, _ => false
  children : List (Slice S) → List (Slice S) → Bool
    | [], [] => true
    | a :: as, b :: bs => eqBy schemas a b && children as bs
    | _, _ => false

end Slice

end SliceContract
