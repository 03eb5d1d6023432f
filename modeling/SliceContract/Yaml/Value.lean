import SliceContract.Binary64.Layout
import SliceContract.Text.Debug

/-!
# YAML values

A tree of nodes after scalars are resolved. Mappings keep the order in which they are written; two
mappings are the same when they have the same entries in any order.
-/

namespace SliceContract

inductive Yaml.Number where
  | int (value : Int)
  | float (value : Binary64)
  | infinite (negative : Bool)
  | nan
  deriving DecidableEq, Repr, Inhabited

inductive Yaml where
  | null
  | bool (value : Bool)
  | number (value : Yaml.Number)
  | string (value : String)
  | sequence (items : List Yaml)
  | mapping (entries : List (Yaml × Yaml))
  | tagged (tag : String) (value : Yaml)
  deriving Repr, Inhabited

namespace Yaml

/-! ## Sameness -/

/-- Whole numbers are never the same as doubles. -/
def Number.sameValue : Number → Number → Bool
  | int a, int b => a == b
  | float a, float b => a.sameValue b
  | infinite a, infinite b => a == b
  | nan, nan => true
  | _, _ => false

/-- A tag without the exclamation mark it may begin with. -/
def tagName (tag : String) : String :=
  match tag.toList with
  | '!' :: c :: rest => String.ofList (c :: rest)
  | _ => tag

/-- Whether two values are the same as keys. -/
def same : Yaml → Yaml → Bool
  | null, null => true
  | bool a, bool b => a == b
  | number a, number b => a.sameValue b
  | string a, string b => a == b
  | sequence xs, sequence ys => items xs ys
  | mapping ms, mapping ns => ms.length == ns.length && entries ms ns
  | tagged t x, tagged u y => tagName t == tagName u && same x y
  | _, _ => false
where
  items : List Yaml → List Yaml → Bool
    | [], [] => true
    | x :: xs, y :: ys => same x y && items xs ys
    | _, _ => false
  /-- Whether each entry of the first mapping is one of the second. -/
  entries : List (Yaml × Yaml) → List (Yaml × Yaml) → Bool
    | [], _ => true
    | (k, x) :: ms, ns => ns.any (fun entry => same k entry.1 && same x entry.2) && entries ms ns

/-- The entry of a mapping whose key is the same as a key. -/
def find? (key : Yaml) (entries : List (Yaml × Yaml)) : Option (Yaml × Yaml) :=
  entries.find? fun entry => key.same entry.1

/-! ## Written forms -/

def Number.text : Number → String
  | int value => String.ofList (Layout.intText value)
  | float value => String.ofList (Layout.yaml.text value)
  | infinite negative => if negative then "-.inf" else ".inf"
  | nan => ".nan"

/-- The text of a tag, with one exclamation mark in front. -/
def tagText (tag : String) : String := "!" ++ tagName tag

/-- The text of a value in a log. -/
def debug : Yaml → String
  | null => "Null"
  | bool b => "Bool(" ++ toString b ++ ")"
  | number n => "Number(" ++ n.text ++ ")"
  | string s => "String(" ++ Debug.quoted s ++ ")"
  | sequence xs => "Sequence " ++ Debug.list (items xs)
  | mapping ms => "Mapping \x7b" ++ ", ".intercalate (entries ms) ++ "\x7d"
  | tagged tag x => "TaggedValue \x7b tag: " ++ tagText tag ++ ", value: " ++ debug x ++ " \x7d"
where
  items : List Yaml → List String
    | [] => []
    | x :: rest => debug x :: items rest
  /-- A plain key stands without the name of its kind. -/
  entries : List (Yaml × Yaml) → List String
    | [] => []
    | (k, x) :: rest =>
      let key := match k with
        | bool b => toString b
        | number n => n.text
        | string s => Debug.quoted s
        | _ => debug k
      (key ++ ": " ++ debug x) :: entries rest

end Yaml

end SliceContract
