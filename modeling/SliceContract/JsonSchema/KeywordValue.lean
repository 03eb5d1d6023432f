import SliceContract.Json.Comparison
import SliceContract.JsonSchema.Draft
import SliceContract.JsonSchema.Failure

/-!
# Values of keywords

What the value of a keyword says, and the objection to a value that cannot say it.
-/

namespace SliceContract

namespace KeywordValue

/-- A value that has none of the types that its keyword takes. -/
def illTyped (expected : List TypeName) (v : Json) : Objection := ⟨v, .wrongType expected⟩

/-- The largest size that a schema can ask for. -/
def sizeLimit : Nat := UInt64.size - 1

/-- A number within the limits of sizes. -/
def clamped (n : Json.Number) : Nat := min n.toRat.floor.toNat sizeLimit

/-- A size. Below zero counts as zero, and above the largest size as that; draft 4 takes whole
numbers only, none of them negative. -/
def size (draft : Draft) (v : Json) : Except Objection Nat :=
  match v with
  | .number n =>
    if draft ≠ .draft4 then
      if n.isWhole then .ok (clamped n) else .error (illTyped [.integer] v)
    else
      match n with
      | .int k => if k < 0 then .error ⟨v, .belowMinimum (.int 0)⟩ else .ok (clamped n)
      | .float _ => .error (illTyped [.integer] v)
  | _ => .error (illTyped [.integer] v)

/-- A number of elements. A negative whole double counts as zero. -/
def count (v : Json) : Except Objection Nat :=
  match v with
  | .number (.int k) =>
    if k < 0 then .error ⟨v, .belowMinimum (.int 0)⟩ else .ok (clamped (.int k))
  | .number n => if n.isWhole then .ok (clamped n) else .error (illTyped [.integer] v)
  | _ => .error (illTyped [.integer] v)

def number : Json → Except Objection Json.Number
  | .number n => .ok n
  | v => .error (illTyped [.number] v)

def text : Json → Except Objection String
  | .string s => .ok s
  | v => .error (illTyped [.string] v)

def list : Json → Except Objection (List Json)
  | .array xs => .ok xs
  | v => .error (illTyped [.array] v)

/-- A list of keys. -/
def keys (v : Json) : Except Objection (List String) := do (← list v).mapM text

theorem keys_strings (names : List String) : keys (.array (names.map .string)) = .ok names := by
  have texts : (names.map Json.string).mapM text = Except.ok names := by
    induction names with
    | nil => rfl
    | cons name rest ih =>
        rw [List.map_cons, List.mapM_cons, ih]
        rfl
  exact texts

/-- Lists of keys without repetition, in a table. -/
def keyTable : Json → Except Objection (List (String × List String))
  | .object ms => ms.mapM fun (key, v) => do
    let xs ← list v
    if Json.allDistinct xs then return (key, ← xs.mapM text) else throw ⟨v, .repeatedItems⟩
  | v => .error (illTyped [.object] v)

/-- A type in a list of types. -/
def listedType (v : Json) : Except Objection TypeName := do
  match TypeName.ofName? (← text v) with
  | some t => return t
  | none => throw ⟨v, .notListed (TypeName.all.map fun t => .string t.name)⟩

/-- A type that stands alone. -/
def singleType (v : Json) : Except Objection TypeName := do
  match TypeName.ofName? (← text v) with
  | some t => return t
  | none => throw ⟨v, .unknownType⟩

/-- The types that a value of `type` names. -/
def types : Json → Except Objection (List TypeName)
  | .string name => return [← singleType (.string name)]
  | .array [v] => return [← singleType v]
  | .array vs => vs.mapM listedType
  | v => .error (illTyped [.array, .string] v)

/-- A pattern that texts can be searched for. -/
def pattern (v : Json) : Except Objection String := do
  let source ← text v
  if Pattern.isUsable source then return source else throw ⟨v, .wrongFormat Format.pattern.name⟩

end KeywordValue

end SliceContract
