import SliceContract.JsonSchema.Reference
import SliceContract.Proofs.Json.WellFormed
import SliceContract.Proofs.Location

/-!
# Places inside a value, and the pointers to them

A location leads to a part of a value one step at a time. Its pointer, a text that no longer says
which steps were members and which were elements, leads to the same part when it is read against
the value. The main statement is `Json.pointed?_render`.
-/

namespace SliceContract

/-- In ordered entries every entry is the one that is found at its key. -/
theorem Entries.lookup_of_mem {α : Type*} {entries : Entries α} (h : entries.Ordered)
    {entry : String × α} (mem : entry ∈ entries) : entries.lookup entry.1 = some entry.2 := by
  induction entries with
  | nil => cases mem
  | cons first rest ih =>
      obtain ⟨below, hrest⟩ := List.pairwise_cons.mp h
      rw [Entries.lookup_cons]
      rcases List.mem_cons.mp mem with rfl | mem
      · rw [if_pos rfl]
      · have apart : entry.1 ≠ first.1 := fun same =>
          String.lt_irrefl first.1 (same ▸ below entry mem)
        rw [if_neg apart]
        exact ih hrest mem

namespace Json

/-! ## Following steps -/

@[simp] theorem at?_nil (v : Json) : v.at? [] = some v := by
  rw [at?]

@[simp] theorem at?_member (ms : Entries Json) (key : String) (rest : Location) :
    (object ms).at? (.member key :: rest) = (ms.lookup key).bind fun x => x.at? rest := by
  rw [at?]

@[simp] theorem at?_element (xs : List Json) (i : Nat) (rest : Location) :
    (array xs).at? (.element i :: rest) = xs[i]?.bind fun x => x.at? rest := by
  rw [at?]

/-- Following one location after another is following the one that they make together. -/
theorem at?_append (v : Json) (l l' : Location) :
    v.at? (l ++ l') = (v.at? l).bind fun x => x.at? l' := by
  induction l generalizing v with
  | nil => rfl
  | cons step rest ih =>
      cases step with
      | member key =>
          cases v with
          | object ms => simp only [List.cons_append, at?_member, Option.bind_assoc, ih]
          | _ => rfl
      | element i =>
          cases v with
          | array xs => simp only [List.cons_append, at?_element, Option.bind_assoc, ih]
          | _ => rfl

theorem wellFormed_of_mem_members {v : Json} (h : v.WellFormed) {m : String × Json}
    (hm : m ∈ v.members) : m.2.WellFormed := by
  cases v with
  | object ms => exact ((wellFormed_object ms).mp h).2 m hm
  | _ => cases hm

/-- In a well-formed value a key leads to its only member. -/
theorem at?_of_mem_members {v : Json} (h : v.WellFormed) {m : String × Json}
    (hm : m ∈ v.members) : v.at? [.member m.1] = some m.2 := by
  cases v with
  | object ms =>
      rw [at?_member, Entries.lookup_of_mem ((wellFormed_object ms).mp h).1 hm]
      rfl
  | _ => cases hm

theorem at?_of_getElem? {xs : List Json} {i : Nat} {x : Json} (h : xs[i]? = some x) :
    (array xs).at? [.element i] = some x := by
  rw [at?_element, h]
  rfl

/-- Nothing is inside a text. -/
theorem at?_string {s : String} {l : Location} {x : Json} (h : (string s).at? l = some x) :
    l = [] ∧ x = string s := by
  cases l with
  | nil => exact ⟨rfl, (Option.some.inj h).symm⟩
  | cons step rest => cases step <;> cases h

/-! ## All parts -/

/-- Whether something is true of all parts of a value. -/
def Everywhere (p : Json → Prop) (v : Json) : Prop := ∀ l x, v.at? l = some x → p x

section Everywhere

variable {p : Json → Prop}

/-- A value without parts has a property everywhere if it has it itself. -/
theorem everywhere_of_leaf {v : Json} (leaf : ∀ step rest, v.at? (step :: rest) = none) :
    v.Everywhere p ↔ p v := by
  constructor
  · exact fun h => h [] v (at?_nil v)
  · intro h l x part
    cases l with
    | nil => exact Option.some.inj part ▸ h
    | cons step rest => cases (leaf step rest).symm.trans part

@[simp] theorem everywhere_null : null.Everywhere p ↔ p null :=
  everywhere_of_leaf fun step _ => by cases step <;> rfl

@[simp] theorem everywhere_bool (b : Bool) : (bool b).Everywhere p ↔ p (bool b) :=
  everywhere_of_leaf fun step _ => by cases step <;> rfl

@[simp] theorem everywhere_number (n : Number) : (number n).Everywhere p ↔ p (number n) :=
  everywhere_of_leaf fun step _ => by cases step <;> rfl

@[simp] theorem everywhere_string (s : String) : (string s).Everywhere p ↔ p (string s) :=
  everywhere_of_leaf fun step _ => by cases step <;> rfl

@[simp] theorem everywhere_array {xs : List Json} :
    (array xs).Everywhere p ↔ p (array xs) ∧ ∀ x ∈ xs, x.Everywhere p := by
  constructor
  · refine fun h => ⟨h [] _ (at?_nil _), fun x hx l y part => ?_⟩
    obtain ⟨i, at?⟩ := List.mem_iff_getElem?.mp hx
    exact h (.element i :: l) y (by rw [at?_element, at?, Option.bind_some, part])
  · rintro ⟨own, h⟩ l y part
    match l with
    | [] => exact Option.some.inj part ▸ own
    | .member key :: rest => cases part
    | .element i :: rest =>
        rw [at?_element] at part
        obtain ⟨x, at?, part⟩ := Option.bind_eq_some_iff.mp part
        exact h x (List.mem_of_getElem? at?) rest y part

theorem everywhere_object {ms : Entries Json} (ordered : ms.Ordered) :
    (object ms).Everywhere p ↔ p (object ms) ∧ ∀ m ∈ ms, m.2.Everywhere p := by
  constructor
  · refine fun h => ⟨h [] _ (at?_nil _), fun m hm l y part => ?_⟩
    refine h (.member m.1 :: l) y ?_
    rw [at?_member, Entries.lookup_of_mem ordered hm, Option.bind_some, part]
  · rintro ⟨own, h⟩ l y part
    match l with
    | [] => exact Option.some.inj part ▸ own
    | .element i :: rest => cases part
    | .member key :: rest =>
        rw [at?_member] at part
        obtain ⟨x, found, part⟩ := Option.bind_eq_some_iff.mp part
        exact h (key, x) (Entries.mem_of_lookup found) rest y part

end Everywhere

/-- Whether a value, if it is a whole number, takes no more than 64 bits with or without a sign. -/
def Fits64 (v : Json) : Prop :=
  ∀ n, v = .number (.int n) → Int64.minValue.toInt ≤ n ∧ n < UInt64.size

/-! ## Values that can be held -/

/-- Whether a value is well-formed and something is true of all its parts. -/
structure Throughout (p : Json → Prop) (v : Json) : Prop where
  formed : v.WellFormed
  parts : v.Everywhere p

section Throughout

variable {p : Json → Prop}

theorem throughout_array {xs : List Json} (own : p (array xs)) (h : ∀ x ∈ xs, x.Throughout p) :
    (array xs).Throughout p where
  formed := (wellFormed_array xs).mpr fun x hx => (h x hx).formed
  parts := everywhere_array.mpr ⟨own, fun x hx => (h x hx).parts⟩

theorem throughout_object {ms : Entries Json} (ordered : ms.Ordered) (own : p (object ms))
    (h : ∀ m ∈ ms, m.2.Throughout p) : (object ms).Throughout p where
  formed := (wellFormed_object ms).mpr ⟨ordered, fun m hm => (h m hm).formed⟩
  parts := (everywhere_object ordered).mpr ⟨own, fun m hm => (h m hm).parts⟩

end Throughout

/-- Whether a value can be held as a document: its members are in order, and its whole numbers have
64 bits, with or without a sign. -/
def Storable (v : Json) : Prop := v.Throughout Fits64

theorem storable_string (s : String) : (string s).Storable :=
  ⟨wellFormed_string s, (everywhere_string s).mpr nofun⟩

theorem storable_array {xs : List Json} (h : ∀ x ∈ xs, x.Storable) : (array xs).Storable :=
  throughout_array nofun h

/-- An object can be held if its keys are in order and its members can be held. -/
theorem storable_object {ms : Entries Json} (ordered : ms.Ordered)
    (h : ∀ m ∈ ms, m.2.Storable) : (object ms).Storable :=
  throughout_object ordered nofun h

end Json

/-! ## Reading a pointer against a value -/

namespace Pointer

/-- The tokens of a pointer. A text that is not empty is a pointer only if it starts with a
slash. -/
def tokens? (pointer : String) : Option (List (List Char)) :=
  match pointer.toList with
  | [] => some []
  | '/' :: rest => some ((segments rest).map unescape)
  | _ => none

/-- The position that a token names: decimal digits, the first of them no zero unless it is the
only one. -/
def position? (token : List Char) : Option Nat :=
  let index := Nat.ofDigitChars 10 token 0
  if Nat.toDigits 10 index = token then some index else none

/-- A rendered pointer is read back as the tokens of its steps. -/
theorem tokens?_render (l : Location) : tokens? (render l) = some (l.map token) := by
  cases l with
  | nil => rfl
  | cons step rest =>
      have pieces := segments_text (step :: rest)
      rw [text_cons, segments, ← List.nil_append ('/' :: _), List.splitOn_append_cons_self,
        List.splitOn_nil, List.singleton_append, List.cons.injEq] at pieces
      rw [tokens?, toList_render, text_cons]
      simp only [segments, pieces.2, List.map_map]
      refine congrArg some (List.map_congr_left fun step _ => ?_)
      exact unescape_escape (token step)

theorem position?_element (i : Nat) : position? (token (.element i)) = some i := by
  have index : Nat.ofDigitChars 10 (Nat.toDigits 10 i) 0 = i :=
    Nat.ofDigitChars_ten_toDigits
  simp only [position?, token, index, if_true]

end Pointer

namespace Json

/-- The part of a value that a token names. -/
def child? (v : Json) (token : List Char) : Option Json :=
  match v with
  | .array xs => (Pointer.position? token).bind fun i => xs[i]?
  | .object ms => ms.lookup (String.ofList token)
  | _ => none

/-- The part of a value that a pointer leads to. -/
def pointed? (v : Json) (pointer : String) : Option Json :=
  (Pointer.tokens? pointer).bind fun tokens => tokens.foldlM child? v

/-- A pointer leads where its location leads. -/
theorem pointed?_render {v x : Json} {l : Location} (h : v.at? l = some x) :
    v.pointed? (Pointer.render l) = some x := by
  rw [pointed?, Pointer.tokens?_render, Option.bind_some]
  induction l generalizing v with
  | nil => exact h
  | cons step rest ih =>
      rw [List.map_cons, List.foldlM_cons]
      cases step with
      | member key =>
          cases v with
          | object ms =>
              rw [at?_member] at h
              obtain ⟨y, hy, h⟩ := Option.bind_eq_some_iff.mp h
              have found : (object ms).child? (Pointer.token (.member key)) = some y := by
                rw [child?, Pointer.token, String.ofList_toList, hy]
              rw [found]
              exact ih h
          | _ => cases h
      | element i =>
          cases v with
          | array xs =>
              rw [at?_element] at h
              obtain ⟨y, hy, h⟩ := Option.bind_eq_some_iff.mp h
              have found : (array xs).child? (Pointer.token (.element i)) = some y := by
                rw [child?, Pointer.position?_element, Option.bind_some, hy]
              rw [found]
              exact ih h
          | _ => cases h

end Json

end SliceContract
