import Mathlib.Data.List.Forall2
import Mathlib.Logic.Relation
import SliceContract.Proofs.Slice.Splicing

/-!
# The order of siblings

Siblings all judge the same value and none of them overrules another, even if they share a key. So
their order decides nothing but the order of the report, and a child that is given twice asks for
nothing new. The main statement is `isValid_rearranged`.
-/

namespace SliceContract

open Violation

/-! ## Relations between reports -/

/-- A relation between lists that still holds when lists are put one after another. -/
structure Concatenative {α : Type*} (r : List α → List α → Prop) : Prop where
  refl : ∀ xs, r xs xs
  append : ∀ {xs ys xs' ys'}, r xs ys → r xs' ys' → r (xs ++ xs') (ys ++ ys')

namespace Concatenative

variable {α β γ : Type*} {r : List α → List α → Prop}

/-- Related parts in the same order make related wholes. -/
theorem flatMap (hr : Concatenative r) {f : β → List α} {g : γ → List α} {xs : List β}
    {ys : List γ} (h : List.Forall₂ (fun x y => r (f x) (g y)) xs ys) :
    r (xs.flatMap f) (ys.flatMap g) := by
  induction h with
  | nil => exact hr.refl []
  | cons first _ ih =>
      rw [List.flatMap_cons, List.flatMap_cons]
      exact hr.append first ih

theorem flatMap_left (hr : Concatenative r) {f g : β → List α} (xs : List β)
    (h : ∀ x ∈ xs, r (f x) (g x)) : r (xs.flatMap f) (xs.flatMap g) := by
  apply hr.flatMap
  rw [List.forall₂_same]
  exact h

end Concatenative

theorem concatenative_perm {α : Type*} : Concatenative (List.Perm (α := α)) where
  refl := List.Perm.refl
  append := List.Perm.append

/-- Whether two lists have the same elements, however often. -/
def SameElements {α : Type*} (xs ys : List α) : Prop := ∀ x, x ∈ xs ↔ x ∈ ys

namespace SameElements

variable {α β : Type*}

theorem concatenative : Concatenative (SameElements (α := α)) where
  refl _ _ := Iff.rfl
  append h h' x := by rw [List.mem_append, List.mem_append, h x, h' x]

theorem trans {xs ys zs : List α} (h : SameElements xs ys) (h' : SameElements ys zs) :
    SameElements xs zs := fun x => (h x).trans (h' x)

theorem flatMap {xs ys : List α} (h : SameElements xs ys) (f : α → List β) :
    SameElements (xs.flatMap f) (ys.flatMap f) := by
  intro b
  rw [List.mem_flatMap, List.mem_flatMap]
  constructor
  · rintro ⟨x, hx, hb⟩
    exact ⟨x, (h x).mp hx, hb⟩
  · rintro ⟨x, hx, hb⟩
    exact ⟨x, (h x).mpr hx, hb⟩

theorem eq_nil_iff {xs ys : List α} (h : SameElements xs ys) : xs = [] ↔ ys = [] := by
  rw [List.eq_nil_iff_forall_not_mem, List.eq_nil_iff_forall_not_mem]
  exact forall_congr' fun x => not_congr (h x)

end SameElements

/-- The second list has one of the elements of the first once more, somewhere. -/
def Again {α : Type*} (xs ys : List α) : Prop :=
  ∃ x ∈ xs, ∃ before after, xs = before ++ after ∧ ys = before ++ x :: after

/-- Repeating an element adds no new ones. -/
theorem Again.sameElements {α : Type*} {xs ys : List α} (h : Again xs ys) :
    SameElements xs ys := by
  obtain ⟨x, hx, before, after, rfl, rfl⟩ := h
  intro y
  constructor
  · intro hy
    rcases List.mem_append.mp hy with hy | hy
    · exact List.mem_append_left _ hy
    · exact List.mem_append_right _ (List.mem_cons_of_mem _ hy)
  · intro hy
    rcases List.mem_append.mp hy with hy | hy
    · exact List.mem_append_left _ hy
    · rcases List.mem_cons.mp hy with rfl | hy
      · exact hx
      · exact List.mem_append_right _ hy

/-! ## Changes inside a slice -/

namespace Slice

variable {S : Type}

/-- A change of siblings: of the children of an object, or of the auxiliary fields of a multi
slice. -/
inductive Siblings (change : (α : Type) → List α → List α → Prop) : Slice S → Slice S → Prop
  | children {key : String} {children children' : NonEmpty (Slice S)}
      (h : change _ children.toList children'.toList) :
      Siblings change (object key children) (object key children')
  | others {main : Field S} {others others' : NonEmpty (String × S)}
      (h : change _ others.toList others'.toList) :
      Siblings change (multi main others) (multi main others')

/-- A step in one place of a slice, at any depth. -/
inductive Inside (step : Slice S → Slice S → Prop) : Slice S → Slice S → Prop
  | here {a b : Slice S} (h : step a b) : Inside step a b
  | element {key : String} {a b : Slice S} (h : Inside step a b) :
      Inside step (array key a) (array key b)
  | child {key : String} {children children' : NonEmpty (Slice S)} {before after : List (Slice S)}
      {a b : Slice S} (h : Inside step a b) (was : children.toList = before ++ a :: after)
      (becomes : children'.toList = before ++ b :: after) :
      Inside step (object key children) (object key children')

/-- Any number of changes of siblings, one after another, each in a place of its own. -/
def Rearranged (change : (α : Type) → List α → List α → Prop) : Slice S → Slice S → Prop :=
  Relation.ReflTransGen (Inside (Siblings change))

/-- The slice with siblings in another order. -/
def Reordered : Slice S → Slice S → Prop := Rearranged fun _ => List.Perm

/-- The slice with siblings given several times. -/
def Repeating : Slice S → Slice S → Prop := Rearranged fun _ => Again

/-! ### What the data fields keep -/

/-- A change among siblings keeps the data schemas, if it keeps the elements of lists. -/
theorem sameElements_schemas_siblings {change : (α : Type) → List α → List α → Prop}
    (kept : ∀ {α xs ys}, change α xs ys → SameElements xs ys) {a b : Slice S}
    (h : Siblings change a b) : SameElements a.schemas b.schemas := by
  cases h with
  | children h =>
      rw [schemas_object, schemas_object]
      exact (kept h).flatMap schemas
  | others h =>
      rw [schemas.eq_def, schemas.eq_def]
      apply SameElements.concatenative.append (SameElements.concatenative.refl _)
      rw [List.map_eq_flatMap, List.map_eq_flatMap]
      exact (kept h).flatMap _

theorem sameElements_schemas_inside {step : Slice S → Slice S → Prop}
    (kept : ∀ {a b}, step a b → SameElements a.schemas b.schemas) {a b : Slice S}
    (h : Inside step a b) : SameElements a.schemas b.schemas := by
  induction h with
  | here h => exact kept h
  | element _ ih => exact ih
  | @child key children children' before after a b _ was becomes ih =>
      rw [schemas_object, schemas_object, was, becomes]
      simp only [List.flatMap_append, List.flatMap_cons]
      have refl (xs : List S) : SameElements xs xs := SameElements.concatenative.refl xs
      exact SameElements.concatenative.append (refl _)
        (SameElements.concatenative.append ih (refl _))

theorem sameElements_schemas {change : (α : Type) → List α → List α → Prop}
    (kept : ∀ {α xs ys}, change α xs ys → SameElements xs ys) {a b : Slice S}
    (h : Rearranged change a b) : SameElements a.schemas b.schemas := by
  induction h with
  | refl => exact SameElements.concatenative.refl _
  | tail _ last ih =>
      exact ih.trans (sameElements_schemas_inside (sameElements_schemas_siblings kept) last)

/-! ### What the report keeps -/

section Reports

variable {r : List Content → List Content → Prop} {own : S → Json → List Failure}

/-- Whether the reports on two slices say related things about every value, at every place. -/
def ReportsAlike (r : List Content → List Content → Prop) (own : S → Json → List Failure)
    (a b : Slice S) : Prop :=
  ∀ place s s' v, r ((a.report own place s v).map content) ((b.report own place s' v).map content)

theorem ReportsAlike.refl (hr : Concatenative r) (a : Slice S) : ReportsAlike r own a a := by
  intro place s s' v
  rw [content_report own a place s s' v]
  exact hr.refl _

/-- Children whose reports are alike, one by one, make objects whose reports are alike. -/
theorem ReportsAlike.object (hr : Concatenative r) {children children' : NonEmpty (Slice S)}
    (h : List.Forall₂ (ReportsAlike r own) children.toList children'.toList) (key : String) :
    ReportsAlike r own (object key children) (object key children') := by
  intro place s s' v
  rw [content_object own key children place s s, content_object own key children' place s' s']
  apply content_keyed_rel hr.refl
  intro place s s' x
  rw [List.map_flatMap, List.map_flatMap]
  apply hr.flatMap
  exact h.imp fun a b hab => hab place s s' x

theorem ReportsAlike.array (hr : Concatenative r) {a b : Slice S} (h : ReportsAlike r own a b)
    (key : String) : ReportsAlike r own (array key a) (array key b) := by
  intro place s s' v
  rw [report_array, report_array]
  apply content_keyed_rel hr.refl
  intro place s s' x
  cases x with
  | array xs =>
      simp only [List.map_flatMap]
      exact hr.flatMap_left _ fun e _ => h _ _ _ e.1
  | _ => exact hr.refl _

/-- Siblings may be changed as their reports may be. -/
theorem ReportsAlike.siblings (hr : Concatenative r)
    {change : (α : Type) → List α → List α → Prop}
    (kept : ∀ {α xs ys}, change α xs ys → ∀ f : α → List Content,
      r (xs.flatMap f) (ys.flatMap f)) {a b : Slice S} (h : Siblings change a b) :
    ReportsAlike r own a b := by
  intro place s s' v
  cases h with
  | @children key children children' h =>
      rw [content_object own key children place s s, content_object own key children' place s' s]
      apply content_keyed_rel hr.refl
      intro place s s' x
      have place_only : (children'.toList.flatMap fun child =>
          (child.report own place s' x).map content) =
          children'.toList.flatMap fun child => (child.report own place s x).map content :=
        List.flatMap_congr fun child _ => content_report own child place s' s x
      rw [List.map_flatMap, List.map_flatMap, place_only]
      exact kept h _
  | @others main others others' h =>
      rw [content_multi own main others place s s, content_multi own main others' place s' s,
        List.flatMap_cons, List.flatMap_cons, auxiliary, auxiliary, List.flatMap_map,
        List.flatMap_map]
      exact hr.append (hr.refl _) (kept h _)

/-- A step that keeps reports alike keeps them alike wherever it is made. -/
theorem ReportsAlike.inside (hr : Concatenative r) {step : Slice S → Slice S → Prop}
    (kept : ∀ {a b}, step a b → ReportsAlike r own a b) {a b : Slice S} (h : Inside step a b) :
    ReportsAlike r own a b := by
  induction h with
  | here h => exact kept h
  | element _ ih => exact ih.array hr _
  | @child key children children' before after a b _ was becomes ih =>
      apply ReportsAlike.object hr
      rw [was, becomes]
      have same (slices : List (Slice S)) : List.Forall₂ (ReportsAlike r own) slices slices :=
        List.forall₂_same.mpr fun a _ => ReportsAlike.refl hr a
      exact List.rel_append (same before) (.cons ih (same after))

/-- Any number of changes keep the report, if one change keeps it. -/
theorem ReportsAlike.rearranged (hr : Concatenative r)
    (trans : ∀ {xs ys zs}, r xs ys → r ys zs → r xs zs)
    {change : (α : Type) → List α → List α → Prop}
    (kept : ∀ {α xs ys}, change α xs ys → ∀ f : α → List Content,
      r (xs.flatMap f) (ys.flatMap f)) {a b : Slice S} (h : Rearranged change a b) :
    ReportsAlike r own a b := by
  induction h with
  | refl => exact ReportsAlike.refl hr a
  | tail _ last ih =>
      have step : ReportsAlike r own _ _ := .inside hr (.siblings hr kept) last
      intro place s s' v
      exact trans (ih place s s v) (step place s s' v)

end Reports

end Slice

/-! ## Validators -/

namespace Validator

variable {slice slice' : Slice Schema} {o : Options}

/-- Slices with the same data schemas, all of them portable, compile together. -/
theorem exists_ofSlice_congr (portable : ∀ s ∈ slice.schemas, s.Portable o)
    (same : SameElements slice.schemas slice'.schemas) :
    (∃ w, ofSlice slice o = .ok w) ↔ ∃ w', ofSlice slice' o = .ok w' := by
  have portable' : ∀ s ∈ slice'.schemas, s.Portable o :=
    fun s hs => portable s ((same s).mpr hs)
  rw [ofSlice_iff portable, ofSlice_iff portable']
  constructor
  · intro h s hs
    exact h s ((same s).mpr hs)
  · intro h s hs
    exact h s ((same s).mp hs)

/-- Two compiled slices that report alike show related violations on all values. -/
theorem contents_of_reportsAlike {r : List Content → List Content → Prop}
    (portable : ∀ s ∈ slice.schemas, s.Portable o)
    (same : SameElements slice.schemas slice'.schemas)
    (alike : slice.ReportsAlike r (Schema.failures o) slice') {w w' : Validator}
    (h : ofSlice slice o = .ok w) (h' : ofSlice slice' o = .ok w') (v : Json) :
    ∃ vs vs', w.violations v = some vs ∧ w'.violations v = some vs' ∧
      r (vs.map content) (vs'.map content) := by
  have portable' : ∀ s ∈ slice'.schemas, s.Portable o :=
    fun s hs => portable s ((same s).mpr hs)
  exact ⟨_, _, violations_eq_report portable h v, violations_eq_report portable' h' v,
    alike "" "" "" v⟩

/-- Whether there is anything to report decides the verdict. -/
theorem isValid_eq_of_contents {w w' : Validator} {v : Json} {vs vs' : List Violation}
    (report : w.violations v = some vs) (report' : w'.violations v = some vs')
    (same : SameElements (vs.map content) (vs'.map content)) : w'.isValid v = w.isValid v := by
  have none : vs = [] ↔ vs' = [] := by
    rw [← List.map_eq_nil_iff (f := content), same.eq_nil_iff, List.map_eq_nil_iff]
  rw [isValid_of_violations report, isValid_of_violations report', Option.some.injEq,
    Bool.eq_iff_iff, List.isEmpty_iff, List.isEmpty_iff, none]

end Validator

/-- A slice of portable schemas compiles together with every slice that has its siblings in another
order, and with every slice that gives some of them again. In another order it accepts the same
values and reports the same violations, apart from their order and their places in the schema; with
siblings given again it accepts the same values. -/
theorem isValid_rearranged {slice : Slice Schema} {o : Options}
    (portable : ∀ s ∈ slice.schemas, s.Portable o) :
    (∀ slice', slice.Reordered slice' →
      ((∃ w, Validator.ofSlice slice o = .ok w) ↔ ∃ w', Validator.ofSlice slice' o = .ok w') ∧
      ∀ w w', Validator.ofSlice slice o = .ok w → Validator.ofSlice slice' o = .ok w' → ∀ v,
        w'.isValid v = w.isValid v ∧
          ∃ vs vs', w.violations v = some vs ∧ w'.violations v = some vs' ∧
            (vs.map content).Perm (vs'.map content)) ∧
    ∀ slice', slice.Repeating slice' →
      ((∃ w, Validator.ofSlice slice o = .ok w) ↔ ∃ w', Validator.ofSlice slice' o = .ok w') ∧
      ∀ w w', Validator.ofSlice slice o = .ok w → Validator.ofSlice slice' o = .ok w' → ∀ v,
        w'.isValid v = w.isValid v := by
  constructor
  · intro slice' reordered
    have same := Slice.sameElements_schemas (fun h x => h.mem_iff) reordered
    have alike : slice.ReportsAlike List.Perm (Schema.failures o) slice' :=
      .rearranged concatenative_perm List.Perm.trans (fun h f => h.flatMap_right f) reordered
    refine ⟨Validator.exists_ofSlice_congr portable same, fun w w' h h' v => ?_⟩
    obtain ⟨vs, vs', report, report', contents⟩ :=
      Validator.contents_of_reportsAlike portable same alike h h' v
    exact ⟨Validator.isValid_eq_of_contents report report' fun x => contents.mem_iff,
      vs, vs', report, report', contents⟩
  · intro slice' repeating
    have same := Slice.sameElements_schemas Again.sameElements repeating
    have alike : slice.ReportsAlike SameElements (Schema.failures o) slice' :=
      .rearranged SameElements.concatenative SameElements.trans
        (fun h f => h.sameElements.flatMap f) repeating
    refine ⟨Validator.exists_ofSlice_congr portable same, fun w w' h h' v => ?_⟩
    obtain ⟨vs, vs', report, report', contents⟩ :=
      Validator.contents_of_reportsAlike portable same alike h h' v
    exact Validator.isValid_eq_of_contents report report' contents

/-- Siblings that share keys, two levels of them. -/
def Slice.contested : Slice Schema :=
  .object "k" ⟨.textWith "x" ⟨("x", .integer), [("y", .any)]⟩,
    [.array "l" (.object "m" ⟨.text "a", [.data "a" .boolean]⟩)]⟩

/-- The same siblings in the opposite order, wherever there are siblings. -/
def Slice.contestedReversed : Slice Schema :=
  .object "k" ⟨.array "l" (.object "m" ⟨.data "a" .boolean, [.text "a"]⟩),
    [.textWith "x" ⟨("y", .any), [("x", .integer)]⟩]⟩

/-- The two slices differ only in the order of the children. -/
theorem Slice.reordered_contested : contested.Reordered contestedReversed := by
  let fields : Slice Schema := .textWith "x" ⟨("x", .integer), [("y", .any)]⟩
  let fields' : Slice Schema := .textWith "x" ⟨("y", .any), [("x", .integer)]⟩
  let child : Slice Schema := .object "m" ⟨.text "a", [.data "a" .boolean]⟩
  let child' : Slice Schema := .object "m" ⟨.data "a" .boolean, [.text "a"]⟩
  have outer : Inside (Siblings fun _ => List.Perm) contested
      (.object "k" ⟨.array "l" child, [fields]⟩) :=
    .here (.children (List.Perm.swap _ _ []))
  have inner : Inside (Siblings fun _ => List.Perm) child child' :=
    .here (.children (List.Perm.swap _ _ []))
  have auxiliary : Inside (Siblings fun _ => List.Perm) fields fields' :=
    .here (.others (List.Perm.swap _ _ []))
  have first : Inside (Siblings fun _ => List.Perm) (.object "k" ⟨.array "l" child, [fields]⟩)
      (.object "k" ⟨.array "l" child', [fields]⟩) :=
    .child inner.element (List.nil_append _).symm (List.nil_append _).symm
  have second : Inside (Siblings fun _ => List.Perm) (.object "k" ⟨.array "l" child', [fields]⟩)
      contestedReversed :=
    .child auxiliary (List.singleton_append).symm (List.singleton_append).symm
  exact ((Relation.ReflTransGen.single outer).tail first).tail second

theorem Slice.portable_contested : ∀ s ∈ contested.schemas, s.Portable .standard := by
  have schemas : contested.schemas = [Schema.integer, Schema.any, Schema.boolean] := rfl
  rw [schemas]
  intro s hs
  simp only [List.mem_cons, List.not_mem_nil, or_false] at hs
  rcases hs with rfl | rfl | rfl <;> exact Schema.portable_of_keys rfl (by decide)

/-- The same violations are reported in another order, and asking for all fields of the multi slice
twice changes no verdict. -/
theorem isValid_rearranged_contested :
    (∃ w vs, Validator.ofSlice Slice.contestedReversed .standard = .ok w ∧
      w.violations (.object [("k", .object [("l", .array [.object [("m", .null)]]),
          ("x", .int 1)])]) = some vs ∧
      ([("/k/x", some "x", "1 is not of type \"string\""),
        ("/k", some "y", "\"y\" is a required property"),
        ("/k/l/0/m", some "m", "null is not of type \"object\""),
        ("/k/l/0/m", some "m", "null is not of type \"object\"")] :
          List Content).Perm (vs.map content)) ∧
    ∃ w, Validator.ofSlice (.object "k" ⟨.text "a", [.text "b", .text "a"]⟩) .standard = .ok w ∧
      w.isValid (.object [("k", .object [("a", .string ""), ("b", .string "")])]) = some true := by
  constructor
  · let w : Validator := ⟨⟨(Schema.ofSlice Slice.contested).document, .standard⟩⟩
    have compiled : Validator.ofSlice Slice.contested .standard = .ok w := by
      decide +kernel
    obtain ⟨together, same⟩ :=
      (isValid_rearranged Slice.portable_contested).1 _ Slice.reordered_contested
    obtain ⟨w', compiled'⟩ := together.mp ⟨w, compiled⟩
    let v : Json := .object [("k", .object [("l", .array [.object [("m", .null)]]),
      ("x", .int 1)])]
    obtain ⟨-, vs, vs', report, report', contents⟩ := same w w' compiled compiled' v
    have known : (w.violations v).map (·.map content) =
        some [("/k/x", some "x", "1 is not of type \"string\""),
          ("/k", some "y", "\"y\" is a required property"),
          ("/k/l/0/m", some "m", "null is not of type \"object\""),
          ("/k/l/0/m", some "m", "null is not of type \"object\"")] := by
      decide +kernel
    rw [report, Option.map_some, Option.some.injEq] at known
    rw [known] at contents
    exact ⟨w', vs', compiled', report', contents⟩
  · let slice : Slice Schema := .object "k" ⟨.text "a", [.text "b"]⟩
    let w : Validator := ⟨⟨(Schema.ofSlice slice).document, .standard⟩⟩
    have compiled : Validator.ofSlice slice .standard = .ok w := by
      decide +kernel
    have portable : ∀ s ∈ slice.schemas, s.Portable .standard := nofun
    have repeating : slice.Repeating (.object "k" ⟨.text "a", [.text "b", .text "a"]⟩) :=
      .single (.here (.children ⟨.text "a", List.mem_cons_self, [.text "a", .text "b"], [],
        rfl, rfl⟩))
    obtain ⟨together, same⟩ := (isValid_rearranged portable).2 _ repeating
    obtain ⟨w', compiled'⟩ := together.mp ⟨w, compiled⟩
    refine ⟨w', compiled', ?_⟩
    rw [same w w' compiled compiled']
    decide +kernel

/-- A text and data beside it that must not look like the first branch of the member. -/
def Slice.lookingAhead : Slice Schema :=
  .object "o" ⟨.text "a", [.data "b" (.refusing "#/properties/o/allOf/0")]⟩

/-- In the opposite order the first branch is the data itself, and what looks like the text is
accepted. -/
theorem isValid_reordered_ne_lookingAhead :
    (∀ s ∈ Slice.lookingAhead.schemas, "$ref" ∉ s.document.keys) ∧
      ∃ slice', Slice.lookingAhead.Reordered slice' ∧
        ∃ w w', Validator.ofSlice Slice.lookingAhead .standard = .ok w ∧
          Validator.ofSlice slice' .standard = .ok w' ∧
          w.isValid (.object [("o", .object [("a", .string "x"),
              ("b", .object [("a", .string "y")])])]) = some false ∧
            w'.isValid (.object [("o", .object [("a", .string "x"),
              ("b", .object [("a", .string "y")])])]) = some true := by
  let slice' : Slice Schema :=
    .object "o" ⟨.data "b" (.refusing "#/properties/o/allOf/0"), [.text "a"]⟩
  have compiled : Validator.ofSlice Slice.lookingAhead .standard =
      .ok ⟨⟨(Schema.ofSlice Slice.lookingAhead).document, .standard⟩⟩ := by
    decide +kernel
  have compiled' : Validator.ofSlice slice' .standard =
      .ok ⟨⟨(Schema.ofSlice slice').document, .standard⟩⟩ := by
    decide +kernel
  have schemas : Slice.lookingAhead.schemas = [.refusing "#/properties/o/allOf/0"] := rfl
  refine ⟨?_, slice', .single (.here (.children (List.Perm.swap _ _ []))), _, _, compiled,
    compiled', ?_, ?_⟩
  · rw [schemas]
    decide
  · exact Compiled.accepts_of_within (n := 2) (by decide +kernel)
  · exact Compiled.accepts_of_within (n := 2) (by decide +kernel)

end SliceContract
