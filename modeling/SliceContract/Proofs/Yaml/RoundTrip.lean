import SliceContract.Proofs.Answers
import SliceContract.Proofs.Json.Places
import SliceContract.Proofs.Json.Depth
import SliceContract.Proofs.Yaml.Merging

/-!
# Values written as trees

A JSON value that is written as a YAML tree, part by part and without tags, is loaded as itself.
The main statement is `fromTree_ofJson`.
-/

namespace SliceContract

namespace Yaml

/-! ## Trees without merge keys -/

namespace Merge

variable {ms : List (Yaml × Yaml)}

/-- Whether there is nothing to merge. -/
def NoMergeKey (ms : List (Yaml × Yaml)) : Prop := ∀ e ∈ ms, isMergeKey e.1 = false

/-- Without a merge key there are no sources. -/
theorem mergeSources_of_noMergeKey (h : NoMergeKey ms) : mergeSources ms = .ok [] := by
  induction ms with
  | nil => rw [mergeSources]
  | cons e rest ih =>
      obtain ⟨first, others⟩ := List.forall_mem_cons.mp h
      unfold mergeSources
      rw [first, if_neg Bool.false_ne_true, ih others]

theorem withoutKey_of_noMergeKey (h : NoMergeKey ms) : withoutKey ms = ms := by
  have free : ∀ e ∈ ms, (!isMergeKey e.1) = true := fun e he => by rw [h e he, Bool.not_false]
  rw [withoutKey, List.takeWhile_eq_self_iff.mpr free, List.dropWhile_eq_nil_iff.mpr free]

theorem finishItems_map_ok (xs : List Yaml) : finishItems (xs.map .ok) = .ok xs := by
  induction xs with
  | nil => rfl
  | cons x rest ih =>
      rw [List.map_cons, finishItems, ih]
      rfl

theorem finishEntries_mapValues_ok (ms : List (Yaml × Yaml)) :
    finishEntries (mapValues .ok ms) = .ok ms := by
  induction ms with
  | nil => rfl
  | cons e rest ih =>
      rw [mapValues, List.map_cons, ← mapValues, Prod.map_def, finishEntries, ih]
      rfl

end Merge

open Merge

/-- Merging leaves a tree without merge keys as it is. -/
theorem resolveMerges_eq_self {tree : Yaml} (h : tree.EveryMapping NoMergeKey) :
    resolveMerges tree = .ok tree := by
  induction tree using induction with
  | null | bool | number | string => rw [resolveMerges]
  | sequence xs ih =>
      have items : resolveItems xs = xs.map .ok := by
        rw [resolveItems_eq]
        exact List.map_congr_left fun x hx => ih x hx (everyMapping_sequence.mp h x hx)
      rw [resolveMerges, items, finishItems_map_ok]
      rfl
  | mapping ms _ ih =>
      obtain ⟨own, others⟩ := everyMapping_mapping.mp h
      have entries : resolveEntries ms = mapValues .ok ms := by
        rw [resolveEntries_eq]
        exact List.map_congr_left fun e he => Prod.ext rfl (ih e he (others e he))
      have combined : combine (mapValues Except.ok ms) [] =
          mapValues (Except.ok : Yaml → Except MergeError Yaml) ms := by
        rw [combine, withoutKey_mapValues, withoutKey_of_noMergeKey own]
        rfl
      rw [resolveMerges, mergeSources_of_noMergeKey own, entries]
      simp only [bind, Except.bind, combined, finishEntries_mapValues_ok]
      rfl
  | tagged tag x ih =>
      rw [resolveMerges, ih (everyMapping_tagged.mp h)]
      rfl

/-! ## Trees of values -/

/-- The tree that has the shape of a value. -/
def ofJson : Json → Yaml
  | .null => .null
  | .bool b => .bool b
  | .number (.int n) => .number (.int n)
  | .number (.float x) => .number (.float x)
  | .string s => .string s
  | .array xs => .sequence (items xs)
  | .object ms => .mapping (entries ms)
where
  items : List Json → List Yaml
    | [] => []
    | x :: rest => ofJson x :: items rest
  entries : List (String × Json) → List (Yaml × Yaml)
    | [] => []
    | (key, x) :: rest => (.string key, ofJson x) :: entries rest

theorem ofJson_array (xs : List Json) : ofJson (.array xs) = .sequence (xs.map ofJson) := by
  have items : ofJson.items xs = xs.map ofJson := by
    induction xs with
    | nil => rfl
    | cons x rest ih => rw [ofJson.items, ih, List.map_cons]
  rw [ofJson, items]

theorem ofJson_object (ms : Entries Json) :
    ofJson (.object ms) = .mapping (ms.map fun m => (.string m.1, ofJson m.2)) := by
  have entries : ofJson.entries ms = ms.map fun m => (.string m.1, ofJson m.2) := by
    induction ms with
    | nil => rfl
    | cons m rest ih => rw [ofJson.entries, ih, List.map_cons]
  rw [ofJson, entries]

/-- An integer that fits into 64 bits, signed or not, is kept. -/
theorem toJson?_int {n : ℤ} (h : Int64.minValue.toInt ≤ n ∧ n < UInt64.size) :
    (Number.int n).toJson? = some (.number (.int n)) := by
  by_cases signed : n ≤ Int64.maxValue.toInt
  · rw [Number.toJson?, Number.signed?, if_pos ⟨h.1, signed⟩]
  · have positive : 0 ≤ n := by
      rw [Int64.toInt_maxValue] at signed
      omega
    rw [Number.toJson?, Number.signed?, if_neg fun both => signed both.2, Number.unsigned?,
      if_pos ⟨positive, h.2⟩]

theorem toJson?_float (x : Binary64) : (Number.float x).toJson? = some (.number (.float x)) := rfl

theorem items_map_ofJson {xs : List Json} (h : ∀ x ∈ xs, ∀ keys, toJson keys (ofJson x) = .ok x)
    (keys : Keys) (i : ℕ) : toJson.items keys i (xs.map ofJson) = .ok xs := by
  induction xs generalizing i with
  | nil => rfl
  | cons x rest ih =>
      obtain ⟨first, others⟩ := List.forall_mem_cons.mp h
      rw [List.map_cons, toJson.items, first, ih others]
      rfl

theorem members_map_ofJson {ms : Entries Json}
    (h : ∀ m ∈ ms, ∀ keys, toJson keys (ofJson m.2) = .ok m.2) (keys : Keys) :
    toJson.members keys (ms.map fun m => (.string m.1, ofJson m.2)) = .ok ms := by
  induction ms with
  | nil => rfl
  | cons m rest ih =>
      obtain ⟨first, others⟩ := List.forall_mem_cons.mp h
      rw [List.map_cons, toJson.members, keyText?]
      dsimp only
      rw [first, ih others]
      rfl

/-- A value that is written as a tree is converted back to itself. -/
theorem toJson_ofJson {v : Json} (formed : v.WellFormed) (fits : v.Everywhere Json.Fits64)
    (keys : Keys) : toJson keys (ofJson v) = .ok v := by
  induction v using Json.depth_induction generalizing keys with
  | step v ih =>
  cases v with
  | null | bool | string => rw [ofJson, toJson]
  | number n =>
      cases n with
      | int n => rw [ofJson, toJson, toJson?_int ((Json.everywhere_number _).mp fits n rfl)]
      | float x => rw [ofJson, toJson, toJson?_float]
  | array xs =>
      rw [ofJson_array, toJson, items_map_ofJson fun x hx keys => ?_]
      · rfl
      · exact ih x (Json.depth_lt_of_mem_array hx) ((Json.wellFormed_array xs).mp formed x hx)
          ((Json.everywhere_array.mp fits).2 x hx) keys
  | object ms =>
      obtain ⟨ordered, members⟩ := (Json.wellFormed_object ms).mp formed
      rw [ofJson_object, toJson, members_map_ofJson fun m hm keys => ?_]
      · exact congrArg (fun os => Converted.ok (Json.object os)) (Entries.ofList_eq_self ordered)
      · exact ih m.2 (Json.depth_lt_of_mem_object hm) (members m hm)
          (((Json.everywhere_object ordered).mp fits).2 m hm) keys

/-- The tree of a value has a merge key where the value has a member of that name. -/
theorem noMergeKey_ofJson {v : Json} (formed : v.WellFormed)
    (none : v.Everywhere fun x => x.get? "<<" = none) : (ofJson v).EveryMapping NoMergeKey := by
  induction v using Json.depth_induction with
  | step v ih =>
  cases v with
  | null | bool | string => simp [ofJson]
  | number n => cases n <;> simp [ofJson]
  | array xs =>
      rw [ofJson_array, everyMapping_sequence, List.forall_mem_map]
      exact fun x hx => ih x (Json.depth_lt_of_mem_array hx)
        ((Json.wellFormed_array xs).mp formed x hx) ((Json.everywhere_array.mp none).2 x hx)
  | object ms =>
      obtain ⟨ordered, members⟩ := (Json.wellFormed_object ms).mp formed
      obtain ⟨absent, inside⟩ := (Json.everywhere_object ordered).mp none
      rw [ofJson_object, everyMapping_mapping, NoMergeKey, List.forall_mem_map,
        List.forall_mem_map]
      constructor
      · intro m hm
        rw [isMergeKey, decide_eq_false_iff_not]
        intro key
        rw [Json.get?_object] at absent
        cases absent.symm.trans (key ▸ Entries.lookup_of_mem ordered hm)
      · intro m hm
        exact ih m.2 (Json.depth_lt_of_mem_object hm) (members m hm) (inside m hm)

end Yaml

open Yaml

/-- A value whose whole numbers have 64 bits, and that has no member `<<`, is loaded from its tree
as it is, and judged as it is. -/
theorem fromTree_ofJson {v : Json} (formed : v.WellFormed) (fits : v.Everywhere Json.Fits64)
    (none : v.Everywhere fun x => x.get? "<<" = none) :
    Loading.fromTree (ofJson v) = ([], .ok v) ∧
      ∀ w : Validator, w.validateLoaded (Loading.fromTree (ofJson v)).2 =
        (w.validate v).map fun answer => answer.map fun _ => v := by
  have loaded : Loading.fromTree (ofJson v) = ([], .ok v) := by
    rw [Loading.fromTree, resolveMerges_eq_self (noMergeKey_ofJson formed none)]
    dsimp only
    rw [toJson_ofJson formed fits]
    rfl
  refine ⟨loaded, fun w => ?_⟩
  rw [loaded]
  rfl

/-- The least and the greatest whole number of 64 bits, a whole double, and the negative zero. -/
def Json.extremes : Json :=
  .object
    [("doubles", .object
        [("one", .number (.float (Binary64.ofInt 1))),
          ("zero", .number (.float (Binary64.zero true)))]),
      ("texts", .array [.string "<<", .bool true, .null]),
      ("whole", .array [int (-9223372036854775808), int 18446744073709551615])]

/-- The greatest and least integers and a negative zero come back as they were. -/
theorem fromTree_extremes : Json.extremes.WellFormed ∧ Json.extremes.Everywhere Json.Fits64 ∧
    (Json.extremes.Everywhere fun x => x.get? "<<" = none) ∧
    Loading.fromTree (ofJson Json.extremes) = ([], .ok Json.extremes) := by
  have formed : Json.extremes.WellFormed := by
    simp [Json.extremes, Json.int, Json.WellFormed, Json.WellFormed.items, Json.WellFormed.members]
    decide
  have fits : Json.extremes.Everywhere Json.Fits64 := by
    simp (disch := decide) [Json.extremes, Json.everywhere_object, Json.Fits64, Json.int]
  have none : Json.extremes.Everywhere fun x => x.get? "<<" = none := by
    simp (disch := decide) [Json.extremes, Json.everywhere_object, Json.int]
    decide
  exact ⟨formed, fits, none, (fromTree_ofJson formed fits none).1⟩

end SliceContract
