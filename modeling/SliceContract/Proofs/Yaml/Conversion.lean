import Mathlib.Data.List.Forall2
import SliceContract.Proofs.Entries
import SliceContract.Yaml.Conversion

/-!
# What a YAML tree becomes

A tree becomes a value part by part. The value has all that the tree has if and only if no two keys
of one mapping have the same text. The main statement is `heldIn_iff_textsApart`.
-/

namespace SliceContract

theorem exists_mem_of_forall₂ {α β : Type*} {r : α → β → Prop} {xs : List α} {ys : List β}
    (h : List.Forall₂ r xs ys) {x : α} (hx : x ∈ xs) : ∃ y ∈ ys, r x y := by
  induction h with
  | nil => cases hx
  | cons first _ ih =>
      rcases List.mem_cons.mp hx with rfl | hx
      · exact ⟨_, List.mem_cons_self, first⟩
      · obtain ⟨y, hy, hr⟩ := ih hx
        exact ⟨y, List.mem_cons_of_mem _ hy, hr⟩

theorem forall₂_trans {α β γ : Type*} {r : α → β → Prop} {s : β → γ → Prop} {t : α → γ → Prop}
    (rst : ∀ a b c, r a b → s b c → t a c) {xs : List α} {ys : List β} {zs : List γ}
    (hr : List.Forall₂ r xs ys) (hs : List.Forall₂ s ys zs) : List.Forall₂ t xs zs := by
  induction hr generalizing zs with
  | nil => cases hs; exact .nil
  | cons first _ ih =>
      cases hs with
      | cons next rest => exact .cons (rst _ _ _ first next) (ih rest)

/-- What is related to a list that is split can be split likewise. -/
theorem forall₂_append_cons {α β : Type*} {r : α → β → Prop} {xs : List α} {before after : List β}
    {y : β} (h : List.Forall₂ r xs (before ++ y :: after)) :
    ∃ before' x after', xs = before' ++ x :: after' ∧ r x y ∧ List.Forall₂ r after' after := by
  induction before generalizing xs with
  | nil =>
      obtain ⟨x, after', first, rest, rfl⟩ := List.forall₂_cons_right_iff.mp h
      exact ⟨[], x, after', rfl, first, rest⟩
  | cons z before ih =>
      obtain ⟨x', rest', first, rest, rfl⟩ := List.forall₂_cons_right_iff.mp h
      obtain ⟨before', x, after', rfl, related, others⟩ := ih rest
      exact ⟨x' :: before', x, after', rfl, related, others⟩

namespace Yaml

/-! ## Converted parts -/

namespace Converted

variable {α β : Type}

theorem result_bind (c : Converted α) (f : α → Converted β) :
    (c >>= f).result = c.result.bind fun a => (f a).result := by
  obtain ⟨dropped, result⟩ := c
  cases result <;> rfl

theorem exists_of_result_bind {c : Converted α} {f : α → Converted β} {b : β}
    (h : (c >>= f).result = .ok b) : ∃ a, c.result = .ok a ∧ (f a).result = .ok b := by
  rw [result_bind] at h
  cases result : c.result with
  | error e => rw [result] at h; cases h
  | ok a =>
      rw [result] at h
      exact ⟨a, rfl, h⟩

end Converted

/-- Whether a value is what a tree becomes, at some place. -/
def Becomes (tree : Yaml) (v : Json) : Prop := ∃ keys, (toJson keys tree).result = .ok v

/-- Whether a member is what an entry becomes. -/
def EntryBecomes (entry : Yaml × Yaml) (member : String × Json) : Prop :=
  keyText? entry.1 = some member.1 ∧ entry.2.Becomes member.2

/-- The elements of a sequence become those of an array, one by one. -/
theorem forall₂_items {keys : Keys} {i : Nat} {xs : List Yaml} {vs : List Json}
    (h : (toJson.items keys i xs).result = .ok vs) : List.Forall₂ Becomes xs vs := by
  induction xs generalizing i vs with
  | nil =>
      cases h
      exact .nil
  | cons x rest ih =>
      rw [toJson.items] at h
      obtain ⟨v, hx, h⟩ := Converted.exists_of_result_bind h
      obtain ⟨more, hrest, same⟩ := Converted.exists_of_result_bind h
      cases same
      exact .cons ⟨_, hx⟩ (ih hrest)

/-- The entries of a mapping become members, one by one. -/
theorem forall₂_members {keys : Keys} {ms : List (Yaml × Yaml)} {ps : List (String × Json)}
    (h : (toJson.members keys ms).result = .ok ps) : List.Forall₂ EntryBecomes ms ps := by
  induction ms generalizing ps with
  | nil =>
      cases h
      exact .nil
  | cons entry rest ih =>
      obtain ⟨key, x⟩ := entry
      rw [toJson.members] at h
      cases hkey : keyText? key with
      | none => rw [hkey] at h; cases h
      | some text =>
          rw [hkey] at h
          obtain ⟨v, hx, h⟩ := Converted.exists_of_result_bind h
          obtain ⟨more, hrest, same⟩ := Converted.exists_of_result_bind h
          cases same
          exact .cons ⟨hkey, _, hx⟩ (ih hrest)

theorem Becomes.number {n : Number} {v : Json} (h : (number n).Becomes v) :
    n.toJson? = some v := by
  obtain ⟨keys, h⟩ := h
  rw [toJson] at h
  cases hn : n.toJson? with
  | none => rw [hn] at h; cases h
  | some x => rw [hn] at h; cases h; rfl

theorem Becomes.sequence {xs : List Yaml} {v : Json} (h : (sequence xs).Becomes v) :
    ∃ vs, v = .array vs ∧ List.Forall₂ Becomes xs vs := by
  obtain ⟨keys, h⟩ := h
  rw [toJson] at h
  obtain ⟨vs, hxs, same⟩ := Converted.exists_of_result_bind h
  cases same
  exact ⟨vs, rfl, forall₂_items hxs⟩

/-- A mapping becomes an object, into which its entries are put in turn. -/
theorem Becomes.mapping {ms : List (Yaml × Yaml)} {v : Json} (h : (mapping ms).Becomes v) :
    ∃ ps, v = .object (Entries.ofList ps) ∧ List.Forall₂ EntryBecomes ms ps := by
  obtain ⟨keys, h⟩ := h
  rw [toJson] at h
  obtain ⟨ps, hms, same⟩ := Converted.exists_of_result_bind h
  cases same
  exact ⟨ps, rfl, forall₂_members hms⟩

theorem Becomes.tagged {tag : String} {x : Yaml} {v : Json} (h : (tagged tag x).Becomes v) :
    x.Becomes v := by
  obtain ⟨keys, h⟩ := h
  rw [toJson] at h
  obtain ⟨-, -, inner⟩ := Converted.exists_of_result_bind h
  exact ⟨keys, inner⟩

/-! ## Entries that are kept -/

/-- Induction over the values in a tree; keys are not descended into. -/
@[elab_as_elim]
theorem induction {motive : Yaml → Prop} (null : motive null) (bool : ∀ b, motive (bool b))
    (number : ∀ n, motive (number n)) (string : ∀ s, motive (string s))
    (sequence : ∀ xs, (∀ x ∈ xs, motive x) → motive (sequence xs))
    (mapping : ∀ ms, (∀ e ∈ ms, motive e.1) → (∀ e ∈ ms, motive e.2) → motive (mapping ms))
    (tagged : ∀ tag x, motive x → motive (tagged tag x)) (tree : Yaml) : motive tree := by
  apply @Yaml.rec motive (fun xs => ∀ x ∈ xs, motive x)
    (fun ms => (∀ e ∈ ms, motive e.1) ∧ ∀ e ∈ ms, motive e.2) (fun e => motive e.1 ∧ motive e.2)
  case null => exact null
  case bool => exact bool
  case number => exact number
  case string => exact string
  case sequence => exact sequence
  case mapping => exact fun ms h => mapping ms h.1 h.2
  case tagged => exact tagged
  case nil => exact List.forall_mem_nil _
  case cons => exact fun _ _ first rest => List.forall_mem_cons.mpr ⟨first, rest⟩
  case mk => exact fun _ _ key value => ⟨key, value⟩
  · exact ⟨List.forall_mem_nil _, List.forall_mem_nil _⟩
  · exact fun _ _ first rest =>
      ⟨List.forall_mem_cons.mpr ⟨first.1, rest.1⟩, List.forall_mem_cons.mpr ⟨first.2, rest.2⟩⟩

/-- Whether a value has all that a tree has: a mapping is an object with a member for every entry,
and under the text of each key is what the key's value has become. -/
def HeldIn : Yaml → Json → Prop
  | .null, v => v = .null
  | .bool b, v => v = .bool b
  | .number n, v => n.toJson? = some v
  | .string s, v => v = .string s
  | .sequence xs, v => ∃ vs, v = .array vs ∧ items xs vs
  | .mapping ms, v => ∃ os : Entries Json, v = .object os ∧ os.length = ms.length ∧ entries ms os
  | .tagged _ x, v => HeldIn x v
where
  items : List Yaml → List Json → Prop
    | [], vs => vs = []
    | x :: rest, vs => ∃ v more, vs = v :: more ∧ HeldIn x v ∧ items rest more
  entries : List (Yaml × Yaml) → Entries Json → Prop
    | [], _ => True
    | (key, x) :: rest, os =>
      (∃ text v, keyText? key = some text ∧ os.lookup text = some v ∧ HeldIn x v) ∧
        entries rest os

/-- Whether a tree is a part of another, the keys of its mappings left out. -/
inductive HasPart : Yaml → Yaml → Prop where
  | self (x : Yaml) : HasPart x x
  | element {xs : List Yaml} {x y : Yaml} (mem : x ∈ xs) : HasPart x y → HasPart (sequence xs) y
  | value {ms : List (Yaml × Yaml)} {e : Yaml × Yaml} {y : Yaml} (mem : e ∈ ms) :
      HasPart e.2 y → HasPart (mapping ms) y
  | untagged {tag : String} {x y : Yaml} : HasPart x y → HasPart (tagged tag x) y

theorem HasPart.trans {x y z : Yaml} (hxy : x.HasPart y) (hyz : y.HasPart z) : x.HasPart z := by
  induction hxy with
  | self => exact hyz
  | element mem _ ih => exact .element mem (ih hyz)
  | value mem _ ih => exact .value mem (ih hyz)
  | untagged _ ih => exact .untagged (ih hyz)

theorem HasPart.becomes {tree x : Yaml} (part : tree.HasPart x) {v : Json}
    (h : tree.Becomes v) : ∃ w, x.Becomes w := by
  induction part generalizing v with
  | self x => exact ⟨v, h⟩
  | element hx part ih =>
      obtain ⟨vs, rfl, parts⟩ := h.sequence
      obtain ⟨w, -, hw⟩ := exists_mem_of_forall₂ parts hx
      exact ih hw
  | value he part ih =>
      obtain ⟨ps, rfl, parts⟩ := h.mapping
      obtain ⟨p, -, -, hp⟩ := exists_mem_of_forall₂ parts he
      exact ih hp
  | untagged part ih => exact ih h.tagged

/-- Whether something is true of the entries of every mapping. -/
def EveryMapping (p : List (Yaml × Yaml) → Prop) (tree : Yaml) : Prop :=
  ∀ ms, tree.HasPart (mapping ms) → p ms

section EveryMapping

variable {p : List (Yaml × Yaml) → Prop}

@[simp] theorem everyMapping_null : null.EveryMapping p := nofun

@[simp] theorem everyMapping_bool (b : Bool) : (bool b).EveryMapping p := nofun

@[simp] theorem everyMapping_number (n : Number) : (number n).EveryMapping p := nofun

@[simp] theorem everyMapping_string (s : String) : (string s).EveryMapping p := nofun

theorem everyMapping_sequence {xs : List Yaml} :
    (sequence xs).EveryMapping p ↔ ∀ x ∈ xs, x.EveryMapping p := by
  constructor
  · exact fun h x hx ms part => h ms (.element hx part)
  · intro h ms part
    cases part with
    | element hx part => exact h _ hx ms part

theorem everyMapping_mapping {ms : List (Yaml × Yaml)} :
    (mapping ms).EveryMapping p ↔ p ms ∧ ∀ e ∈ ms, e.2.EveryMapping p := by
  constructor
  · exact fun h => ⟨h ms (.self _), fun e he ns part => h ns (.value he part)⟩
  · intro ⟨own, h⟩ ns part
    cases part with
    | self => exact own
    | value he part => exact h _ he ns part

theorem everyMapping_tagged {tag : String} {x : Yaml} :
    (tagged tag x).EveryMapping p ↔ x.EveryMapping p := by
  constructor
  · exact fun h ms part => h ms (.untagged part)
  · intro h ms part
    cases part with
    | untagged part => exact h ms part

end EveryMapping

/-- Where a tree becomes a value, all its keys have texts. -/
theorem Becomes.texts {tree : Yaml} {v : Json} (h : tree.Becomes v) :
    tree.EveryMapping fun ms => ∀ e ∈ ms, (keyText? e.1).isSome := by
  intro ms part e he
  obtain ⟨w, hw⟩ := part.becomes h
  obtain ⟨ps, -, parts⟩ := hw.mapping
  obtain ⟨p, -, key, -⟩ := exists_mem_of_forall₂ parts he
  rw [key]
  rfl

/-- Whether no two keys have the same text. -/
def TextsApart (ms : List (Yaml × Yaml)) : Prop := (ms.map fun e => keyText? e.1).Nodup

theorem heldIn_sequence {xs : List Yaml} {vs : List Json} :
    (sequence xs).HeldIn (.array vs) ↔ List.Forall₂ HeldIn xs vs := by
  have items (vs : List Json) : HeldIn.items xs vs ↔ List.Forall₂ HeldIn xs vs := by
    induction xs generalizing vs with
    | nil => rw [HeldIn.items, List.forall₂_nil_left_iff]
    | cons x rest ih =>
        simp only [HeldIn.items, List.forall₂_cons_left_iff, ih]
        constructor
        · rintro ⟨v, more, rfl, first, others⟩
          exact ⟨v, more, first, others, rfl⟩
        · rintro ⟨v, more, first, others, rfl⟩
          exact ⟨v, more, rfl, first, others⟩
  rw [HeldIn, ← items]
  constructor
  · rintro ⟨_, same, h⟩
    cases same
    exact h
  · exact fun h => ⟨vs, rfl, h⟩

/-- A mapping is held if no entry is lost and each is held under the text of its key. -/
theorem heldIn_mapping {ms : List (Yaml × Yaml)} {os : Entries Json} :
    (mapping ms).HeldIn (.object os) ↔ os.length = ms.length ∧
      ∀ e ∈ ms, ∃ text v, keyText? e.1 = some text ∧ os.lookup text = some v ∧ e.2.HeldIn v := by
  have entries : HeldIn.entries ms os ↔
      ∀ e ∈ ms, ∃ text v, keyText? e.1 = some text ∧ os.lookup text = some v ∧ e.2.HeldIn v := by
    induction ms with
    | nil => exact iff_of_true trivial (List.forall_mem_nil _)
    | cons e rest ih => rw [HeldIn.entries, ih, List.forall_mem_cons]
  rw [HeldIn, ← entries]
  constructor
  · rintro ⟨_, same, h⟩
    cases same
    exact h
  · exact fun h => ⟨os, rfl, h⟩

/-- The texts of keys are the keys that are set. -/
theorem map_keyText? {ms : List (Yaml × Yaml)} {ps : List (String × Json)}
    (h : List.Forall₂ EntryBecomes ms ps) :
    (ms.map fun e => keyText? e.1) = (ps.map (·.1)).map some := by
  induction h with
  | nil => rfl
  | cons first _ ih => rw [List.map_cons, List.map_cons, List.map_cons, ih, first.1]

/-- Nothing is lost exactly if no mapping has two keys with the same text. -/
theorem heldIn_iff_textsApart {tree : Yaml} {v : Json} (h : tree.Becomes v) :
    tree.HeldIn v ↔ tree.EveryMapping TextsApart := by
  induction tree using induction generalizing v with
  | null => obtain ⟨keys, h⟩ := h; cases h; exact iff_of_true rfl (by simp)
  | bool b => obtain ⟨keys, h⟩ := h; cases h; exact iff_of_true rfl (by simp)
  | number n => exact iff_of_true h.number (by simp)
  | string s => obtain ⟨keys, h⟩ := h; cases h; exact iff_of_true rfl (by simp)
  | sequence xs ih =>
      obtain ⟨vs, rfl, parts⟩ := h.sequence
      rw [heldIn_sequence, everyMapping_sequence]
      clear h
      induction parts with
      | nil => simp
      | cons first _ ihs =>
          rw [List.forall₂_cons, List.forall_mem_cons, ih _ List.mem_cons_self first,
            ihs fun x hx => ih x (List.mem_cons_of_mem _ hx)]
  | mapping ms _ ih =>
      obtain ⟨ps, rfl, parts⟩ := h.mapping
      have nodup : TextsApart ms ↔ (ps.map (·.1)).Nodup := by
        rw [TextsApart, map_keyText? parts]
        exact List.nodup_map_iff fun _ _ => Option.some.inj
      rw [heldIn_mapping, everyMapping_mapping, nodup, parts.length_eq,
        Entries.length_ofList_eq_iff]
      refine and_congr_right fun apart => ?_
      have found : ∀ p ∈ ps, (Entries.ofList ps).lookup p.1 = some p.2 :=
        fun p hp => Entries.lookup_ofList_of_mem apart hp
      refine forall₂_congr fun e he => ?_
      obtain ⟨p, hp, key, value⟩ := exists_mem_of_forall₂ parts he
      rw [← ih e he value]
      constructor
      · rintro ⟨text, v, hkey, hv, held⟩
        cases hkey.symm.trans key
        cases hv.symm.trans (found p hp)
        exact held
      · exact fun held => ⟨p.1, p.2, key, found p hp, held⟩
  | tagged tag x ih => rw [everyMapping_tagged, ← ih h.tagged, HeldIn]

end Yaml

end SliceContract
