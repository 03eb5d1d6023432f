import SliceContract.Proofs.Binary64.Layout
import SliceContract.Proofs.Yaml.Conversion

/-!
# Texts of keys

Distinct numbers have distinct texts, and so have the truth values, so the entries of a mapping are
kept unless a key that is text spells another key. The main statement is `heldIn_iff_noneSpelled`.
-/

namespace SliceContract

namespace Yaml

open Layout Resolution

/-! ## Numbers -/

namespace Number

/-- The first character of a text behind its sign. -/
def lead (text : String) : Option Char := (dropSign text.toList).head?

/-- The text of an integer begins with a digit, after its sign. -/
theorem lead_int (n : ℤ) : ∃ c ∈ lead (int n).text, c.isDigit := by
  rw [lead, text, String.toList_ofList, intText_eq, dropSign_signed isDigit_head?_toDigits]
  exact isDigit_head?_toDigits

theorem lead_float (x : Binary64) : ∃ c ∈ lead (float x).text, c.isDigit := by
  rw [lead, text, String.toList_ofList, text_eq, dropSign_signed (isDigit_head?_body _ x)]
  exact isDigit_head?_body _ x

theorem lead_infinite (negative : Bool) : lead (infinite negative).text = some '.' := by
  cases negative <;> rfl

theorem lead_nan : lead nan.text = some '.' := rfl

/-- A number begins with a digit or a point. -/
theorem lead_text (n : Number) : ∃ c ∈ lead n.text, c.isDigit ∨ c = '.' := by
  cases n with
  | int n => exact (lead_int n).imp fun _ h => ⟨h.1, .inl h.2⟩
  | float x => exact (lead_float x).imp fun _ h => ⟨h.1, .inl h.2⟩
  | infinite negative => exact ⟨'.', lead_infinite negative, .inr rfl⟩
  | nan => exact ⟨'.', lead_nan, .inr rfl⟩

theorem ne_of_lead {s t : String} (hs : ∃ c ∈ lead s, c.isDigit) (ht : lead t = some '.') :
    s ≠ t := by
  rintro rfl
  obtain ⟨c, hc, digit⟩ := hs
  cases hc.symm.trans ht
  cases digit

/-- No two numbers have the same text. -/
theorem eq_of_text_eq {m n : Number} (hm : ∀ x, m = float x → x.IsDouble)
    (hn : ∀ x, n = float x → x.IsDouble) (h : m.text = n.text) : m = n := by
  match m, n with
  | int a, int b => rw [eq_of_intText_eq (String.ofList_injective h)]
  | float x, float y =>
      rw [Layout.yaml.eq_of_text_eq (hm x rfl) (hn y rfl) (String.ofList_injective h)]
  | int a, float y =>
      exact absurd (String.ofList_injective h).symm (Layout.yaml.text_ne_intText rfl y a)
  | float x, int b =>
      exact absurd (String.ofList_injective h) (Layout.yaml.text_ne_intText rfl x b)
  | int a, infinite b => exact absurd h (ne_of_lead (lead_int a) (lead_infinite b))
  | int a, nan => exact absurd h (ne_of_lead (lead_int a) lead_nan)
  | float x, infinite b => exact absurd h (ne_of_lead (lead_float x) (lead_infinite b))
  | float x, nan => exact absurd h (ne_of_lead (lead_float x) lead_nan)
  | infinite a, int b => exact absurd h.symm (ne_of_lead (lead_int b) (lead_infinite a))
  | infinite a, float y => exact absurd h.symm (ne_of_lead (lead_float y) (lead_infinite a))
  | nan, int b => exact absurd h.symm (ne_of_lead (lead_int b) lead_nan)
  | nan, float y => exact absurd h.symm (ne_of_lead (lead_float y) lead_nan)
  | infinite a, infinite b => revert h; cases a <;> cases b <;> decide
  | infinite a, nan => revert h; cases a <;> decide
  | nan, infinite b => revert h; cases b <;> decide
  | nan, nan => rfl

/-- No number reads like a truth value. -/
theorem text_ne_toString_bool (n : Number) (b : Bool) : n.text ≠ toString b := by
  intro same
  obtain ⟨c, hc, first⟩ := n.lead_text
  rw [same] at hc
  revert first
  cases b <;> cases hc <;> decide

end Number

/-! ## Keys -/

/-- The keys that have a text. -/
theorem keyText?_eq_some {key : Yaml} {s : String} (h : keyText? key = some s) :
    key = string s ∨ (∃ n, key = number n ∧ n.text = s) ∨ ∃ b, key = bool b ∧ toString b = s := by
  cases key with
  | string _ => cases h; exact .inl rfl
  | number n => cases h; exact .inr (.inl ⟨n, rfl, rfl⟩)
  | bool b => cases h; exact .inr (.inr ⟨b, rfl, rfl⟩)
  | null | sequence _ | mapping _ | tagged _ _ => cases h

/-- Whether no key is the same as an earlier one. -/
def DistinctKeys (ms : List (Yaml × Yaml)) : Prop :=
  ms.Pairwise fun earlier later => later.1.same earlier.1 = false

instance (ms : List (Yaml × Yaml)) : Decidable (DistinctKeys ms) :=
  inferInstanceAs (Decidable (ms.Pairwise _))

/-- What is known of the keys of a mapping: no two are the same, and those that are floating are
doubles. -/
structure ProperKeys (ms : List (Yaml × Yaml)) : Prop where
  distinct : DistinctKeys ms
  doubles : ∀ e ∈ ms, ∀ x, e.1 = number (.float x) → x.IsDouble

/-- Only the keys matter, not what is under them. -/
theorem ProperKeys.congr {ms ns : List (Yaml × Yaml)} (h : ProperKeys ms)
    (same : ms.map (·.1) = ns.map (·.1)) : ProperKeys ns where
  distinct := by
    have distinct : (ms.map (·.1)).Pairwise fun earlier later => later.same earlier = false :=
      List.pairwise_map.mpr h.distinct
    rw [same] at distinct
    exact List.pairwise_map.mp distinct
  doubles := by
    have doubles : ∀ key ∈ ms.map (·.1), ∀ x, key = number (.float x) → x.IsDouble :=
      List.forall_mem_map.mpr h.doubles
    rw [same] at doubles
    exact List.forall_mem_map.mp doubles

/-- Whether no key that is text spells a key of another kind. -/
def NoneSpelled (ms : List (Yaml × Yaml)) : Prop :=
  ∀ s, (∃ e ∈ ms, e.1 = string s) → ∀ e ∈ ms, keyText? e.1 = some s → e.1 = string s

theorem Number.sameValue_self (n : Number) : n.sameValue n := by
  cases n <;> simp [sameValue, Binary64.sameValue]

theorem Number.sameValue_comm (m n : Number) : m.sameValue n = n.sameValue m := by
  cases m <;> cases n <;> simp [sameValue, Binary64.sameValue, BEq.comm]

/-- Keys that have texts are the same in both directions. -/
theorem same_comm {a b : Yaml} (ha : (keyText? a).isSome) (hb : (keyText? b).isSome) :
    a.same b = b.same a := by
  cases a <;> cases b <;> simp_all [keyText?, same, BEq.comm, Number.sameValue_comm]

/-- Keys with one text are the same, or one of them is that text. -/
theorem same_of_keyText? {a b : Yaml} {s : String} (ha : keyText? a = some s)
    (hb : keyText? b = some s) (notA : a ≠ string s) (notB : b ≠ string s)
    (doubleA : ∀ x, a = number (.float x) → x.IsDouble)
    (doubleB : ∀ x, b = number (.float x) → x.IsDouble) : a.same b := by
  rcases keyText?_eq_some ha with rfl | ⟨m, rfl, rfl⟩ | ⟨x, rfl, rfl⟩
  · exact absurd rfl notA
  · rcases keyText?_eq_some hb with rfl | ⟨n, rfl, same⟩ | ⟨y, rfl, same⟩
    · exact absurd rfl notB
    · have equal : n = m := Number.eq_of_text_eq (fun x h => doubleB x (h ▸ rfl))
        (fun x h => doubleA x (h ▸ rfl)) same
      rw [equal, Yaml.same]
      exact m.sameValue_self
    · exact absurd same.symm (m.text_ne_toString_bool y)
  · rcases keyText?_eq_some hb with rfl | ⟨n, rfl, same⟩ | ⟨y, rfl, same⟩
    · exact absurd rfl notB
    · exact absurd same (n.text_ne_toString_bool x)
    · revert same
      cases x <;> cases y <;> decide

/-- Keys that are distinct have distinct texts, unless a string spells another key. -/
theorem textsApart_iff {ms : List (Yaml × Yaml)} (keys : ProperKeys ms)
    (texts : ∀ e ∈ ms, (keyText? e.1).isSome) : TextsApart ms ↔ NoneSpelled ms := by
  constructor
  · rintro apart s ⟨own, hown, key⟩ e he text
    have same : own = e := List.inj_on_of_nodup_map apart hown he (by rw [key, text]; rfl)
    rw [← same, key]
  · intro none
    rw [TextsApart, List.Nodup, List.pairwise_map]
    refine keys.distinct.imp_of_mem fun {a b} ha hb distinct same => ?_
    obtain ⟨s, hs⟩ := Option.isSome_iff_exists.mp (texts a ha)
    have hs' : keyText? b.1 = some s := same ▸ hs
    by_cases text : a.1 = string s ∨ b.1 = string s
    · have both : a.1 = string s ∧ b.1 = string s := by
        rcases text with key | key
        · exact ⟨key, none s ⟨a, ha, key⟩ b hb hs'⟩
        · exact ⟨none s ⟨b, hb, key⟩ a ha hs, key⟩
      rw [both.1, both.2] at distinct
      simp [Yaml.same] at distinct
    · rw [not_or] at text
      rw [same_of_keyText? hs' hs text.2 text.1 (keys.doubles b hb) (keys.doubles a ha)] at distinct
      cases distinct

/-! ## Entries that are kept -/

/-- Nothing is lost exactly if no string spells another key of its mapping. -/
theorem Becomes.heldIn_iff {tree : Yaml} {v : Json} (becomes : tree.Becomes v)
    (proper : tree.EveryMapping ProperKeys) : tree.HeldIn v ↔ tree.EveryMapping NoneSpelled := by
  rw [heldIn_iff_textsApart becomes]
  exact forall₂_congr fun ms part => textsApart_iff (proper ms part) (becomes.texts ms part)

/-- A value has all the entries of the tree that it comes from if and only if no key that is text
spells a key of another kind in the same mapping. -/
theorem heldIn_iff_noneSpelled {keys : Keys} {tree : Yaml} {v : Json}
    (h : (toJson keys tree).result = .ok v) (proper : tree.EveryMapping ProperKeys) :
    tree.HeldIn v ↔ tree.EveryMapping NoneSpelled :=
  Becomes.heldIn_iff ⟨keys, h⟩ proper

/-- The keys of the outer mapping are a number and a truth value, that of the inner one is text. -/
def mixedKeys : Yaml :=
  mapping [(number (.int 1), string "one"), (bool true, sequence [mapping [(string "x", null)]])]

theorem heldIn_mixedKeys : ∃ v, (toJson [] mixedKeys).result = .ok v ∧ mixedKeys.HeldIn v := by
  have parts {p : List (Yaml × Yaml) → Prop} : mixedKeys.EveryMapping p ↔
      p [(number (.int 1), string "one"), (bool true, sequence [mapping [(string "x", null)]])] ∧
        p [(string "x", null)] := by
    simp [mixedKeys, everyMapping_mapping, everyMapping_sequence]
  have proper : mixedKeys.EveryMapping ProperKeys :=
    parts.mpr ⟨⟨by decide, by simp⟩, ⟨by decide, by simp⟩⟩
  have none : mixedKeys.EveryMapping NoneSpelled :=
    parts.mpr ⟨by simp [NoneSpelled], by simp [NoneSpelled]⟩
  exact ⟨_, rfl, (heldIn_iff_noneSpelled (rfl : (toJson [] mixedKeys).result = _) proper).mpr none⟩

/-- The number 1 and its text as keys of one mapping. -/
def spelledKey : Yaml := mapping [(number (.int 1), string "a"), (string "1", string "b")]

/-- The second entry takes the place of the first. -/
theorem not_heldIn_spelledKey :
    (toJson [] spelledKey).result = .ok (.object [("1", .string "b")]) ∧
      spelledKey.EveryMapping ProperKeys ∧ ¬ spelledKey.HeldIn (.object [("1", .string "b")]) := by
  refine ⟨rfl, everyMapping_mapping.mpr ⟨⟨by decide, by simp⟩, by simp⟩, ?_⟩
  rw [spelledKey, heldIn_mapping]
  exact fun h => absurd h.1 (by decide)

end Yaml

end SliceContract
