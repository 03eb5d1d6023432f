import SliceContract.Proofs.Yaml.Tour

/-!
# The calls of a conversion

A conversion is called again for each part of a tree, with the keys on the way to it. The main
statement is `mem_calls_iff`: it is called for the nodes that come before whatever offends.
-/

namespace SliceContract

namespace Yaml

/-! ## Calls beside outcomes -/

structure Call where
  keys : Keys
  node : Yaml
  deriving Repr

/-- A conversion with the calls that it takes. -/
structure Traced (α : Type) where
  calls : List Call
  outcome : Converted α

namespace Traced

variable {α β : Type}

def call (keys : Keys) (node : Yaml) : Traced Unit := ⟨[⟨keys, node⟩], .ok ()⟩

def lift (c : Converted α) : Traced α := ⟨[], c⟩

/-- Go on with a result; after an error there are no more calls. -/
def bind (t : Traced α) (f : α → Traced β) : Traced β where
  calls :=
    match t.outcome.result with
    | .ok a => t.calls ++ (f a).calls
    | .error _ => t.calls
  outcome := t.outcome.bind fun a => (f a).outcome

instance : Monad Traced where
  pure a := lift (pure a)
  bind := bind

@[simp] theorem outcome_pure (a : α) : (pure a : Traced α).outcome = pure a := rfl

/-- Calls are recorded beside what is computed, which they do not change. -/
@[simp] theorem outcome_bind (t : Traced α) (f : α → Traced β) :
    (t >>= f).outcome = t.outcome >>= fun a => (f a).outcome := rfl

/-- A later computation is called only if the one before it succeeded. -/
theorem mem_calls_bind {t : Traced α} {f : α → Traced β} {c : Call} :
    c ∈ (t >>= f).calls ↔ c ∈ t.calls ∨ ∃ a, t.outcome.result = .ok a ∧ c ∈ (f a).calls := by
  have calls : (t >>= f).calls = match t.outcome.result with
    | .ok a => t.calls ++ (f a).calls
    | .error _ => t.calls := rfl
  rw [calls]
  cases t.outcome.result with
  | ok a => simp
  | error e => simp

theorem mem_calls_call {keys : Keys} {node : Yaml} {f : Unit → Traced β} {c : Call} :
    c ∈ (call keys node >>= f).calls ↔ c = ⟨keys, node⟩ ∨ c ∈ (f ()).calls := by
  rw [mem_calls_bind]
  refine or_congr List.mem_singleton ⟨fun ⟨_, _, mem⟩ => mem, fun mem => ⟨(), rfl, mem⟩⟩

theorem mem_calls_return {t : Traced α} {f : α → β} {c : Call} :
    c ∈ (t >>= fun a => pure (f a)).calls ↔ c ∈ t.calls := by
  rw [mem_calls_bind]
  exact or_iff_left fun ⟨_, _, mem⟩ => List.not_mem_nil mem

end Traced

/-- The conversion `toJson` with its calls. -/
def traced (keys : Keys) (tree : Yaml) : Traced Json := do
  .call keys tree
  match tree with
  | .sequence xs => return .array (← items keys 0 xs)
  | .mapping ms => return .object (Entries.ofList (← members keys ms))
  | .tagged tag x => do
    .lift (.drop ⟨tagText tag, keys⟩)
    traced keys x
  | .null | .bool _ | .number _ | .string _ => .lift (toJson keys tree)
where
  items (keys : Keys) (index : Nat) : List Yaml → Traced (List Json)
    | [] => return []
    | x :: rest => do
      let v ← traced (keys ++ [toString index]) x
      return v :: (← items keys (index + 1) rest)
  members (keys : Keys) : List (Yaml × Yaml) → Traced (List (String × Json))
    | [] => return []
    | (key, x) :: rest =>
      match keyText? key with
      | none => .lift (.fail (.key keys key))
      | some text => do
        let v ← traced (keys ++ [text]) x
        return (text, v) :: (← members keys rest)

/-- If elements are traced faithfully, so are lists. -/
theorem outcome_items {xs : List Yaml}
    (h : ∀ x ∈ xs, ∀ keys, (traced keys x).outcome = toJson keys x) (keys : Keys) (i : ℕ) :
    (traced.items keys i xs).outcome = toJson.items keys i xs := by
  induction xs generalizing i with
  | nil => rfl
  | cons x rest ih =>
      obtain ⟨first, others⟩ := List.forall_mem_cons.mp h
      simp only [traced.items, toJson.items, Traced.outcome_bind, Traced.outcome_pure, first,
        ih others]

theorem outcome_members {ms : List (Yaml × Yaml)}
    (h : ∀ e ∈ ms, ∀ keys, (traced keys e.2).outcome = toJson keys e.2) (keys : Keys) :
    (traced.members keys ms).outcome = toJson.members keys ms := by
  induction ms with
  | nil => rfl
  | cons e rest ih =>
      obtain ⟨first, others⟩ := List.forall_mem_cons.mp h
      rw [traced.members, toJson.members]
      cases keyText? e.1 with
      | none => rfl
      | some text =>
          simp only [Traced.outcome_bind, Traced.outcome_pure, first, ih others]

/-- The calls are taken by the conversion itself. -/
theorem outcome_traced (keys : Keys) (tree : Yaml) :
    (traced keys tree).outcome = toJson keys tree := by
  induction tree using induction generalizing keys with
  | null | bool | number | string => rw [traced]; rfl
  | sequence xs ih =>
      rw [traced, toJson, ← outcome_items ih keys 0]
      rfl
  | mapping ms _ ih =>
      rw [traced, toJson, ← outcome_members ih keys]
      rfl
  | tagged tag x ih =>
      rw [traced, toJson, ← ih keys]
      rfl

/-! ## What is reached -/

/-- What offends in a sequence is in an element. -/
theorem offence?_sequence_cases {xs : List Yaml} {way : Way}
    (h : ((sequence xs).offence? way).isSome) :
    ∃ i x rest, xs[i]? = some x ∧ way = .element i :: rest ∧ (x.offence? rest).isSome := by
  obtain ⟨o, offends⟩ := Option.isSome_iff_exists.mp h
  obtain ⟨site, found, -⟩ := Option.bind_eq_some_iff.mp offends
  cases site?_eq_some_iff.mp found with
  | here => cases offends
  | @element _ i x rest _ at? => exact ⟨i, x, rest, at?, rfl, by rwa [← offence?_element at?]⟩

/-- What offends in a mapping is a key or in a value. -/
theorem offence?_mapping_cases {ms : List (Yaml × Yaml)} {way : Way}
    (h : ((mapping ms).offence? way).isSome) :
    ∃ i e, ms[i]? = some e ∧ (way = [.key i] ∧ keyText? e.1 = none ∨
      ∃ rest, way = .value i :: rest ∧ (e.2.offence? rest).isSome) := by
  obtain ⟨o, offends⟩ := Option.isSome_iff_exists.mp h
  obtain ⟨site, found, -⟩ := Option.bind_eq_some_iff.mp offends
  cases site?_eq_some_iff.mp found with
  | here => cases offends
  | @key _ i e at? =>
      rw [offence?_key at?] at h
      refine ⟨i, e, at?, .inl ⟨rfl, ?_⟩⟩
      by_contra text
      obtain ⟨key, text⟩ := Option.ne_none_iff_exists'.mp text
      rw [Site.offence?_key_of_text text] at h
      cases h
  | @value _ i e rest _ at? =>
      exact ⟨i, e, at?, .inr ⟨rest, rfl, by rwa [← offence?_value at?]⟩⟩

theorem reached_nil (tree : Yaml) : tree.Reached [] := by
  intro other _
  cases other with
  | nil => exact .inl rfl
  | cons turn rest => exact .inr .nil

/-- Two ways with the same first turn are in the order of what follows it. -/
theorem eq_or_before_of_cons {turn : Turn} {a b : Way}
    (h : turn :: a = turn :: b ∨ Way.Before (turn :: a) (turn :: b)) : a = b ∨ a.Before b := by
  rcases h with same | before
  · exact .inl (List.cons.inj same).2
  · cases before with
    | cons before => exact .inr before
    | rel before => exact absurd before before.asymm

theorem not_eq_or_before {s t : Turn} (h : s.Before t) (a b : Way) :
    ¬ (t :: a = s :: b ∨ Way.Before (t :: a) (s :: b)) := by
  rintro (same | before)
  · cases same
    exact h.asymm h
  · exact Way.Before.asymm (.rel h) before

/-- An element is reached if nothing offends in those before it. -/
theorem reached_element_iff {xs : List Yaml} {i : ℕ} {x : Yaml} {rest : Way}
    (at? : xs[i]? = some x) : (sequence xs).Reached (.element i :: rest) ↔
      x.Reached rest ∧ ∀ j < i, ∀ y, xs[j]? = some y → y.Clear := by
  constructor
  · intro reached
    constructor
    · intro other offends
      exact eq_or_before_of_cons (reached _ (by rwa [offence?_element at?]))
    · intro j below y found way
      by_contra offends
      rw [← ne_eq, ← Option.isSome_iff_ne_none, ← offence?_element found] at offends
      have order : (Turn.element j).Before (.element i) := below
      exact not_eq_or_before order _ _ (reached _ offends)
  · rintro ⟨inner, earlier⟩ other offends
    obtain ⟨j, y, way, found, rfl, inside⟩ := offence?_sequence_cases offends
    rcases Nat.lt_trichotomy i j with after | rfl | below
    · exact .inr (.rel after)
    · cases at?.symm.trans found
      exact (inner way inside).imp (congrArg _) .cons
    · rw [earlier j below y found way] at inside
      cases inside

/-- A value is reached if its key does not offend, and nothing does in the entries before it. -/
theorem reached_value_iff {ms : List (Yaml × Yaml)} {i : ℕ} {e : Yaml × Yaml} {rest : Way}
    (at? : ms[i]? = some e) : (mapping ms).Reached (.value i :: rest) ↔
      keyText? e.1 ≠ none ∧ e.2.Reached rest ∧
        ∀ j < i, ∀ e', ms[j]? = some e' → keyText? e'.1 ≠ none ∧ e'.2.Clear := by
  constructor
  · intro reached
    have keys {j : ℕ} (below : j ≤ i) {e' : Yaml × Yaml} (found : ms[j]? = some e') :
        keyText? e'.1 ≠ none := by
      intro text
      have offends : ((mapping ms).offence? [.key j]).isSome := by
        rw [offence?_key found, Site.offence?_key text]
        rfl
      have order : (Turn.key j).Before (.value i) := below
      exact not_eq_or_before order _ _ (reached _ offends)
    refine ⟨keys (Nat.le_refl i) at?, ?_, fun j below e' found => ⟨keys below.le found, ?_⟩⟩
    · intro other offends
      exact eq_or_before_of_cons (reached _ (by rwa [offence?_value at?]))
    · intro way
      by_contra offends
      rw [← ne_eq, ← Option.isSome_iff_ne_none, ← offence?_value found] at offends
      have order : (Turn.value j).Before (.value i) := below
      exact not_eq_or_before order _ _ (reached _ offends)
  · rintro ⟨key, inner, earlier⟩ other offends
    obtain ⟨j, e', found, ⟨rfl, text⟩ | ⟨way, rfl, inside⟩⟩ := offence?_mapping_cases offends
    · rcases Nat.lt_trichotomy i j with after | rfl | below
      · exact .inr (.rel after)
      · cases at?.symm.trans found
        exact absurd text key
      · exact absurd text (earlier j below e' found).1
    · rcases Nat.lt_trichotomy i j with after | rfl | below
      · exact .inr (.rel after)
      · cases at?.symm.trans found
        exact (inner way inside).imp (congrArg _) .cons
      · rw [(earlier j below e' found).2 way] at inside
        cases inside

theorem reached_untagged_iff {tag : String} {x : Yaml} {rest : Way} :
    (tagged tag x).Reached (.untagged :: rest) ↔ x.Reached rest := by
  constructor
  · intro reached other offends
    exact eq_or_before_of_cons (reached _ (by rwa [offence?_untagged]))
  · intro inner other offends
    obtain ⟨o, offends'⟩ := Option.isSome_iff_exists.mp offends
    obtain ⟨site, found, -⟩ := Option.bind_eq_some_iff.mp offends'
    cases site?_eq_some_iff.mp found with
    | here => cases offends'
    | @untagged _ _ way =>
        rw [offence?_untagged] at offends
        exact (inner way offends).imp (congrArg _) .cons

/-! ## All calls -/

section Calls

variable {keys : Keys} {c : Call}

/-- An element is converted if all before it are clear. -/
theorem mem_calls_items_iff {xs : List Yaml} {i : ℕ} : c ∈ (traced.items keys i xs).calls ↔
    ∃ j x, xs[j]? = some x ∧ c ∈ (traced (keys ++ [toString (i + j)]) x).calls ∧
      ∀ k < j, ∀ y, xs[k]? = some y → y.Clear := by
  induction xs generalizing i with
  | nil => simp [traced.items, Pure.pure, Traced.lift]
  | cons x rest ih =>
      -- The elements after the first one are gone on to if that one has a result.
      have others : c ∈ (traced.items keys i (x :: rest)).calls ↔
          c ∈ (traced (keys ++ [toString i]) x).calls ∨
            x.Clear ∧ c ∈ (traced.items keys (i + 1) rest).calls := by
        rw [traced.items, Traced.mem_calls_bind, outcome_traced,
          ← toJson_ok_iff_clear (keys ++ [toString i])]
        simp only [Traced.mem_calls_return, exists_and_right]
      rw [others, ih]
      constructor
      · rintro (mem | ⟨clear, j, y, at?, mem, earlier⟩)
        · exact ⟨0, x, rfl, mem, nofun⟩
        · refine ⟨j + 1, y, at?, ?_, ?_⟩
          · rwa [Nat.add_right_comm, Nat.add_assoc] at mem
          · rintro (_ | k) below z found
            · cases found
              exact clear
            · exact earlier k (Nat.lt_of_succ_lt_succ below) z found
      · rintro ⟨_ | j, y, at?, mem, earlier⟩
        · cases at?
          exact .inl mem
        · refine .inr ⟨earlier 0 (Nat.succ_pos j) x rfl, j, y, at?, ?_, ?_⟩
          · rwa [Nat.add_right_comm, Nat.add_assoc]
          · exact fun k below z found => earlier (k + 1) (Nat.succ_lt_succ below) z found

/-- A value is converted if its key has a text and all entries before it are clear. -/
theorem mem_calls_members_iff {ms : List (Yaml × Yaml)} : c ∈ (traced.members keys ms).calls ↔
    ∃ (j : ℕ) (e : Yaml × Yaml) (text : String), ms[j]? = some e ∧ keyText? e.1 = some text ∧
      c ∈ (traced (keys ++ [text]) e.2).calls ∧
      ∀ k < j, ∀ e' : Yaml × Yaml, ms[k]? = some e' → keyText? e'.1 ≠ none ∧ e'.2.Clear := by
  induction ms with
  | nil => simp [traced.members, Pure.pure, Traced.lift]
  | cons e rest ih =>
      have others : c ∈ (traced.members keys (e :: rest)).calls ↔
          ∃ text, keyText? e.1 = some text ∧ (c ∈ (traced (keys ++ [text]) e.2).calls ∨
            e.2.Clear ∧ c ∈ (traced.members keys rest).calls) := by
        rw [traced.members]
        cases keyText? e.1 with
        | none => simp [Traced.lift]
        | some text =>
            simp only [Option.some.injEq, exists_eq_left']
            rw [Traced.mem_calls_bind, outcome_traced, ← toJson_ok_iff_clear (keys ++ [text])]
            simp only [Traced.mem_calls_return, exists_and_right]
      rw [others, ih]
      constructor
      · rintro ⟨text, key, mem | ⟨clear, j, e', text', at?, key', mem, earlier⟩⟩
        · exact ⟨0, e, text, rfl, key, mem, nofun⟩
        · refine ⟨j + 1, e', text', at?, key', mem, ?_⟩
          rintro (_ | k) below z found
          · cases found
            exact ⟨by rw [key]; exact Option.some_ne_none text, clear⟩
          · exact earlier k (Nat.lt_of_succ_lt_succ below) z found
      · rintro ⟨_ | j, e', text, at?, key, mem, earlier⟩
        · cases at?
          exact ⟨text, key, .inl mem⟩
        · obtain ⟨first, clear⟩ := earlier 0 (Nat.succ_pos j) e rfl
          obtain ⟨text', key'⟩ := Option.ne_none_iff_exists'.mp first
          refine ⟨text', key', .inr ⟨clear, j, e', text, at?, key, mem, ?_⟩⟩
          exact fun k below z found => earlier (k + 1) (Nat.succ_lt_succ below) z found

/-- Whether a call is for a node that is reached, with the keys on the way to it behind `keys`. -/
def Calls (tree : Yaml) (keys : Keys) (c : Call) : Prop :=
  ∃ way l, tree.Leads way (.node c.node) ∧ tree.location? way = some l ∧
    c.keys = keys ++ l.keys ∧ tree.Reached way

theorem calls_self (tree : Yaml) (keys : Keys) : tree.Calls keys ⟨keys, tree⟩ := by
  refine ⟨[], [], .here tree, by rw [location?], ?_, reached_nil tree⟩
  rw [Location.keys_nil, List.append_nil]

theorem eq_of_leads_nil {tree : Yaml} {l : Location} (leads : tree.Leads [] (.node c.node))
    (place : tree.location? [] = some l) (same : c.keys = keys ++ l.keys) : c = ⟨keys, tree⟩ := by
  obtain ⟨own, node⟩ := c
  cases leads
  cases place
  rw [Location.keys_nil, List.append_nil] at same
  exact congrArg (Call.mk · node) same

theorem calls_leaf_iff {tree : Yaml} (leaf : tree.ways = [[]]) :
    tree.Calls keys c ↔ c = ⟨keys, tree⟩ := by
  constructor
  · rintro ⟨way, l, leads, place, same, -⟩
    have mem : way ∈ tree.ways := mem_ways_iff.mpr ⟨_, site?_eq_some_iff.mpr leads⟩
    rw [leaf, List.mem_singleton] at mem
    subst mem
    exact eq_of_leads_nil leads place same
  · rintro rfl
    exact calls_self tree keys

/-- The calls for a sequence are its own and those for the elements, up to the first that fails. -/
theorem calls_sequence_iff {xs : List Yaml} : (sequence xs).Calls keys c ↔
    c = ⟨keys, sequence xs⟩ ∨ ∃ (i : ℕ) (x : Yaml), xs[i]? = some x ∧
      x.Calls (keys ++ [toString i]) c ∧ ∀ j < i, ∀ y : Yaml, xs[j]? = some y → y.Clear := by
  constructor
  · rintro ⟨way, l, leads, place, same, reached⟩
    cases way with
    | nil => exact .inl (eq_of_leads_nil leads place same)
    | cons turn rest =>
        cases leads with
        | @element _ i x _ _ at? leads =>
            obtain ⟨l', place', rfl⟩ := (location?_element_iff at?).mp place
            obtain ⟨inner, earlier⟩ := (reached_element_iff at?).mp reached
            refine .inr ⟨i, x, at?, ⟨rest, l', leads, place', ?_, inner⟩, earlier⟩
            rw [same, Location.keys_element, List.append_assoc, List.singleton_append]
  · rintro (rfl | ⟨i, x, at?, ⟨way, l, leads, place, same, reached⟩, earlier⟩)
    · exact calls_self _ keys
    · refine ⟨.element i :: way, .element i :: l, .element at? leads,
        (location?_element_iff at?).mpr ⟨l, place, rfl⟩, ?_,
        (reached_element_iff at?).mpr ⟨reached, earlier⟩⟩
      rw [same, Location.keys_element, List.append_assoc, List.singleton_append]

/-- The calls for a mapping are its own and those for the values, up to the first that fails. -/
theorem calls_mapping_iff {ms : List (Yaml × Yaml)} : (mapping ms).Calls keys c ↔
    c = ⟨keys, mapping ms⟩ ∨ ∃ (i : ℕ) (e : Yaml × Yaml) (text : String), ms[i]? = some e ∧
      keyText? e.1 = some text ∧ e.2.Calls (keys ++ [text]) c ∧
      ∀ j < i, ∀ e' : Yaml × Yaml, ms[j]? = some e' → keyText? e'.1 ≠ none ∧ e'.2.Clear := by
  constructor
  · rintro ⟨way, l, leads, place, same, reached⟩
    cases way with
    | nil => exact .inl (eq_of_leads_nil leads place same)
    | cons turn rest =>
        cases leads with
        | @value _ i e _ _ at? leads =>
            obtain ⟨text, key, l', place', rfl⟩ := (location?_value_iff at?).mp place
            obtain ⟨-, inner, earlier⟩ := (reached_value_iff at?).mp reached
            refine .inr ⟨i, e, text, at?, key, ⟨rest, l', leads, place', ?_, inner⟩, earlier⟩
            rw [same, Location.keys_member, List.append_assoc, List.singleton_append]
  · rintro (rfl | ⟨i, e, text, at?, key, ⟨way, l, leads, place, same, reached⟩, earlier⟩)
    · exact calls_self _ keys
    · refine ⟨.value i :: way, .member text :: l, .value at? leads,
        (location?_value_iff at?).mpr ⟨text, key, l, place, rfl⟩, ?_,
        (reached_value_iff at?).mpr ⟨by rw [key]; exact Option.some_ne_none text, reached, earlier⟩⟩
      rw [same, Location.keys_member, List.append_assoc, List.singleton_append]

theorem calls_tagged_iff {tag : String} {x : Yaml} : (tagged tag x).Calls keys c ↔
    c = ⟨keys, tagged tag x⟩ ∨ x.Calls keys c := by
  constructor
  · rintro ⟨way, l, leads, place, same, reached⟩
    cases way with
    | nil => exact .inl (eq_of_leads_nil leads place same)
    | cons turn rest =>
        cases leads with
        | @untagged _ _ _ _ leads =>
            rw [location?] at place
            exact .inr ⟨rest, l, leads, place, same, reached_untagged_iff.mp reached⟩
  · rintro (rfl | ⟨way, l, leads, place, same, reached⟩)
    · exact calls_self _ keys
    · exact ⟨.untagged :: way, l, .untagged leads, by rwa [location?], same,
        reached_untagged_iff.mpr reached⟩

/-- A conversion is called for the nodes that it reaches. -/
theorem mem_calls_iff (keys : Keys) (tree : Yaml) :
    c ∈ (traced keys tree).calls ↔ tree.Calls keys c := by
  induction tree using induction generalizing keys with
  | null | bool | number | string =>
      rw [traced, Traced.mem_calls_call, calls_leaf_iff (by rw [ways])]
      exact or_iff_left List.not_mem_nil
  | sequence xs ih =>
      rw [traced, Traced.mem_calls_call, Traced.mem_calls_return, mem_calls_items_iff,
        calls_sequence_iff]
      simp only [Nat.zero_add]
      refine or_congr_right (exists_congr fun i => exists_congr fun x => ?_)
      exact and_congr_right fun at? =>
        and_congr_left' (ih x (List.mem_of_getElem? at?) (keys ++ [toString i]))
  | mapping ms _ ih =>
      rw [traced, Traced.mem_calls_call, Traced.mem_calls_return, mem_calls_members_iff,
        calls_mapping_iff]
      refine or_congr_right (exists_congr fun i => exists_congr fun e =>
        exists_congr fun text => ?_)
      exact and_congr_right fun at? => and_congr_right fun key =>
        and_congr_left' (ih e (List.mem_of_getElem? at?) (keys ++ [text]))
  | tagged tag x ih =>
      rw [traced, Traced.mem_calls_call, calls_tagged_iff, ← ih keys, Traced.mem_calls_bind]
      refine or_congr_right ⟨?_, fun mem => .inr ⟨(), rfl, mem⟩⟩
      rintro (mem | ⟨-, -, mem⟩)
      · cases mem
      · exact mem

end Calls

end Yaml

end SliceContract
