import SliceContract.Location
import SliceContract.Proofs.Yaml.Conversion

/-!
# Ways into a tree

A way goes from the root of a tree to a node, or to the key of an entry. Ways are compared in
document order: a node comes before what is in it, the key of an entry before its value, and all of
an entry or an element before the next one. The main statements are `mem_ways_iff` and
`pairwise_ways`: the ways of a tree are listed in this order, each once.
-/

namespace SliceContract

theorem getElem?_of_drop_eq_cons {α : Type*} {xs rest : List α} {x : α} {i : ℕ}
    (h : xs.drop i = x :: rest) : xs[i]? = some x ∧ xs.drop (i + 1) = rest := by
  constructor
  · rw [← List.head?_drop, h, List.head?_cons]
  · rw [← List.tail_drop, h, List.tail_cons]

namespace Yaml

/-! ## Ways -/

/-- From a node to an element, to the key or the value of an entry, or to what is tagged. -/
inductive Turn where
  | element (index : ℕ)
  | key (index : ℕ)
  | value (index : ℕ)
  | untagged
  deriving DecidableEq, Repr

abbrev Way := List Turn

/-- Which of two turns at one node is written first. -/
def Turn.Before : Turn → Turn → Prop
  | .element i, .element j => i < j
  | .key i, .key j => i < j
  | .key i, .value j => i ≤ j
  | .value i, .key j => i < j
  | .value i, .value j => i < j
  | _, _ => False

theorem Turn.Before.asymm {s t : Turn} (h : s.Before t) : ¬ t.Before s := by
  cases s <;> cases t <;> simp only [Turn.Before] at h ⊢ <;> omega

theorem Turn.Before.trans {s t u : Turn} (h : s.Before t) (h' : t.Before u) : s.Before u := by
  cases s <;> cases t <;> cases u <;> simp only [Turn.Before] at h h' ⊢ <;> omega

/-- Whether what a way leads to is written before what another one leads to. -/
def Way.Before (a b : Way) : Prop := List.Lex Turn.Before a b

theorem Way.Before.asymm {a b : Way} (h : a.Before b) : ¬ b.Before a :=
  List.lex_asymm Turn.Before.asymm h

theorem Way.Before.trans {a b c : Way} (h : a.Before b) (h' : b.Before c) : a.Before c :=
  List.lex_trans Turn.Before.trans h h'

theorem Way.Before.ne {a b : Way} (h : a.Before b) : a ≠ b := by
  rintro rfl
  exact h.asymm h

/-- What a way leads to. -/
inductive Site where
  | node (node : Yaml)
  | key (key : Yaml)
  deriving Repr

/-- The node or the key at the end of a way. Keys are not gone into. -/
def site? : Yaml → Way → Option Site
  | x, [] => some (.node x)
  | .sequence xs, .element i :: rest => xs[i]?.bind fun x => x.site? rest
  | .mapping ms, [.key i] => ms[i]?.map fun e => .key e.1
  | .mapping ms, .value i :: rest => ms[i]?.bind fun e => e.2.site? rest
  | .tagged _ x, .untagged :: rest => x.site? rest
  | _, _ => none

/-- The place in the document of a node, or of the mapping that has a key, if all keys on the way
have texts. Tags take no step. -/
def location? : Yaml → Way → Option Location
  | _, [] => some []
  | .sequence xs, .element i :: rest =>
    xs[i]?.bind fun x => (x.location? rest).map (.element i :: ·)
  | .mapping _, [.key _] => some []
  | .mapping ms, .value i :: rest =>
    ms[i]?.bind fun e => (keyText? e.1).bind fun text =>
      (e.2.location? rest).map (.member text :: ·)
  | .tagged _ x, .untagged :: rest => x.location? rest
  | _, _ => none

theorem location?_element_iff {xs : List Yaml} {i : ℕ} {x : Yaml} {rest : Way} {l : Location}
    (at? : xs[i]? = some x) : (sequence xs).location? (.element i :: rest) = some l ↔
      ∃ l', x.location? rest = some l' ∧ .element i :: l' = l := by
  rw [location?, at?, Option.bind_some, Option.map_eq_some_iff]

/-- A way through a value has a location if the key has a text. -/
theorem location?_value_iff {ms : List (Yaml × Yaml)} {i : ℕ} {e : Yaml × Yaml} {rest : Way}
    {l : Location} (at? : ms[i]? = some e) :
    (mapping ms).location? (.value i :: rest) = some l ↔
      ∃ key, keyText? e.1 = some key ∧
        ∃ l', e.2.location? rest = some l' ∧ .member key :: l' = l := by
  rw [location?, at?, Option.bind_some, Option.bind_eq_some_iff]
  simp only [Option.map_eq_some_iff]

/-- Where a way leads, one turn at a time. -/
inductive Leads : Yaml → Way → Site → Prop where
  | here (x : Yaml) : Leads x [] (.node x)
  | element {xs : List Yaml} {i : ℕ} {x : Yaml} {rest : Way} {site : Site} (at? : xs[i]? = some x) :
      Leads x rest site → Leads (sequence xs) (.element i :: rest) site
  | key {ms : List (Yaml × Yaml)} {i : ℕ} {e : Yaml × Yaml} (at? : ms[i]? = some e) :
      Leads (mapping ms) [.key i] (.key e.1)
  | value {ms : List (Yaml × Yaml)} {i : ℕ} {e : Yaml × Yaml} {rest : Way} {site : Site}
      (at? : ms[i]? = some e) : Leads e.2 rest site → Leads (mapping ms) (.value i :: rest) site
  | untagged {tag : String} {x : Yaml} {rest : Way} {site : Site} :
      Leads x rest site → Leads (tagged tag x) (.untagged :: rest) site

/-- The site at the end of a way is where it leads. -/
theorem site?_eq_some_iff {tree : Yaml} {way : Way} {site : Site} :
    tree.site? way = some site ↔ tree.Leads way site := by
  constructor
  · intro h
    induction way generalizing tree with
    | nil =>
        cases h
        exact .here tree
    | cons turn rest ih =>
        cases turn with
        | element i =>
            cases tree with
            | sequence xs =>
                obtain ⟨x, at?, found⟩ := Option.bind_eq_some_iff.mp h
                exact .element at? (ih found)
            | _ => cases h
        | key i =>
            cases rest with
            | nil =>
                cases tree with
                | mapping ms =>
                    obtain ⟨e, at?, same⟩ := Option.map_eq_some_iff.mp h
                    exact same ▸ .key at?
                | _ => cases h
            | cons turn rest => cases tree <;> cases h
        | value i =>
            cases tree with
            | mapping ms =>
                obtain ⟨e, at?, found⟩ := Option.bind_eq_some_iff.mp h
                exact .value at? (ih found)
            | _ => cases h
        | untagged =>
            cases tree with
            | tagged tag x => exact .untagged (ih h)
            | _ => cases h
  · intro h
    induction h with
    | here x => rw [site?]
    | element at? _ ih => rw [site?, at?, Option.bind_some, ih]
    | key at? => rw [site?, at?, Option.map_some]
    | value at? _ ih => rw [site?, at?, Option.bind_some, ih]
    | untagged _ ih => rw [site?, ih]

/-! ## All ways -/

/-- The ways of a tree, in document order. -/
def ways : Yaml → List Way
  | .sequence xs => [] :: items 0 xs
  | .mapping ms => [] :: entries 0 ms
  | .tagged _ x => [] :: (ways x).map (.untagged :: ·)
  | .null | .bool _ | .number _ | .string _ => [[]]
where
  items (index : ℕ) : List Yaml → List Way
    | [] => []
    | x :: rest => (ways x).map (.element index :: ·) ++ items (index + 1) rest
  entries (index : ℕ) : List (Yaml × Yaml) → List Way
    | [] => []
    | (_, x) :: rest =>
      [.key index] :: (ways x).map (.value index :: ·) ++ entries (index + 1) rest

theorem mem_items_iff {xs : List Yaml} {i : ℕ} {way : Way} : way ∈ ways.items i xs ↔
    ∃ j x rest, xs[j]? = some x ∧ rest ∈ ways x ∧ way = .element (i + j) :: rest := by
  induction xs generalizing i with
  | nil => simp [ways.items]
  | cons first xs ih =>
      rw [ways.items, List.mem_append, List.mem_map, ih]
      constructor
      · rintro (⟨rest, mem, rfl⟩ | ⟨j, x, rest, at?, mem, rfl⟩)
        · exact ⟨0, first, rest, rfl, mem, rfl⟩
        · exact ⟨j + 1, x, rest, at?, mem, by rw [Nat.add_right_comm, Nat.add_assoc]⟩
      · rintro ⟨_ | j, x, rest, at?, mem, rfl⟩
        · cases at?
          exact .inl ⟨rest, mem, rfl⟩
        · exact .inr ⟨j, x, rest, at?, mem, by rw [Nat.add_right_comm, Nat.add_assoc]⟩

/-- The ways through entries are those to their keys and through their values. -/
theorem mem_entries_iff {ms : List (Yaml × Yaml)} {i : ℕ} {way : Way} :
    way ∈ ways.entries i ms ↔ ∃ j e, ms[j]? = some e ∧
      (way = [.key (i + j)] ∨ ∃ rest ∈ ways e.2, way = .value (i + j) :: rest) := by
  induction ms generalizing i with
  | nil => simp [ways.entries]
  | cons first ms ih =>
      rw [ways.entries, List.cons_append, List.mem_cons, List.mem_append, List.mem_map, ih]
      constructor
      · rintro (rfl | ⟨rest, mem, rfl⟩ | ⟨j, e, at?, found⟩)
        · exact ⟨0, first, rfl, .inl rfl⟩
        · exact ⟨0, first, rfl, .inr ⟨rest, mem, rfl⟩⟩
        · exact ⟨j + 1, e, at?, by rwa [Nat.add_right_comm, Nat.add_assoc] at found⟩
      · rintro ⟨_ | j, e, at?, found⟩
        · cases at?
          rcases found with rfl | ⟨rest, mem, rfl⟩
          · exact .inl rfl
          · exact .inr (.inl ⟨rest, mem, rfl⟩)
        · exact .inr (.inr ⟨j, e, at?, by rwa [Nat.add_right_comm, Nat.add_assoc]⟩)

/-- The ways that are listed are those that lead somewhere. -/
theorem mem_ways_iff {tree : Yaml} {way : Way} :
    way ∈ tree.ways ↔ ∃ site, tree.site? way = some site := by
  simp only [site?_eq_some_iff]
  constructor
  · intro mem
    induction tree using induction generalizing way with
    | null | bool | number | string =>
        cases List.mem_singleton.mp mem
        exact ⟨_, .here _⟩
    | sequence xs ih =>
        rw [ways, List.mem_cons, mem_items_iff] at mem
        rcases mem with rfl | ⟨j, x, rest, at?, mem, rfl⟩
        · exact ⟨_, .here _⟩
        · obtain ⟨site, leads⟩ := ih x (List.mem_of_getElem? at?) mem
          rw [Nat.zero_add]
          exact ⟨site, .element at? leads⟩
    | mapping ms _ ih =>
        rw [ways, List.mem_cons, mem_entries_iff] at mem
        rcases mem with rfl | ⟨j, e, at?, rfl | ⟨rest, mem, rfl⟩⟩
        · exact ⟨_, .here _⟩
        · rw [Nat.zero_add]
          exact ⟨_, .key at?⟩
        · obtain ⟨site, leads⟩ := ih e (List.mem_of_getElem? at?) mem
          rw [Nat.zero_add]
          exact ⟨site, .value at? leads⟩
    | tagged tag x ih =>
        rw [ways, List.mem_cons, List.mem_map] at mem
        rcases mem with rfl | ⟨rest, mem, rfl⟩
        · exact ⟨_, .here _⟩
        · obtain ⟨site, leads⟩ := ih mem
          exact ⟨site, .untagged leads⟩
  · rintro ⟨site, leads⟩
    induction leads with
    | here x => cases x <;> simp [ways]
    | @element xs i x rest site at? _ ih =>
        refine List.mem_cons_of_mem _ (mem_items_iff.mpr ⟨i, x, rest, at?, ih, ?_⟩)
        rw [Nat.zero_add]
    | @key ms i e at? =>
        refine List.mem_cons_of_mem _ (mem_entries_iff.mpr ⟨i, e, at?, .inl ?_⟩)
        rw [Nat.zero_add]
    | @value ms i e rest site at? _ ih =>
        refine List.mem_cons_of_mem _ (mem_entries_iff.mpr ⟨i, e, at?, .inr ⟨rest, ih, ?_⟩⟩)
        rw [Nat.zero_add]
    | untagged _ ih => exact List.mem_cons_of_mem _ (List.mem_map_of_mem ih)

/-- The same turn in front of all ways leaves their order as it is. -/
theorem pairwise_map_cons {l : List Way} (h : l.Pairwise Way.Before) (turn : Turn) :
    (l.map (turn :: ·)).Pairwise Way.Before := by
  rw [List.pairwise_map]
  exact h.imp fun before => List.Lex.cons before

theorem pairwise_items {xs : List Yaml} (h : ∀ x ∈ xs, x.ways.Pairwise Way.Before) (i : ℕ) :
    (ways.items i xs).Pairwise Way.Before := by
  induction xs generalizing i with
  | nil => exact .nil
  | cons x xs ih =>
      obtain ⟨first, others⟩ := List.forall_mem_cons.mp h
      rw [ways.items, List.pairwise_append]
      refine ⟨pairwise_map_cons first _, ih others (i + 1), ?_⟩
      intro a ha b hb
      obtain ⟨rest, -, rfl⟩ := List.mem_map.mp ha
      obtain ⟨j, y, rest', -, -, rfl⟩ := mem_items_iff.mp hb
      apply List.Lex.rel
      simp only [Turn.Before]
      omega

/-- The ways through entries are in order, if those through their values are. -/
theorem pairwise_entries {ms : List (Yaml × Yaml)} (h : ∀ e ∈ ms, e.2.ways.Pairwise Way.Before)
    (i : ℕ) : (ways.entries i ms).Pairwise Way.Before := by
  induction ms generalizing i with
  | nil => exact .nil
  | cons e ms ih =>
      obtain ⟨first, others⟩ := List.forall_mem_cons.mp h
      have later : ∀ b ∈ ways.entries (i + 1) ms, ∀ rest,
          Way.Before [.key i] b ∧ Way.Before (.value i :: rest) b := by
        intro b hb rest
        obtain ⟨j, e', -, rfl | ⟨rest', -, rfl⟩⟩ := mem_entries_iff.mp hb
        all_goals
          constructor <;> apply List.Lex.rel <;> simp only [Turn.Before] <;> omega
      rw [ways.entries, List.cons_append, List.pairwise_cons, List.pairwise_append]
      refine ⟨?_, pairwise_map_cons first _, ih others (i + 1), ?_⟩
      · intro b hb
        rcases List.mem_append.mp hb with hb | hb
        · obtain ⟨rest, -, rfl⟩ := List.mem_map.mp hb
          apply List.Lex.rel
          simp [Turn.Before]
        · exact (later b hb []).1
      · intro a ha b hb
        obtain ⟨rest, -, rfl⟩ := List.mem_map.mp ha
        exact (later b hb rest).2

/-- The ways of a tree are listed in document order. -/
theorem pairwise_ways (tree : Yaml) : tree.ways.Pairwise Way.Before := by
  induction tree using induction with
  | null | bool | number | string => exact List.pairwise_singleton _ _
  | sequence xs ih =>
      rw [ways, List.pairwise_cons]
      refine ⟨fun b hb => ?_, pairwise_items ih 0⟩
      obtain ⟨j, x, rest, -, -, rfl⟩ := mem_items_iff.mp hb
      exact List.Lex.nil
  | mapping ms _ ih =>
      rw [ways, List.pairwise_cons]
      refine ⟨fun b hb => ?_, pairwise_entries ih 0⟩
      obtain ⟨j, e, -, rfl | ⟨rest, -, rfl⟩⟩ := mem_entries_iff.mp hb
      · exact List.Lex.nil
      · exact List.Lex.nil
  | tagged tag x ih =>
      rw [ways, List.pairwise_cons]
      refine ⟨fun b hb => ?_, pairwise_map_cons ih _⟩
      obtain ⟨rest, -, rfl⟩ := List.mem_map.mp hb
      exact List.Lex.nil

end Yaml

end SliceContract
