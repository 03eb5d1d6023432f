import Mathlib.Data.List.TakeWhile
import SliceContract.Proofs.Yaml.Ways

/-!
# What a conversion comes across

A conversion goes along the ways of a tree in document order. It reports the tags that it finds and
stops at the first thing that JSON cannot express. The main statements are `discard_toJson`, which
says so of its effects as a whole, and `toJson_fails_iff`.
-/

namespace SliceContract

def Step.text : Step → String
  | .member key => key
  | .element index => toString index

/-- The keys and indices of a place. -/
def Location.keys (l : Location) : Yaml.Keys := l.map Step.text

@[simp] theorem Location.keys_nil : Location.keys [] = [] := rfl

@[simp] theorem Location.keys_member (key : String) (l : Location) :
    Location.keys (.member key :: l) = key :: l.keys := rfl

@[simp] theorem Location.keys_element (i : ℕ) (l : Location) :
    Location.keys (.element i :: l) = toString i :: l.keys := rfl

namespace Yaml

/-! ## Conversions one after another -/

namespace Converted

variable {α β : Type}

instance : LawfulMonad Converted := by
  refine LawfulMonad.mk' Converted ?_ ?_ ?_
  · rintro α ⟨dropped, result⟩
    cases result with
    | error e => rfl
    | ok a => exact congrArg (Converted.mk · (.ok a)) (List.append_nil dropped)
  · exact fun a f => bind_ok a f
  · rintro α β γ ⟨dropped, result⟩ f g
    cases result with
    | error e => rfl
    | ok a =>
        cases h : (f a).result with
        | error e => simp [Bind.bind, bind, h]
        | ok b => simp [Bind.bind, bind, h]

theorem eq_ok_of_map {f : α → β} {c : Converted α} {dropped : List DroppedTag} {b : β}
    (h : f <$> c = ⟨dropped, .ok b⟩) : ∃ a, c = ⟨dropped, .ok a⟩ := by
  obtain ⟨tags, result⟩ := c
  cases result with
  | error e => cases h
  | ok a =>
      have same : tags ++ [] = dropped := congrArg Converted.dropped h
      rw [List.append_nil] at same
      exact ⟨a, by rw [same]⟩

theorem eq_error_of_map {f : α → β} {c : Converted α} {dropped : List DroppedTag}
    {e : ConversionError} (h : f <$> c = ⟨dropped, .error e⟩) : c = ⟨dropped, .error e⟩ := by
  obtain ⟨tags, result⟩ := c
  cases result with
  | error e => cases h; rfl
  | ok a => cases h

end Converted

/-! ## Sites -/

/-- What JSON cannot express. -/
inductive Offence where
  | number (value : Number)
  | key (key : Yaml)
  deriving Repr

def Offence.error (keys : Keys) : Offence → ConversionError
  | number n => .number keys n
  | key k => .key keys k

/-- Numbers that are not finite offend, and so do keys that are null, collections or tagged. -/
def Site.offence? : Site → Option Offence
  | .node (.number (.infinite negative)) => some (.number (.infinite negative))
  | .node (.number .nan) => some (.number .nan)
  | .node _ => none
  | .key (.bool _) | .key (.number _) | .key (.string _) => none
  | .key k => some (.key k)

def Site.tag? : Site → Option String
  | .node (.tagged tag _) => some tag
  | _ => none

/-- What a conversion does at a site. -/
def Site.visit (keys : Keys) (site : Site) : Converted Unit :=
  match site.offence?, site.tag? with
  | some o, _ => .fail (o.error keys)
  | none, some tag => .drop ⟨tagText tag, keys⟩
  | none, none => .ok ()

theorem Site.offence?_key {k : Yaml} (h : keyText? k = none) :
    (Site.key k).offence? = some (.key k) := by
  cases k <;> first | rfl | cases h

theorem Site.offence?_key_of_text {k : Yaml} {text : String} (h : keyText? k = some text) :
    (Site.key k).offence? = none := by
  cases k <;> first | rfl | cases h

/-- A number that does not offend has a JSON form. -/
theorem exists_toJson? {n : Number} (h : (Site.node (number n)).offence? = none) :
    ∃ v, n.toJson? = some v := by
  cases n with
  | int n =>
      unfold Number.toJson?
      split
      · exact ⟨_, rfl⟩
      · split
        · exact ⟨_, rfl⟩
        · exact ⟨_, rfl⟩
  | float x => exact ⟨_, rfl⟩
  | infinite negative => cases h
  | nan => cases h

/-- A number offends if it has no form in JSON. -/
theorem toJson?_eq_none {n : Number} {o : Offence}
    (h : (Site.node (number n)).offence? = some o) : o = .number n ∧ n.toJson? = none := by
  cases n <;> cases h <;> exact ⟨rfl, rfl⟩

/-! ## Sites at the end of ways -/

def offence? (tree : Yaml) (way : Way) : Option Offence := (tree.site? way).bind Site.offence?

theorem offence?_element {xs : List Yaml} {i : ℕ} {x : Yaml} (at? : xs[i]? = some x) (rest : Way) :
    (sequence xs).offence? (.element i :: rest) = x.offence? rest := by
  rw [offence?, offence?, site?, at?, Option.bind_some]

theorem offence?_key {ms : List (Yaml × Yaml)} {i : ℕ} {e : Yaml × Yaml} (at? : ms[i]? = some e) :
    (mapping ms).offence? [.key i] = (Site.key e.1).offence? := by
  rw [offence?, site?, at?, Option.map_some, Option.bind_some]

theorem offence?_value {ms : List (Yaml × Yaml)} {i : ℕ} {e : Yaml × Yaml}
    (at? : ms[i]? = some e) (rest : Way) :
    (mapping ms).offence? (.value i :: rest) = e.2.offence? rest := by
  rw [offence?, offence?, site?, at?, Option.bind_some]

theorem offence?_untagged (tag : String) (x : Yaml) (rest : Way) :
    (tagged tag x).offence? (.untagged :: rest) = x.offence? rest := by
  rw [offence?, offence?, site?]

/-- Whether nothing in a tree offends. -/
def Clear (tree : Yaml) : Prop := ∀ way, tree.offence? way = none

/-- The tag of the node at the end of a way. -/
def tag? (tree : Yaml) (way : Way) : Option String := (tree.site? way).bind Site.tag?

theorem tag?_eq_some_iff {tree : Yaml} {way : Way} {tag : String} :
    tree.tag? way = some tag ↔ ∃ x, tree.Leads way (.node (.tagged tag x)) := by
  rw [tag?, Option.bind_eq_some_iff]
  constructor
  · rintro ⟨site, found, tagged⟩
    rw [site?_eq_some_iff] at found
    cases site with
    | node y =>
        cases y with
        | tagged tag' x => cases tagged; exact ⟨x, found⟩
        | _ => cases tagged
    | key k => cases tagged
  · rintro ⟨x, leads⟩
    exact ⟨_, site?_eq_some_iff.mpr leads, rfl⟩

/-- What a conversion does at the end of a way. -/
def visit (keys : Keys) (tree : Yaml) (way : Way) : Converted Unit :=
  match tree.site? way, tree.location? way with
  | some site, some l => site.visit (keys ++ l.keys)
  | _, _ => .ok ()

section Visit

variable (keys : Keys)

theorem visit_nil (tree : Yaml) : visit keys tree [] = (Site.node tree).visit keys := by
  simp [visit, site?, location?]

theorem visit_element {xs : List Yaml} {i : ℕ} {x : Yaml} (h : xs[i]? = some x) (rest : Way) :
    visit keys (sequence xs) (.element i :: rest) = visit (keys ++ [toString i]) x rest := by
  rw [visit, visit, site?, location?, h, Option.bind_some, Option.bind_some]
  cases x.site? rest <;> cases x.location? rest <;> simp

theorem visit_key {ms : List (Yaml × Yaml)} {i : ℕ} {e : Yaml × Yaml} (h : ms[i]? = some e) :
    visit keys (mapping ms) [.key i] = (Site.key e.1).visit keys := by
  simp [visit, site?, location?, h]

/-- Visiting what is inside a value adds the text of its key to the keys. -/
theorem visit_value {ms : List (Yaml × Yaml)} {i : ℕ} {e : Yaml × Yaml} {text : String}
    (h : ms[i]? = some e) (key : keyText? e.1 = some text) (rest : Way) :
    visit keys (mapping ms) (.value i :: rest) = visit (keys ++ [text]) e.2 rest := by
  rw [visit, visit, site?, location?, h, Option.bind_some, Option.bind_some, key,
    Option.bind_some]
  cases e.2.site? rest <;> cases e.2.location? rest <;> simp

theorem visit_untagged (tag : String) (x : Yaml) (rest : Way) :
    visit keys (tagged tag x) (.untagged :: rest) = visit keys x rest := by
  rw [visit, visit, site?, location?]

/-! ## The tour -/

/-- Converting a list is touring the ways through it. -/
theorem discard_items {xs rest : List Yaml} {i : ℕ} (suffix : xs.drop i = rest)
    (h : ∀ x ∈ xs, ∀ keys, (fun _ => ()) <$> toJson keys x = forM x.ways (visit keys x)) :
    (fun _ => ()) <$> toJson.items keys i rest =
      forM (ways.items i rest) (visit keys (sequence xs)) := by
  induction rest generalizing i with
  | nil => rfl
  | cons x rest ih =>
      obtain ⟨at?, later⟩ := getElem?_of_drop_eq_cons suffix
      have here := h x (List.mem_of_getElem? at?) (keys ++ [toString i])
      rw [ways.items, List.forM_append, List.forM_map, ← ih later]
      simp only [visit_element keys at?, ← here, toJson.items, map_bind, bind_map_left,
        bind_pure_comp, Functor.map_map]

/-- Converting entries is touring the ways through them, the key before the value. -/
theorem discard_members {ms rest : List (Yaml × Yaml)} {i : ℕ} (suffix : ms.drop i = rest)
    (h : ∀ e ∈ ms, ∀ keys, (fun _ => ()) <$> toJson keys e.2 = forM e.2.ways (visit keys e.2)) :
    (fun _ => ()) <$> toJson.members keys rest =
      forM (ways.entries i rest) (visit keys (mapping ms)) := by
  induction rest generalizing i with
  | nil => rfl
  | cons e rest ih =>
      obtain ⟨at?, later⟩ := getElem?_of_drop_eq_cons suffix
      obtain ⟨key, x⟩ := e
      rw [ways.entries, List.cons_append, List.forM_cons, visit_key keys at?, toJson.members]
      cases text : keyText? key with
      | none =>
          -- Nothing behind a key without a text is visited.
          rw [Site.visit, Site.offence?_key text]
          rfl
      | some text' =>
          have here := h (key, x) (List.mem_of_getElem? at?) (keys ++ [text'])
          rw [Site.visit, Site.offence?_key_of_text text, List.forM_append, List.forM_map,
            ← ih later]
          simp only [visit_value keys at? text, ← here, map_bind, bind_map_left, bind_pure_comp,
            Functor.map_map]
          rfl

/-- The effects of a conversion are those of its visits, in document order. -/
theorem discard_toJson (tree : Yaml) :
    (fun _ => ()) <$> toJson keys tree = forM tree.ways (visit keys tree) := by
  induction tree using induction generalizing keys with
  | null | bool | string => rw [ways, List.forM_cons, visit_nil, toJson]; rfl
  | number n =>
      rw [ways, List.forM_cons, visit_nil, toJson, Site.visit]
      cases offence : (Site.node (number n)).offence? with
      | none =>
          obtain ⟨v, hv⟩ := exists_toJson? offence
          rw [hv]
          rfl
      | some o =>
          obtain ⟨rfl, none⟩ := toJson?_eq_none offence
          rw [none]
          rfl
  | sequence xs ih =>
      rw [ways, List.forM_cons, visit_nil, toJson, ← discard_items keys List.drop_zero ih]
      simp only [bind_pure_comp, Functor.map_map]
      rfl
  | mapping ms _ ih =>
      rw [ways, List.forM_cons, visit_nil, toJson, ← discard_members keys List.drop_zero ih]
      simp only [bind_pure_comp, Functor.map_map]
      rfl
  | tagged tag x ih =>
      rw [ways, List.forM_cons, visit_nil, toJson, List.forM_map]
      simp only [visit_untagged, ← ih, map_bind]
      rfl

end Visit

/-! ## The first offence -/

/-- Whether nothing that offends comes before the end of a way. -/
def Reached (tree : Yaml) (way : Way) : Prop :=
  ∀ other, (tree.offence? other).isSome → way = other ∨ way.Before other

/-- Whether what offends at the end of a way is the first that does. -/
structure FirstOffence (tree : Yaml) (way : Way) (o : Offence) : Prop where
  offends : tree.offence? way = some o
  first : tree.Reached way

theorem FirstOffence.unique {tree : Yaml} {way way' : Way} {o o' : Offence}
    (h : tree.FirstOffence way o) (h' : tree.FirstOffence way' o') : way = way' ∧ o = o' := by
  have same : way = way' := by
    rcases h.first way' (by rw [h'.offends]; rfl) with same | before
    · exact same
    · rcases h'.first way (by rw [h.offends]; rfl) with same | after
      · exact same.symm
      · exact absurd after before.asymm
  subst same
  exact ⟨rfl, Option.some.inj (h.offends.symm.trans h'.offends)⟩

/-- Whether the end of a way is come to before anything offends. -/
def Met (tree : Yaml) (way : Way) : Prop :=
  ∀ first o, tree.FirstOffence first o → way.Before first

/-- What is without a place in the document is in the value of a key without a text. -/
theorem exists_offence_of_location?_eq_none {tree : Yaml} {way : Way} {site : Site}
    (leads : tree.Leads way site) (h : tree.location? way = none) :
    ∃ other, (tree.offence? other).isSome ∧ other.Before way := by
  induction leads with
  | here x => cases h
  | @element xs i x rest site at? _ ih =>
      rw [location?, at?, Option.bind_some, Option.map_eq_none_iff] at h
      obtain ⟨other, offends, before⟩ := ih h
      exact ⟨.element i :: other, by rwa [offence?_element at?], .cons before⟩
  | key at? => cases h
  | @value ms i e rest site at? _ ih =>
      rw [location?, at?, Option.bind_some] at h
      cases text : keyText? e.1 with
      | none =>
          refine ⟨[.key i], ?_, .rel (Nat.le_refl i)⟩
          rw [offence?_key at?, Site.offence?_key text]
          rfl
      | some text' =>
          rw [text, Option.bind_some, Option.map_eq_none_iff] at h
          obtain ⟨other, offends, before⟩ := ih h
          exact ⟨.value i :: other, by rwa [offence?_value at?], .cons before⟩
  | untagged _ ih =>
      rw [location?] at h
      obtain ⟨other, offends, before⟩ := ih h
      exact ⟨.untagged :: other, by rwa [offence?_untagged], .cons before⟩

/-! ## Up to the first offence -/

/-- The ways that are gone before anything offends. -/
def cleared (tree : Yaml) : List Way := tree.ways.takeWhile fun way => (tree.offence? way).isNone

/-- Nothing offends on the ways before the first offence. -/
theorem offence?_of_mem_cleared {tree : Yaml} {way : Way} (h : way ∈ tree.cleared) :
    tree.offence? way = none := by
  simpa using List.mem_takeWhile_imp h

theorem pairwise_cleared (tree : Yaml) : tree.cleared.Pairwise Way.Before :=
  (pairwise_ways tree).sublist (List.takeWhile_sublist _)

/-- What offends is listed. -/
theorem mem_ways_of_offence {tree : Yaml} {way : Way} (h : (tree.offence? way).isSome) :
    way ∈ tree.ways := by
  obtain ⟨o, offends⟩ := Option.isSome_iff_exists.mp h
  obtain ⟨site, found, -⟩ := Option.bind_eq_some_iff.mp offends
  exact mem_ways_iff.mpr ⟨site, found⟩

/-- Either nothing offends, or the ways go on with the first that does. -/
theorem ways_cases (tree : Yaml) :
    (tree.Clear ∧ tree.ways = tree.cleared) ∨
      ∃ way o after, tree.FirstOffence way o ∧ tree.ways = tree.cleared ++ way :: after := by
  have split : tree.ways = tree.cleared ++ tree.ways.dropWhile _ :=
    List.takeWhile_append_dropWhile.symm
  cases rest : tree.ways.dropWhile fun way => (tree.offence? way).isNone with
  | nil =>
      rw [rest, List.append_nil] at split
      refine .inl ⟨fun way => ?_, split⟩
      by_contra offends
      have mem := mem_ways_of_offence (Option.isSome_iff_ne_none.mpr offends)
      exact offends (offence?_of_mem_cleared (split ▸ mem))
  | cons way after =>
      have head := List.head_dropWhile_not (fun way => (tree.offence? way).isNone)
        (l := tree.ways) (by simp [rest])
      obtain ⟨o, offends⟩ : ∃ o, tree.offence? way = some o := by
        simpa [rest, Option.isSome_iff_exists] using head
      rw [rest] at split
      refine .inr ⟨way, o, after, ⟨offends, fun other offends' => ?_⟩, split⟩
      have sorted := pairwise_ways tree
      have mem := mem_ways_of_offence offends'
      rw [split] at sorted mem
      rw [List.mem_append, List.mem_cons] at mem
      rcases mem with mem | same | mem
      · rw [offence?_of_mem_cleared mem] at offends'
        cases offends'
      · exact .inl same.symm
      · exact .inr ((List.pairwise_cons.mp (List.pairwise_append.mp sorted).2.1).1 other mem)

/-- The ways that are cleared are those that meet no offence up to their end. -/
theorem mem_cleared_iff {tree : Yaml} {way : Way} :
    way ∈ tree.cleared ↔ (∃ site, tree.site? way = some site) ∧ tree.Met way := by
  rcases ways_cases tree with ⟨clear, all⟩ | ⟨first, o, after, offence, split⟩
  · rw [← all, mem_ways_iff]
    refine (and_iff_left fun first o h => ?_).symm
    cases (clear first).symm.trans h.offends
  · have sorted := pairwise_ways tree
    rw [← mem_ways_iff, split, List.mem_append, List.mem_cons]
    rw [split, List.pairwise_append] at sorted
    constructor
    · intro mem
      refine ⟨.inl mem, fun first' o' h => ?_⟩
      obtain ⟨rfl, -⟩ := offence.unique h
      exact sorted.2.2 way mem first List.mem_cons_self
    · rintro ⟨mem | rfl | mem, before⟩
      · exact mem
      · exact absurd rfl (before way o offence).ne
      · exact absurd ((List.pairwise_cons.mp sorted.2.1).1 way mem) (before first o offence).asymm

/-- A way that is cleared has a location: its keys have texts. -/
theorem exists_location?_of_mem_cleared {tree : Yaml} {way : Way} (h : way ∈ tree.cleared) :
    ∃ l, tree.location? way = some l := by
  obtain ⟨⟨site, found⟩, met⟩ := mem_cleared_iff.mp h
  rw [← Option.ne_none_iff_exists']
  intro none
  obtain ⟨other, offends, before⟩ :=
    exists_offence_of_location?_eq_none (site?_eq_some_iff.mp found) none
  rcases ways_cases tree with ⟨clear, -⟩ | ⟨first, o, -, offence, -⟩
  · rw [clear other] at offends
    cases offends
  · rcases offence.first other offends with same | after
    · exact before.asymm (same ▸ met first o offence)
    · exact (after.trans before).asymm (met first o offence)

/-- The tag that is dropped at the end of a way. -/
def dropped? (keys : Keys) (tree : Yaml) (way : Way) : Option DroppedTag :=
  (tree.tag? way).bind fun tag => (tree.location? way).map fun l => ⟨tagText tag, keys ++ l.keys⟩

section Run

variable (keys : Keys) {tree : Yaml}

/-- A visit without an offence drops the tag, if there is one. -/
theorem visit_of_clear {way : Way} (h : tree.offence? way = none) :
    visit keys tree way = ⟨(dropped? keys tree way).toList, .ok ()⟩ := by
  rw [visit, dropped?, tag?]
  rw [offence?] at h
  cases found : tree.site? way with
  | none => rfl
  | some site =>
      rw [found, Option.bind_some] at h
      rw [Option.bind_some]
      cases tree.location? way with
      | none => cases site.tag? <;> rfl
      | some l =>
          simp only [Site.visit, h]
          cases site.tag? <;> rfl

/-- A visit with an offence fails with it, at its location. -/
theorem visit_of_offence {way : Way} {o : Offence} {l : Location}
    (h : tree.offence? way = some o) (place : tree.location? way = some l) :
    visit keys tree way = .fail (o.error (keys ++ l.keys)) := by
  obtain ⟨site, found, offends⟩ := Option.bind_eq_some_iff.mp h
  simp only [visit, found, place, Site.visit, offends]

/-- A tour without offences drops all tags on the way. -/
theorem forM_of_clear {ws : List Way} (h : ∀ way ∈ ws, tree.offence? way = none) :
    forM ws (visit keys tree) = ⟨ws.filterMap (dropped? keys tree), .ok ()⟩ := by
  induction ws with
  | nil => rfl
  | cons way rest ih =>
      obtain ⟨first, others⟩ := List.forall_mem_cons.mp h
      rw [List.forM_cons, visit_of_clear keys first, ih others, List.filterMap_cons]
      cases dropped? keys tree way <;> rfl

/-- The first offence has a location, since the keys above it have texts. -/
theorem FirstOffence.exists_location? {way : Way} {o : Offence} (h : tree.FirstOffence way o) :
    ∃ l, tree.location? way = some l := by
  rw [← Option.ne_none_iff_exists']
  intro none
  obtain ⟨site, found, -⟩ := Option.bind_eq_some_iff.mp h.offends
  obtain ⟨other, offends, before⟩ :=
    exists_offence_of_location?_eq_none (site?_eq_some_iff.mp found) none
  rcases h.first other offends with same | after
  · exact before.ne same.symm
  · exact before.asymm after

/-- What a conversion does: the tags that it finds are dropped, and the first thing that offends is
its error. -/
theorem toJson_cases (tree : Yaml) :
    (∃ v, tree.Clear ∧
      toJson keys tree = ⟨tree.cleared.filterMap (dropped? keys tree), .ok v⟩) ∨
    ∃ way o l, tree.FirstOffence way o ∧ tree.location? way = some l ∧
      toJson keys tree =
        ⟨tree.cleared.filterMap (dropped? keys tree), .error (o.error (keys ++ l.keys))⟩ := by
  have effects := discard_toJson keys tree
  rcases ways_cases tree with ⟨clear, all⟩ | ⟨way, o, after, offence, split⟩
  · rw [all, forM_of_clear keys fun way _ => clear way] at effects
    obtain ⟨v, result⟩ := Converted.eq_ok_of_map effects
    exact .inl ⟨v, clear, result⟩
  · obtain ⟨l, place⟩ := offence.exists_location?
    refine .inr ⟨way, o, l, offence, place, Converted.eq_error_of_map (f := fun _ => ()) ?_⟩
    rw [effects, split, List.forM_append, List.forM_cons,
      visit_of_offence keys offence.offends place,
      forM_of_clear keys fun _ => offence?_of_mem_cleared]
    exact congrArg (Converted.mk · _) (List.append_nil _)

/-- A tree is converted exactly if it is clear. -/
theorem toJson_ok_iff_clear (tree : Yaml) :
    (∃ v, (toJson keys tree).result = .ok v) ↔ tree.Clear := by
  rcases toJson_cases keys tree with ⟨v, clear, result⟩ | ⟨way, o, l, offence, -, result⟩
  · rw [result]
    exact iff_of_true ⟨v, rfl⟩ clear
  · rw [result]
    refine iff_of_false nofun fun clear => ?_
    cases (clear way).symm.trans offence.offends

/-- The tags of all that comes before the first offence are dropped. -/
theorem dropped_toJson (tree : Yaml) :
    (toJson keys tree).dropped = tree.cleared.filterMap (dropped? keys tree) := by
  rcases toJson_cases keys tree with ⟨v, -, result⟩ | ⟨way, o, l, -, -, result⟩
  · rw [result]
  · rw [result]

end Run

/-- A conversion fails if and only if something in its tree offends, and its error is about the
first thing that does. -/
theorem toJson_fails_iff (keys : Keys) (tree : Yaml) :
    ((∃ e, (toJson keys tree).result = .error e) ↔ ∃ way o, tree.offence? way = some o) ∧
      ∀ e, (toJson keys tree).result = .error e ↔ ∃ way o l, tree.FirstOffence way o ∧
        tree.location? way = some l ∧ e = o.error (keys ++ l.keys) := by
  rcases toJson_cases keys tree with ⟨v, clear, result⟩ | ⟨way, o, l, offence, place, result⟩
  · rw [result]
    constructor
    · refine iff_of_false nofun ?_
      rintro ⟨way, o, offends⟩
      cases (clear way).symm.trans offends
    · intro e
      constructor
      · intro failed
        cases failed
      · rintro ⟨way, o, l, offence, -⟩
        cases (clear way).symm.trans offence.offends
  · rw [result]
    constructor
    · exact ⟨fun _ => ⟨way, o, offence.offends⟩, fun _ => ⟨_, rfl⟩⟩
    · intro e
      constructor
      · intro failed
        cases failed
        exact ⟨way, o, l, offence, place, rfl⟩
      · rintro ⟨way', o', l', offence', place', rfl⟩
        obtain ⟨rfl, rfl⟩ := offence.unique offence'
        cases place.symm.trans place'
        rfl

end Yaml

end SliceContract
