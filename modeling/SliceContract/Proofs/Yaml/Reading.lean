import SliceContract.Proofs.Binary64.Rounding
import SliceContract.Proofs.Yaml.KeyTexts
import SliceContract.Yaml.Tree

/-!
# Trees that are read

In a tree that was read from a text no mapping has a key twice, and the floating keys are doubles.
The main statement is `everyMapping_properKeys_ofText`.
-/

namespace SliceContract

namespace Yaml

/-! ## Scalars -/

/-- What is known of a value that was read: a floating number is a double, and the keys of its
mappings are proper. -/
structure IsRead (v : Yaml) : Prop where
  double : ∀ x, v = number (.float x) → x.IsDouble
  keys : v.EveryMapping ProperKeys

theorem isRead_null : null.IsRead := ⟨nofun, everyMapping_null⟩

theorem isRead_bool (b : Bool) : (bool b).IsRead := ⟨nofun, everyMapping_bool b⟩

theorem isRead_string (s : String) : (string s).IsRead := ⟨nofun, everyMapping_string s⟩

theorem isRead_number {n : Number} (h : ∀ x, n = .float x → x.IsDouble) : (number n).IsRead :=
  ⟨fun x same => h x (by cases same; rfl), everyMapping_number n⟩

namespace Resolution

/-- What is read as a float is one that a float can hold. -/
theorem isDouble_of_double? {text : List Char} {x : Binary64} (h : double? text = some x) :
    x.IsDouble := by
  unfold double? at h
  split at h
  · obtain ⟨d, -, hd⟩ := Option.bind_eq_some_iff.mp h
    exact Binary64.isDouble_of_ofDecimal? hd
  · obtain ⟨d, -, hd⟩ := Option.bind_eq_some_iff.mp h
    exact Binary64.isDouble_of_ofDecimal? hd

theorem isRead_of_float? {text : List Char} {n : Number} (h : float? text = some n) :
    (number n).IsRead := by
  refine isRead_number fun x same => ?_
  subst same
  unfold float? at h
  simp only at h
  split_ifs at h
  · cases h
  · cases h
  · cases h
  · split at h
    · cases h
    · obtain ⟨y, hy, same⟩ := Option.map_eq_some_iff.mp h
      cases same
      exact isDouble_of_double? hy

theorem isRead_of_wholeNumber? {text : List Char} {v : Yaml}
    (h : wholeNumber? text = some (.ok v)) : v.IsRead := by
  unfold wholeNumber? at h
  split at h
  · cases h
  · split_ifs at h
    · cases h
      exact isRead_number nofun
    · cases h

theorem isRead_of_plain {s : String} {v : Yaml} (h : plain s = .ok v) : v.IsRead := by
  unfold plain at h
  split at h
  · cases h
    exact isRead_null
  · split at h
    · cases h
      exact isRead_bool _
    · next whole =>
        rw [h] at whole
        exact isRead_of_wholeNumber? whole
    · split at h
      · cases h
        exact isRead_string s
      · split at h
        · next hx =>
            cases h
            exact isRead_of_float? hx
        · cases h
          exact isRead_string s

theorem isRead_of_core? {tag s : String} {v : Yaml} (h : core? tag s = some (.ok v)) :
    v.IsRead := by
  unfold core? at h
  simp only at h
  split at h
  · cases hb : bool? s with
    | none => rw [hb] at h; cases h
    | some b => rw [hb] at h; cases h; exact isRead_bool b
  · cases whole : wholeNumber? s.toList with
    | none => rw [whole] at h; cases h
    | some result => rw [whole] at h; cases h; exact isRead_of_wholeNumber? whole
  · cases hx : float? s.toList with
    | none => rw [hx] at h; cases h
    | some x => rw [hx] at h; cases h; exact isRead_of_float? hx
  · cases hnull : isNull s with
    | false => rw [hnull] at h; cases h
    | true => rw [hnull] at h; cases h; exact isRead_null
  · cases h

/-- All scalars are read as values that can be read. -/
theorem isRead_of_scalar {tag : Option String} {style : ScalarStyle} {s : String} {v : Yaml}
    (h : scalar tag style s = .ok v) : v.IsRead := by
  unfold scalar at h
  simp only at h
  split at h
  · split at h
    · exact isRead_of_plain h
    · cases h
      exact isRead_string s
  · split at h
    · next core =>
        rw [h] at core
        exact isRead_of_core? core
    · split at h
      · split at h
        · exact isRead_of_plain h
        · cases h
          exact isRead_string s
      · cases h
        exact isRead_string s

end Resolution

/-! ## Nodes -/

theorem isRead_wrap {tag : Option String} {v : Yaml} (h : v.IsRead) : (Tree.wrap tag v).IsRead := by
  cases tag with
  | none => exact h
  | some tag => exact ⟨nofun, everyMapping_tagged.mpr h.keys⟩

theorem isRead_sequence {xs : List Yaml} (h : ∀ x ∈ xs, x.IsRead) : (sequence xs).IsRead :=
  ⟨nofun, everyMapping_sequence.mpr fun x hx => (h x hx).keys⟩

theorem isRead_mapping {ms : List (Yaml × Yaml)} (keys : ProperKeys ms)
    (h : ∀ e ∈ ms, e.2.IsRead) : (mapping ms).IsRead :=
  ⟨nofun, everyMapping_mapping.mpr ⟨keys, fun e he => (h e he).keys⟩⟩

namespace Tree

/-- Whether whatever a reader reads satisfies a condition. -/
def Yields {α : Type} (p : α → Prop) (r : Read α) : Prop :=
  ∀ place a place', r place = .ok (a, place') → p a

section Yields

variable {α β : Type} {p : α → Prop} {q : β → Prop}

theorem yields_pure {a : α} (h : p a) : Yields p (pure a) := by
  intro place b place' same
  cases same
  exact h

theorem yields_throw (e : ReadError) : Yields p (throw e) := nofun

theorem yields_bind {r : Read α} {f : α → Read β} (h : Yields p r)
    (hf : ∀ a, p a → Yields q (f a)) : Yields q (r >>= f) := by
  intro place b place' result
  change (r place >>= fun read => f read.1 read.2) = .ok (b, place') at result
  cases first : r place with
  | error e => rw [first] at result; cases result
  | ok read =>
      rw [first] at result
      exact hf read.1 (h place read.1 read.2 first) read.2 b place' result

/-- What a step yields does not matter. -/
theorem yields_bind_of_forall {r : Read α} {f : α → Read β} (hf : ∀ a, Yields q (f a)) :
    Yields q (r >>= f) :=
  yields_bind (p := fun _ => True) (fun _ _ _ _ => trivial) fun a _ => hf a

end Yields

/-- What is known of the entries that were read so far. -/
structure EntriesRead (ms : List (Yaml × Yaml)) : Prop where
  keys : ProperKeys ms
  values : ∀ e ∈ ms, e.2.IsRead

theorem entriesRead_nil : EntriesRead [] := ⟨⟨.nil, by simp⟩, by simp⟩

/-- An entry with a new key. -/
theorem EntriesRead.snoc {known : List (Yaml × Yaml)} {key value : Yaml} (h : EntriesRead known)
    (new : find? key known = none) (hkey : key.IsRead) (hvalue : value.IsRead) :
    EntriesRead (known ++ [(key, value)]) := by
  have apart : ∀ e ∈ known, key.same e.1 = false := by
    simpa [find?] using new
  refine ⟨⟨?_, ?_⟩, ?_⟩
  · rw [DistinctKeys, List.pairwise_append]
    exact ⟨h.keys.distinct, List.pairwise_singleton _ _, fun e he => by simpa using apart e he⟩
  · rw [List.forall_mem_append]
    exact ⟨h.keys.doubles, List.forall_mem_singleton.mpr hkey.double⟩
  · rw [List.forall_mem_append]
    exact ⟨h.values, List.forall_mem_singleton.mpr hvalue⟩

/-- Whatever is read of a document is a value that can be read. The induction is on the fuel, for
nodes, elements and entries together. -/
theorem yields_node (d : Document) (fuel : ℕ) :
    (∀ depth path, Yields IsRead (node d fuel depth path)) ∧
      (∀ depth path index, Yields (∀ x ∈ ·, x.IsRead) (items d fuel depth path index)) ∧
      ∀ depth path mark known, EntriesRead known →
        Yields EntriesRead (entries d fuel depth path mark known) := by
  induction fuel with
  | zero =>
      refine ⟨fun _ _ => ?_, fun _ _ _ => ?_, fun _ _ _ _ _ => ?_⟩
      · rw [node]
        exact yields_throw _
      · rw [items]
        exact yields_throw _
      · rw [entries]
        exact yields_throw _
  | succ fuel ih =>
      obtain ⟨node_ih, items_ih, entries_ih⟩ := ih
      refine ⟨?_, ?_, ?_⟩
      · intro depth path
        rw [node]
        refine yields_bind_of_forall fun event => ?_
        split
        · refine yields_bind_of_forall fun back => yields_bind (node_ih depth _) fun v hv => ?_
          exact yields_bind_of_forall fun _ => yields_pure hv
        · refine yields_bind_of_forall fun _ => ?_
          split
          · next hv => exact yields_pure (isRead_wrap (Resolution.isRead_of_scalar hv))
          · exact yields_throw _
        · refine yields_bind_of_forall fun depth => ?_
          refine yields_bind (items_ih depth path 0) fun xs hxs => ?_
          exact yields_pure (isRead_wrap (isRead_sequence hxs))
        · refine yields_bind_of_forall fun depth => ?_
          refine yields_bind (entries_ih depth path _ [] entriesRead_nil) fun ms hms => ?_
          exact yields_pure (isRead_wrap (isRead_mapping hms.keys hms.values))
        · exact yields_throw _
        · exact yields_throw _
      · intro depth path index
        rw [items]
        refine yields_bind_of_forall fun event => ?_
        split
        · exact yields_bind_of_forall fun _ => yields_pure (List.forall_mem_nil _)
        · refine yields_bind (node_ih depth _) fun x hx => ?_
          refine yields_bind (items_ih depth path (index + 1)) fun rest hrest => ?_
          exact yields_pure (List.forall_mem_cons.mpr ⟨hx, hrest⟩)
      · intro depth path mark known hknown
        rw [entries]
        refine yields_bind_of_forall fun event => ?_
        split
        · exact yields_bind_of_forall fun _ => yields_pure hknown
        · refine yields_bind (node_ih depth path) fun key hkey => ?_
          split
          · exact yields_throw _
          · next new =>
              refine yields_bind (node_ih depth _) fun value hvalue => ?_
              exact entries_ih depth path mark _ (hknown.snoc new hkey hvalue)

end Tree

/-- In a tree that was read no mapping has a key twice, and the floating keys are doubles. -/
theorem everyMapping_properKeys_ofText {text : List Char} {tree : Yaml}
    (h : ofText text = .ok tree) : tree.EveryMapping ProperKeys := by
  unfold ofText Tree.ofDocument at h
  generalize Document.ofText text = d at h
  simp only [StateT.run] at h
  split at h
  · cases h
    exact everyMapping_null
  · cases read : Tree.node d (Tree.fuel d) Tree.maxDepth .root ⟨0, 0⟩ with
    | error e => rw [read] at h; cases h
    | ok result =>
        have known := (Tree.yields_node d _).1 _ _ _ _ _ read
        rw [read] at h
        simp only [bind, Except.bind] at h
        split at h
        · cases h
        · split at h
          · cases h
            exact known.keys
          · cases h

end Yaml

end SliceContract
