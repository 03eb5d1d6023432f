import SliceContract.Proofs.Json.Places
import SliceContract.Proofs.Yaml.Calls

/-!
# Paths in diagnostics

A conversion shows where it is by the keys on the way, each after a slash. Keys are not escaped
there, and so a path is the pointer of its node only if no key on the way has a tilde or a slash.
The main statements are `path_eq_render_iff` and `shown_eq_render_iff`.
-/

namespace SliceContract

namespace Pointer

/-- The text of a location without escapes. -/
def bareText (l : Location) : List Char := l.flatMap fun step => '/' :: token step

theorem bareText_cons (step : Step) (l : Location) :
    bareText (step :: l) = '/' :: (token step ++ bareText l) := rfl

/-- Escaping makes no text shorter. -/
theorem length_bareText_le (l : Location) : (bareText l).length ≤ (text l).length := by
  induction l with
  | nil => exact Nat.le_refl 0
  | cons step rest ih =>
      rw [bareText_cons, text_cons, List.length_cons, List.length_cons, List.length_append,
        List.length_append, length_escape]
      omega

/-- Escapes only ever add to a text, so none of them goes unnoticed. -/
theorem bareText_eq_text_iff {l : Location} :
    bareText l = text l ↔ ∀ step ∈ l, escape (token step) = token step := by
  induction l with
  | nil => exact iff_of_true rfl (List.forall_mem_nil _)
  | cons step rest ih =>
      rw [List.forall_mem_cons, ← ih, bareText_cons, text_cons, List.cons_inj_right]
      constructor
      · intro same
        have lengths := congrArg List.length same
        rw [List.length_append, List.length_append] at lengths
        have first := length_escape (token step)
        have others := length_bareText_le rest
        obtain ⟨first, others⟩ := List.append_inj same (by omega)
        exact ⟨first.symm, others⟩
      · rintro ⟨first, others⟩
        rw [first, others]

end Pointer

/-- Whether a key has no character that pointers escape. -/
def PlainKey (key : String) : Prop := ∀ c ∈ key.toList, c ≠ '~' ∧ c ≠ '/'

instance (key : String) : Decidable (PlainKey key) :=
  List.decidableBAll (fun c => c ≠ '~' ∧ c ≠ '/') key.toList

/-- Whether the pointer of a location has all keys as they are. -/
def Location.Plain (l : Location) : Prop := ∀ key, .member key ∈ l → PlainKey key

/-- A location is plain if none of its tokens needs escaping. -/
theorem Location.plain_iff {l : Location} :
    l.Plain ↔ ∀ step ∈ l, Pointer.escape (Pointer.token step) = Pointer.token step := by
  simp only [Pointer.escape_eq_self_iff]
  constructor
  · intro plain step mem
    cases step with
    | member key => exact plain key mem
    | element i => exact fun c hc => Pointer.ne_of_isDigit (Pointer.isDigit_of_mem_element c hc)
  · exact fun h key mem => h _ mem

theorem Step.toList_text (step : Step) : step.text.toList = Pointer.token step := by
  cases step with
  | member key => rfl
  | element i =>
      rw [text, Nat.toString_eq_ofList_toDigits, String.toList_ofList, Pointer.token]

namespace Yaml

/-- The keys behind one another, each after a slash. -/
def Keys.path (keys : Keys) : String := String.join (keys.map ("/" ++ ·))

theorem Keys.toList_path (keys : Keys) :
    keys.path.toList = keys.flatMap fun key => '/' :: key.toList := by
  rw [path, String.toList_join, List.flatMap_map]
  refine List.flatMap_congr fun key _ => ?_
  exact String.toList_append

/-- What a path stands for when it is shown. -/
def pathShown (text : String) : String := if text = "(root)" then "" else text

theorem pathShown_text (keys : Keys) : pathShown keys.text = keys.path := by
  cases keys with
  | nil => rfl
  | cons key rest =>
      have slash : (Keys.text (key :: rest)).toList.head? = some '/' := by
        have same : Keys.text (key :: rest) = Keys.path (key :: rest) := rfl
        rw [same, Keys.toList_path]
        rfl
      rw [pathShown, if_neg]
      · rfl
      · intro root
        rw [root] at slash
        cases slash

/-- Keys are not escaped in paths. -/
theorem path_eq_render_iff {l : Location} : l.keys.path = Pointer.render l ↔ l.Plain := by
  have bare : l.keys.path.toList = Pointer.bareText l := by
    rw [Keys.toList_path, Location.keys, List.flatMap_map, Pointer.bareText]
    simp only [Step.toList_text]
  rw [Location.plain_iff, ← Pointer.bareText_eq_text_iff, ← bare, ← Pointer.toList_render,
    String.toList_inj]

/-! ## Values at places -/

/-- Each element is converted on its own, under its index. -/
theorem getElem?_of_items {keys : Keys} {i j : ℕ} {xs : List Yaml} {vs : List Json} {x : Yaml}
    (h : (toJson.items keys i xs).result = .ok vs) (at? : xs[j]? = some x) :
    ∃ v, vs[j]? = some v ∧ (toJson (keys ++ [toString (i + j)]) x).result = .ok v := by
  induction xs generalizing i j vs with
  | nil => cases at?
  | cons first rest ih =>
      rw [toJson.items] at h
      obtain ⟨v, hv, h⟩ := Converted.exists_of_result_bind h
      obtain ⟨more, hrest, same⟩ := Converted.exists_of_result_bind h
      cases same
      cases j with
      | zero =>
          cases at?
          exact ⟨v, rfl, hv⟩
      | succ j =>
          obtain ⟨u, found, hu⟩ := ih hrest at?
          exact ⟨u, found, by rwa [Nat.add_right_comm, Nat.add_assoc] at hu⟩

/-- Each value is converted on its own, under the text of its key. -/
theorem mem_of_members {keys : Keys} {ms : List (Yaml × Yaml)} {ps : List (String × Json)}
    {e : Yaml × Yaml} {key : String} (h : (toJson.members keys ms).result = .ok ps) (mem : e ∈ ms)
    (text : keyText? e.1 = some key) :
    ∃ v, (key, v) ∈ ps ∧ (toJson (keys ++ [key]) e.2).result = .ok v := by
  induction ms generalizing ps with
  | nil => cases mem
  | cons first rest ih =>
      obtain ⟨k, x⟩ := first
      rw [toJson.members] at h
      cases hk : keyText? k with
      | none => rw [hk] at h; cases h
      | some key' =>
          rw [hk] at h
          obtain ⟨v, hv, h⟩ := Converted.exists_of_result_bind h
          obtain ⟨more, hrest, same⟩ := Converted.exists_of_result_bind h
          cases same
          rcases List.mem_cons.mp mem with rfl | mem
          · cases hk.symm.trans text
            exact ⟨v, List.mem_cons_self, hv⟩
          · obtain ⟨u, found, hu⟩ := ih hrest mem
            exact ⟨u, List.mem_cons_of_mem _ found, hu⟩

/-- What a node becomes is found at its place, if no entry takes the place of another. -/
theorem at?_of_leads {tree x : Yaml} {way : Way} {keys : Keys} {v : Json} {l : Location}
    (leads : tree.Leads way (.node x)) (place : tree.location? way = some l)
    (h : (toJson keys tree).result = .ok v) (apart : tree.EveryMapping TextsApart) :
    ∃ u, v.at? l = some u ∧ (toJson (keys ++ l.keys) x).result = .ok u := by
  generalize node : Site.node x = site at leads
  induction leads generalizing keys v l with
  | here y =>
      cases node
      cases place
      exact ⟨v, Json.at?_nil v, by rwa [Location.keys_nil, List.append_nil]⟩
  | @element xs i y rest site at? _ ih =>
      obtain ⟨l', place', rfl⟩ := (location?_element_iff at?).mp place
      rw [toJson] at h
      obtain ⟨vs, items, same⟩ := Converted.exists_of_result_bind h
      cases same
      obtain ⟨w, found, hw⟩ := getElem?_of_items items at?
      rw [Nat.zero_add] at hw
      have inner := everyMapping_sequence.mp apart y (List.mem_of_getElem? at?)
      obtain ⟨u, below, hu⟩ := ih place' hw inner node
      refine ⟨u, ?_, ?_⟩
      · rw [Json.at?_element, found, Option.bind_some, below]
      · rwa [List.append_assoc] at hu
  | key => cases node
  | @value ms i e rest site at? _ ih =>
      obtain ⟨key, text, l', place', rfl⟩ := (location?_value_iff at?).mp place
      rw [toJson] at h
      obtain ⟨ps, members, same⟩ := Converted.exists_of_result_bind h
      cases same
      have mem := List.mem_of_getElem? at?
      obtain ⟨own, inner⟩ := everyMapping_mapping.mp apart
      obtain ⟨w, found, hw⟩ := mem_of_members members mem text
      have keysApart : (ps.map (·.1)).Nodup := by
        rw [TextsApart, map_keyText? (forall₂_members members)] at own
        exact own.of_map
      obtain ⟨u, below, hu⟩ := ih place' hw (inner e mem) node
      refine ⟨u, ?_, ?_⟩
      · rw [Json.at?_member, Entries.lookup_ofList_of_mem keysApart found, Option.bind_some, below]
      · rwa [List.append_assoc] at hu
  | untagged _ ih =>
      rw [location?] at place
      rw [toJson] at h
      obtain ⟨-, -, inner⟩ := Converted.exists_of_result_bind h
      exact ih place inner (everyMapping_tagged.mp apart) node

/-! ## Plain places -/

/-- Whether all keys have plain texts. -/
def PlainTexts (ms : List (Yaml × Yaml)) : Prop :=
  ∀ e ∈ ms, ∀ text ∈ keyText? e.1, PlainKey text

instance (ms : List (Yaml × Yaml)) : Decidable (PlainTexts ms) :=
  inferInstanceAs (Decidable (∀ e ∈ ms, ∀ text ∈ keyText? e.1, PlainKey text))

/-- A tree with plain texts only has plain locations only. -/
theorem plain_of_leads {tree : Yaml} {way : Way} {site : Site} {l : Location}
    (leads : tree.Leads way site) (place : tree.location? way = some l)
    (texts : tree.EveryMapping PlainTexts) : l.Plain := by
  induction leads generalizing l with
  | here x => cases place; exact nofun
  | @element xs i x rest site at? _ ih =>
      obtain ⟨l', place', rfl⟩ := (location?_element_iff at?).mp place
      have inner := ih place' (everyMapping_sequence.mp texts x (List.mem_of_getElem? at?))
      intro key mem
      rcases List.mem_cons.mp mem with same | mem
      · cases same
      · exact inner key mem
  | key at? => cases place; exact nofun
  | @value ms i e rest site at? _ ih =>
      obtain ⟨key, text, l', place', rfl⟩ := (location?_value_iff at?).mp place
      have mem := List.mem_of_getElem? at?
      obtain ⟨own, others⟩ := everyMapping_mapping.mp texts
      have inner := ih place' (others e mem)
      intro other hother
      rcases List.mem_cons.mp hother with same | hother
      · cases same
        exact own e mem key text
      · exact inner other hother
  | untagged _ ih => exact ih (by rwa [location?] at place) (everyMapping_tagged.mp texts)

/-! ## What is shown -/

/-- What is said of what offends. -/
def Offence.problem : Offence → String
  | number n => "number " ++ n.text ++ " has no JSON representation"
  | key k => "unsupported mapping key " ++ k.debug

theorem Offence.message_error (keys : Keys) (o : Offence) :
    (o.error keys).message = keys.text ++ ": " ++ o.problem := by
  cases o with
  | number n =>
      have start : ": number " = ": " ++ "number " := by decide
      calc (Offence.error keys (number n)).message
        _ = keys.text ++ ": number " ++ n.text ++ " has no JSON representation" := rfl
        _ = keys.text ++ ": " ++ ("number " ++ n.text ++ " has no JSON representation") := by
            simp only [start, String.append_assoc]
  | key k =>
      have start : ": unsupported mapping key " = ": " ++ "unsupported mapping key " := by decide
      calc (Offence.error keys (key k)).message
        _ = keys.text ++ ": unsupported mapping key " ++ k.debug := rfl
        _ = keys.text ++ ": " ++ ("unsupported mapping key " ++ k.debug) := by
            simp only [start, String.append_assoc]

/-- What is shown of a document's conversion, in each call, with each tag that is dropped and in
errors, is the pointer of the node at hand if and only if this pointer has no escapes. -/
theorem shown_eq_render_iff (tree : Yaml) :
    (traced [] tree).outcome = toJson [] tree ∧
      (∀ c, c ∈ (traced [] tree).calls ↔ ∃ way l, tree.site? way = some (.node c.node) ∧
        tree.Reached way ∧ tree.location? way = some l ∧ c.keys = l.keys ∧
        (c.keys.path = Pointer.render l ↔ l.Plain)) ∧
      (∀ d ∈ (toJson [] tree).dropped, ∃ way tag x l,
        tree.site? way = some (.node (.tagged tag x)) ∧ tree.location? way = some l ∧
        d = ⟨tagText tag, l.keys⟩ ∧ (pathShown d.keys.text = Pointer.render l ↔ l.Plain) ∧
        ∀ v, (toJson [] tree).result = .ok v → tree.EveryMapping TextsApart →
          ∃ u, (toJson d.keys x).result = .ok u ∧ v.at? l = some u ∧
            (l.Plain → v.pointed? (pathShown d.keys.text) = some u)) ∧
      ∀ e, (toJson [] tree).result = .error e → ∃ way o l, tree.FirstOffence way o ∧
        tree.location? way = some l ∧ e.message = Keys.text l.keys ++ ": " ++ o.problem ∧
        (pathShown (Keys.text l.keys) = Pointer.render l ↔ l.Plain) := by
  have shown : ∀ l : Location, pathShown (Keys.text l.keys) = Pointer.render l ↔ l.Plain := by
    intro l
    rw [pathShown_text, path_eq_render_iff]
  refine ⟨outcome_traced [] tree, ?_, ?_, ?_⟩
  · intro c
    rw [mem_calls_iff]
    constructor
    · rintro ⟨way, l, leads, place, same, reached⟩
      rw [List.nil_append] at same
      exact ⟨way, l, site?_eq_some_iff.mpr leads, reached, place, same, same ▸ path_eq_render_iff⟩
    · rintro ⟨way, l, found, reached, place, same, -⟩
      exact ⟨way, l, site?_eq_some_iff.mp found, place, by rw [same, List.nil_append], reached⟩
  · intro d mem
    rw [dropped_toJson, List.mem_filterMap] at mem
    obtain ⟨way, -, found⟩ := mem
    obtain ⟨tag, tagged, found⟩ := Option.bind_eq_some_iff.mp found
    obtain ⟨l, place, rfl⟩ := Option.map_eq_some_iff.mp found
    obtain ⟨x, leads⟩ := tag?_eq_some_iff.mp tagged
    refine ⟨way, tag, x, l, site?_eq_some_iff.mpr leads, place, rfl, shown l, ?_⟩
    intro v ok apart
    obtain ⟨u, found, hu⟩ := at?_of_leads leads place ok apart
    refine ⟨u, hu, found, fun plain => ?_⟩
    rw [List.nil_append, (shown l).mpr plain]
    exact Json.pointed?_render found
  · intro e failed
    rcases toJson_cases [] tree with ⟨v, -, result⟩ | ⟨way, o, l, offence, place, result⟩
    · rw [result] at failed
      cases failed
    · rw [result] at failed
      cases failed
      exact ⟨way, o, l, offence, place, o.message_error l.keys, shown l⟩

def nestedTags : Yaml :=
  mapping
    [(string "a", sequence [null, tagged "t" (mapping [(number (.int 1), tagged "u" null)])]),
      (bool true, string "x")]

def nestedNaN : Yaml := sequence [tagged "t" (mapping [(string "a", number .nan)])]

/-- The tags inside each other are shown where they were dropped. -/
theorem shown_nestedTags :
    (∃ v, (toJson [] nestedTags).result = .ok v ∧ (toJson [] nestedTags).dropped.length = 2 ∧
      ∀ d ∈ (toJson [] nestedTags).dropped, ∃ x u, (toJson d.keys x).result = .ok u ∧
        v.pointed? (pathShown d.keys.text) = some u) ∧
      ∃ (e : ConversionError) (l : Location) (o : Offence),
        (toJson [] nestedNaN).result = .error e ∧
        e.message = Keys.text l.keys ++ ": " ++ o.problem ∧
        pathShown (Keys.text l.keys) = Pointer.render l := by
  constructor
  · have parts {p : List (Yaml × Yaml) → Prop} : nestedTags.EveryMapping p ↔
        p [(string "a", sequence [null, tagged "t" (mapping [(number (.int 1), tagged "u" null)])]),
            (bool true, string "x")] ∧ p [(number (.int 1), tagged "u" null)] := by
      simp [nestedTags, everyMapping_mapping, everyMapping_sequence, everyMapping_tagged]
    have apart : nestedTags.EveryMapping TextsApart :=
      parts.mpr ⟨by unfold TextsApart; decide, by unfold TextsApart; decide⟩
    have plain : nestedTags.EveryMapping PlainTexts := parts.mpr ⟨by decide, by decide⟩
    refine ⟨_, rfl, rfl, fun d mem => ?_⟩
    obtain ⟨way, tag, x, l, found, place, -, -, resolved⟩ :=
      (shown_eq_render_iff nestedTags).2.2.1 d mem
    obtain ⟨u, hu, -, pointed⟩ := resolved _ rfl apart
    exact ⟨x, u, hu, pointed (plain_of_leads (site?_eq_some_iff.mp found) place plain)⟩
  · have plain : nestedNaN.EveryMapping PlainTexts := by
      have parts : nestedNaN.EveryMapping PlainTexts ↔ PlainTexts [(string "a", number .nan)] := by
        simp [nestedNaN, everyMapping_mapping, everyMapping_sequence, everyMapping_tagged]
      exact parts.mpr (by decide)
    obtain ⟨way, o, l, offence, place, message, path⟩ :=
      (shown_eq_render_iff nestedNaN).2.2.2 _ rfl
    obtain ⟨site, found, -⟩ := Option.bind_eq_some_iff.mp offence.offends
    exact ⟨_, l, o, rfl, message,
      path.mpr (plain_of_leads (site?_eq_some_iff.mp found) place plain)⟩

/-- The first key is written as the pointer of the second one. -/
def misread : Yaml :=
  mapping [(string "a~1b", tagged "t" (string "x")), (string "a/b", string "y")]

/-- A key with a tilde is shown as it is, and that is the pointer of another value. -/
theorem shown_ne_render_misread :
    (toJson [] misread).result = .ok (.object [("a/b", .string "y"), ("a~1b", .string "x")]) ∧
      misread.EveryMapping TextsApart ∧ (toJson [] misread).dropped = [⟨"!t", ["a~1b"]⟩] ∧
      misread.location? [.value 0] = some [.member "a~1b"] ∧
      pathShown (Keys.text ["a~1b"]) = "/a~1b" ∧ Pointer.render [.member "a~1b"] = "/a~01b" ∧
      (Json.object [("a/b", .string "y"), ("a~1b", .string "x")]).pointed? "/a~1b" =
        some (.string "y") := by
  refine ⟨rfl, ?_, rfl, rfl, by decide, by decide, by decide⟩
  simp [misread, everyMapping_mapping, everyMapping_tagged, TextsApart, keyText?]

end Yaml

end SliceContract
