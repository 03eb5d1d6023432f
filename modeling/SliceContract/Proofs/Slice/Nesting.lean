import Mathlib.Data.List.Basic
import SliceContract.Proofs.Slice.Nodes

/-!
# How deep a lowering goes

A call of the lowering makes one call for each slice right inside its own, so the calls that are
open at one time lie inside each other. They are counted here in two ways: by keeping count of those
that are open, and by refusing to open more than so many. Both times the number is the depth of the
slice. The main statement is `nesting_eq_depth`.
-/

namespace SliceContract

/-! ## Accounts of depth -/

section Accounts

variable {m n : Type → Type} [Monad m] [Monad n] [MonadLift m n] {V : Type}

/-- The engine that does the same in a monad that can do more. -/
def Engine.lifted (E : Engine m V) : Engine n V where
  string := MonadLift.monadLift E.string
  object fields := MonadLift.monadLift (E.object fields)
  array element := MonadLift.monadLift (E.array element)
  allOf operands := MonadLift.monadLift (E.allOf operands)
  never := MonadLift.monadLift E.never

/-- What it means for a computation to do what another one does, and to open as many calls inside
each other as given. Parts that follow each other open as many as the deeper one. -/
structure Account (m n : Type → Type) [Monad m] [Monad n] [MonadLift m n] where
  Holds {A : Type} (depth : Nat) (x : n A) (y : m A) : Prop
  pure {A : Type} (a : A) : Holds 0 (Pure.pure a) (Pure.pure a)
  lift {A : Type} (y : m A) : Holds 0 (MonadLift.monadLift y) y
  bind {A B : Type} {d e : Nat} {x : n A} {y : m A} {f : A → n B} {g : A → m B} :
    Holds d x y → (∀ a, Holds e (f a) (g a)) → Holds (max d e) (x >>= f) (y >>= g)

namespace Account

variable (account : Account m n) {A B : Type} {d : Nat} {x : n A} {y : m A} {f : A → n B}
  {g : A → m B}

/-- Nothing is opened before. -/
theorem after (hx : account.Holds 0 x y) (hf : ∀ a, account.Holds d (f a) (g a)) :
    account.Holds d (x >>= f) (y >>= g) := by
  have both := account.bind hx hf
  rwa [Nat.zero_max] at both

/-- Nothing is opened behind. -/
theorem before (hx : account.Holds d x y) (hf : ∀ a, account.Holds 0 (f a) (g a)) :
    account.Holds d (x >>= f) (y >>= g) := by
  have both := account.bind hx hf
  rwa [Nat.max_zero] at both

/-- A list of computations goes as deep as the deepest of them. -/
theorem mapM [LawfulMonad m] [LawfulMonad n] {f : A → n B} {g : A → m B} {depth : A → Nat}
    {xs : List A} (h : ∀ a ∈ xs, account.Holds (depth a) (f a) (g a)) :
    account.Holds ((xs.map depth).foldr max 0) (xs.mapM f) (xs.mapM g) := by
  induction xs with
  | nil => exact account.pure []
  | cons a rest ih =>
      obtain ⟨first, others⟩ := List.forall_mem_cons.mp h
      rw [List.mapM_cons, List.mapM_cons]
      apply account.bind first
      intro b
      apply account.before (ih others)
      intro bs
      exact account.pure (b :: bs)

open Slice

variable (E : Engine m V) (observe : Event → m Unit)

theorem merge (vs : List V) :
    account.Holds 0 ((E.lifted : Engine n V).merge vs) (E.merge vs) := by
  match vs with
  | [] => exact account.lift E.never
  | [only] => exact account.pure only
  | first :: second :: rest => exact account.lift (E.allOf ⟨first, second :: rest⟩)

theorem lowerField (field : Field V) :
    account.Holds 0 (Slice.lowerField (E.lifted : Engine n V) field)
      (Slice.lowerField E field) := by
  cases field with
  | text key =>
      apply account.after (account.lift E.string)
      intro v
      exact account.lift (E.object [(key, v)])
  | data key v => exact account.lift (E.object [(key, v)])

theorem lowerFields (fields : List (Field V)) :
    account.Holds 0 (Slice.lowerFields (E.lifted : Engine n V) fields)
      (Slice.lowerFields E fields) := by
  induction fields with
  | nil => exact account.pure []
  | cons field rest ih =>
      apply account.after (account.lowerField E field)
      intro v
      apply account.after ih
      intro vs
      exact account.pure (v :: vs)

theorem reportShared (parent : String) (keys : List String) :
    account.Holds 0
      (Slice.reportShared (fun event => (MonadLift.monadLift (observe event) : n Unit)) parent keys)
      (Slice.reportShared observe parent keys) := by
  induction keys with
  | nil => exact account.pure ()
  | cons key rest ih => exact account.after (account.lift _) fun _ => ih

end Account

end Accounts

namespace Slice

/-! ## One call -/

section Depth

variable {S : Type}

/-- A slice is one deeper than the deepest of its children. -/
theorem depth_eq (slice : Slice S) :
    slice.depth = (slice.children.map depth).foldr max 0 + 1 := by
  cases slice with
  | leaf field => rfl
  | multi main others => rfl
  | array key child => simp [depth, children, Nat.add_comm]
  | object key children =>
      have deepest (slices : List (Slice S)) :
          depth.deepest slices = (slices.map depth).foldr max 0 := by
        induction slices with
        | nil => rfl
        | cons slice rest ih => rw [depth.deepest, ih, List.map_cons, List.foldr_cons]
      rw [depth, deepest, Nat.add_comm]
      rfl

theorem depth_lt_of_mem_children {slice child : Slice S} (h : child ∈ slice.children) :
    child.depth < slice.depth := by
  have bound (depths : List Nat) : ∀ d ∈ depths, d ≤ depths.foldr max 0 := by
    induction depths with
    | nil => exact List.forall_mem_nil _
    | cons d rest ih =>
        rw [List.forall_mem_cons, List.foldr_cons]
        refine ⟨Nat.le_max_left _ _, fun e he => ?_⟩
        exact Nat.le_trans (ih e he) (Nat.le_max_right _ _)
  rw [depth_eq slice]
  exact Nat.lt_succ_of_le (bound _ _ (List.mem_map_of_mem h))

end Depth

section Calls

variable {m : Type → Type} [Monad m] {V : Type}

/-- What one call of the lowering does, with the calls for the slices right inside left open. -/
def lowerOnce (engine : Engine m V) (observe : Event → m Unit) :
    (slice : Slice V) → (∀ child ∈ slice.children, m V) → m V
  | leaf field, _ => do
    observe (.lowering (leaf field).kind (some field.key))
    lowerField engine field
  | multi main others, _ => do
    observe (.lowering .multi none)
    reportShared observe main.key (multi main others).duplicateKeys
    let fields ← lowerFields engine (main :: auxiliary others)
    engine.merge fields
  | array key child, call => do
    observe (.lowering .array (some key))
    let element ← call child (List.mem_singleton_self child)
    let value ← engine.array element
    engine.object [(key, value)]
  | object key children, call => do
    observe (.lowering .object (some key))
    reportShared observe key (object key children).duplicateKeys
    let values ← children.toList.attach.mapM fun child => call child.1 child.2
    let value ← engine.merge values
    engine.object [(key, value)]

variable [LawfulMonad m]

/-- Elements may be taken with the proof of where they come from. -/
theorem mapM_attach {α β : Type} (f : α → m β) (xs : List α) :
    (xs.attach.mapM fun x => f x.1) = xs.mapM f := by
  calc (xs.attach.mapM fun x => f x.1)
    _ = (xs.attach.map Subtype.val).mapM f := List.mapM_map.symm
    _ = xs.mapM f := by rw [List.attach_map_subtype_val]

/-- A lowering is a call that makes lowerings of what is right inside. -/
theorem lowerM_eq_lowerOnce (engine : Engine m V) (observe : Event → m Unit) (slice : Slice V) :
    slice.lowerM engine observe =
      lowerOnce engine observe slice fun child _ => child.lowerM engine observe := by
  cases slice with
  | leaf field => rfl
  | multi main others => rfl
  | array key child => rfl
  | object key children =>
      have all (slices : List (Slice V)) :
          lowerM.lowerAll engine observe slices = slices.mapM (lowerM engine observe) := by
        induction slices with
        | nil => rfl
        | cons slice rest ih => rw [lowerM.lowerAll, ih, List.mapM_cons]
      rw [lowerOnce, mapM_attach, NonEmpty.toList, List.mapM_cons, ← all, lowerM]
      simp only [bind_assoc, pure_bind]

/-- If each call that is made has an account, then so has the call that makes them: it opens as many
as the deepest of them. -/
theorem holds_lowerOnce {n : Type → Type} [Monad n] [LawfulMonad n] [MonadLift m n]
    (account : Account m n) (E : Engine m V) (observe : Event → m Unit) (slice : Slice V)
    {call : ∀ child ∈ slice.children, n V}
    (h : ∀ child hc, account.Holds child.depth (call child hc) (child.lowerM E observe)) :
    account.Holds ((slice.children.map depth).foldr max 0)
      (lowerOnce E.lifted (fun event => MonadLift.monadLift (observe event)) slice call)
      (slice.lowerM E observe) := by
  rw [lowerM_eq_lowerOnce]
  cases slice with
  | leaf field => exact account.after (account.lift _) fun _ => account.lowerField E field
  | multi main others =>
      apply account.after (account.lift _)
      intro _
      apply account.after (account.reportShared observe main.key _)
      intro _
      apply account.after (account.lowerFields E _)
      intro fields
      exact account.merge E fields
  | array key child =>
      have only : ((array key child).children.map depth).foldr max 0 = child.depth :=
        Nat.max_zero _
      rw [only]
      apply account.after (account.lift _)
      intro _
      apply account.before (h child _)
      intro element
      apply account.after (account.lift _)
      intro value
      exact account.lift _
  | object key children =>
      have all : (object key children).children.map depth =
          children.toList.attach.map fun child => child.1.depth := (List.attach_map_val ..).symm
      rw [all]
      apply account.after (account.lift _)
      intro _
      apply account.after (account.reportShared observe key _)
      intro _
      apply account.before (account.mapM fun child _ => h child.1 child.2)
      intro values
      apply account.after (account.merge E values)
      intro value
      exact account.lift _

end Calls

end Slice

/-! ## Counting the calls that are open -/

/-- How many calls are open, and the most that have been open at one time. -/
@[ext]
structure Frames where
  opened : Nat
  deepest : Nat
  opened_le : opened ≤ deepest := by omega

namespace Frames

def start : Frames where
  opened := 0
  deepest := 0

def enter (frames : Frames) : Frames where
  opened := frames.opened + 1
  deepest := max frames.deepest (frames.opened + 1)

def leave (frames : Frames) : Frames where
  opened := frames.opened - 1
  deepest := frames.deepest
  opened_le := Nat.le_trans (Nat.sub_le _ _) frames.opened_le

/-- After that many more calls have been open, and are no longer. -/
def reach (frames : Frames) (depth : Nat) : Frames where
  opened := frames.opened
  deepest := max frames.deepest (frames.opened + depth)
  opened_le := Nat.le_trans frames.opened_le (Nat.le_max_left _ _)

theorem reach_zero (frames : Frames) : frames.reach 0 = frames := by
  ext
  · rfl
  · exact Nat.max_eq_left frames.opened_le

theorem reach_reach (frames : Frames) (d e : Nat) :
    (frames.reach d).reach e = frames.reach (max d e) := by
  ext
  · rfl
  · simp only [reach]
    omega

/-- A call reaches one further than what it does. -/
theorem leave_reach_enter (frames : Frames) (d : Nat) :
    (frames.enter.reach d).leave = frames.reach (d + 1) := by
  ext
  · rfl
  · simp only [reach, enter, leave]
    omega

section

variable {m : Type → Type} [Monad m]

/-- A computation as a call, which is open while the computation runs. -/
def call {A : Type} (x : StateT Frames m A) : StateT Frames m A := do
  modify enter
  let a ← x
  modify leave
  return a

variable [LawfulMonad m]

/-- The account by the frames that are left. -/
def account : Account m (StateT Frames m) where
  Holds d x y := ∀ frames, x.run frames = (fun a => (a, frames.reach d)) <$> y
  pure a frames := by
    rw [reach_zero, map_pure]
    rfl
  lift y frames := by
    rw [reach_zero, map_eq_pure_bind]
    rfl
  bind {A B d e x y f g} hx hf frames := by
    calc (x >>= f).run frames
      _ = x.run frames >>= fun p => (f p.1).run p.2 := rfl
      _ = y >>= fun a => (f a).run (frames.reach d) := by rw [hx, bind_map_left]
      _ = y >>= fun a => (fun b => (b, frames.reach (max d e))) <$> g a := by
          simp only [hf _ (frames.reach d), reach_reach]
      _ = (fun b => (b, frames.reach (max d e))) <$> (y >>= g) := (map_bind _ _ _).symm

/-- A call goes one deeper than what is done in it. -/
theorem holds_call {A : Type} {d : Nat} {x : StateT Frames m A} {y : m A}
    (h : account.Holds d x y) : account.Holds (d + 1) (call x) y := by
  intro frames
  calc (call x).run frames
    _ = x.run frames.enter >>= fun p => pure (p.1, p.2.leave) := by simp [call]
    _ = (fun a => (a, frames.reach (d + 1))) <$> y := by
        rw [h, bind_map_left, map_eq_pure_bind]
        simp only [leave_reach_enter]

end

end Frames

namespace Slice

/-- The lowering, keeping count of the calls that are open. -/
def lowerWatched {m : Type → Type} [Monad m] {V : Type} (E : Engine m V)
    (observe : Event → m Unit) (slice : Slice V) : StateT Frames m V :=
  Frames.call <| lowerOnce E.lifted (fun event => MonadLift.monadLift (observe event)) slice
    fun child _ => lowerWatched E observe child
termination_by slice.depth
decreasing_by exact depth_lt_of_mem_children ‹_›

/-- Lowering under watch opens as many calls inside each other as the slice is deep. -/
theorem holds_lowerWatched {m : Type → Type} [Monad m] [LawfulMonad m] {V : Type}
    (E : Engine m V) (observe : Event → m Unit) (slice : Slice V) :
    Frames.account.Holds slice.depth (slice.lowerWatched E observe) (slice.lowerM E observe) := by
  induction slice using node_induction with
  | step slice ih =>
      rw [lowerWatched, depth_eq]
      exact Frames.holds_call (holds_lowerOnce Frames.account E observe slice ih)

/-! ## Opening so many calls at most -/

section Limits

variable {m : Type → Type} [Monad m] {V : Type}

/-- Whether a computation ends without a value, whatever it does before. -/
def Refuses {A : Type} (x : OptionT m A) : Prop :=
  ∃ before : m Unit, x.run = before >>= fun _ => pure none

/-- The lowering, unless more calls would be open at one time than the limit. -/
def lowerWithin (E : Engine m V) (observe : Event → m Unit) : Nat → Slice V → OptionT m V
  | 0, _ => failure
  | limit + 1, slice =>
    lowerOnce E.lifted (fun event => MonadLift.monadLift (observe event)) slice fun child _ =>
      lowerWithin E observe limit child

variable [LawfulMonad m]

section Refusals

variable {A B : Type}

/-- A refusal is final. -/
theorem Refuses.bind {x : OptionT m A} (hx : Refuses x) (f : A → OptionT m B) :
    Refuses (x >>= f) := by
  obtain ⟨before, run⟩ := hx
  refine ⟨before, ?_⟩
  rw [OptionT.run_bind, Option.elimM, run, bind_assoc]
  simp only [pure_bind, Option.elim_none]

theorem refuses_bind (x : OptionT m A) {f : A → OptionT m B} (hf : ∀ a, Refuses (f a)) :
    Refuses (x >>= f) := by
  choose before run using hf
  refine ⟨x.run >>= fun a? => a?.elim (pure ()) before, ?_⟩
  rw [OptionT.run_bind, Option.elimM, bind_assoc]
  apply bind_congr
  intro a?
  cases a? with
  | none => simp
  | some a => exact run a

end Refusals

/-- The account by what the limit allows: a computation that stays below ends as the other one does,
and one that does not ends without a value. -/
def limitAccount (limit : Nat) : Account m (OptionT m) where
  Holds d x y := (d ≤ limit → x.run = some <$> y) ∧ (limit < d → Refuses x)
  pure a := by
    refine ⟨fun _ => ?_, fun beyond => absurd beyond (Nat.not_lt_zero limit)⟩
    rw [map_pure]
    rfl
  lift y := by
    refine ⟨fun _ => ?_, fun beyond => absurd beyond (Nat.not_lt_zero limit)⟩
    rw [map_eq_pure_bind]
    rfl
  bind {A B d e x y f g} hx hf := by
    constructor
    · intro within
      obtain ⟨hd, he⟩ := Nat.max_le.mp within
      calc (x >>= f).run
        _ = Option.elimM x.run (pure none) fun a => (f a).run := OptionT.run_bind ..
        _ = y >>= fun a => (f a).run := by
            rw [hx.1 hd, Option.elimM, bind_map_left]
            rfl
        _ = y >>= fun a => some <$> g a := bind_congr fun a => (hf a).1 he
        _ = some <$> (y >>= g) := (map_bind _ _ _).symm
    · intro beyond
      by_cases hd : limit < d
      · exact (hx.2 hd).bind f
      · have he : limit < e := by omega
        exact refuses_bind x fun a => (hf a).2 he

/-- Lowering within a limit does what lowering does if the limit reaches to the depth, and refuses
if it does not. -/
theorem holds_lowerWithin (E : Engine m V) (observe : Event → m Unit) (limit : Nat)
    (slice : Slice V) :
    (limitAccount limit).Holds slice.depth (lowerWithin E observe limit slice)
      (slice.lowerM E observe) := by
  induction limit generalizing slice with
  | zero =>
      rw [depth_eq]
      refine ⟨fun within => absurd within (Nat.not_succ_le_zero _), fun _ => ⟨pure (), ?_⟩⟩
      rw [pure_bind]
      rfl
  | succ limit ih =>
      obtain ⟨within, beyond⟩ := holds_lowerOnce (limitAccount limit) E observe slice
        fun child _ => ih child
      rw [depth_eq, lowerWithin]
      exact ⟨fun h => within (Nat.le_of_succ_le_succ h),
        fun h => beyond (Nat.lt_of_succ_lt_succ h)⟩

end Limits

section Endings

variable {V : Type} (slice : Slice V) (limit : Nat)

/-- With an engine that keeps a state. -/
theorem run_lowerWithin_iff {σ : Type} (E : Engine (StateM σ) V) (observe : Event → StateM σ Unit)
    (s : σ) (v : V) (s' : σ) :
    (slice.lowerWithin E observe limit).run.run s = (some v, s') ↔
      slice.depth ≤ limit ∧ (slice.lowerM E observe).run s = (v, s') := by
  obtain ⟨within, beyond⟩ := holds_lowerWithin E observe limit slice
  by_cases deep : slice.depth ≤ limit
  · have run : (slice.lowerWithin E observe limit).run.run s =
        (some ((slice.lowerM E observe).run s).1, ((slice.lowerM E observe).run s).2) := by
      rw [within deep]
      rfl
    cases ran : (slice.lowerM E observe).run s with
    | mk w t =>
        rw [run, ran]
        constructor
        · intro same
          cases same
          exact ⟨deep, rfl⟩
        · rintro ⟨-, same⟩
          cases same
          rfl
  · constructor
    · intro ended
      obtain ⟨before, run⟩ := beyond (Nat.lt_of_not_le deep)
      rw [run] at ended
      cases ended
    · exact fun h => absurd h.1 deep

/-- With an engine without effects. -/
theorem lowerWithin_eq_some_iff (E : Engine Id V) (v : V) :
    (slice.lowerWithin E (fun _ => pure ()) limit).run.run = some v ↔
      slice.depth ≤ limit ∧ slice.lower E = v := by
  obtain ⟨within, beyond⟩ := holds_lowerWithin E (fun _ => pure ()) limit slice
  by_cases deep : slice.depth ≤ limit
  · have run : (slice.lowerWithin E (fun _ => pure ()) limit).run.run = some (slice.lower E) := by
      rw [within deep]
      rfl
    rw [run, Option.some.injEq]
    exact (and_iff_right deep).symm
  · obtain ⟨before, run⟩ := beyond (Nat.lt_of_not_le deep)
    rw [run]
    exact iff_of_false nofun fun h => deep h.1

end Endings

end Slice

/-- While a slice is lowered, as many calls are open at one time as the slice is deep, and what
comes out is what the lowering makes. With a limit on the calls that are open the lowering ends
exactly if the slice is no deeper than the limit, and then with the same validator; so it is for
engines without effects, and for engines in any state. -/
theorem nesting_eq_depth {V : Type} (slice : Slice V) :
    (∀ E : Engine Id V,
      (slice.lowerWatched E fun _ => pure ()).run .start =
          (slice.lower E, { opened := 0, deepest := slice.depth }) ∧
        ∀ limit v, (slice.lowerWithin E (fun _ => pure ()) limit).run.run = some v ↔
          slice.depth ≤ limit ∧ slice.lower E = v) ∧
    ∀ {σ : Type} (E : Engine (StateM σ) V) (observe : Event → StateM σ Unit),
      (slice.lowerWatched E observe).run .start =
          (fun v => (v, { opened := 0, deepest := slice.depth })) <$> slice.lowerM E observe ∧
        ∀ limit s v s', (slice.lowerWithin E observe limit).run.run s = (some v, s') ↔
          slice.depth ≤ limit ∧ (slice.lowerM E observe).run s = (v, s') := by
  have start : Frames.start.reach slice.depth = { opened := 0, deepest := slice.depth } := by
    simp only [Frames.reach, Frames.start, Nat.zero_add, Nat.zero_max]
  constructor
  · intro E
    refine ⟨?_, fun limit v => slice.lowerWithin_eq_some_iff limit E v⟩
    rw [Slice.holds_lowerWatched E _ slice Frames.start, start]
    rfl
  · intro σ E observe
    refine ⟨?_, fun limit s v s' => slice.run_lowerWithin_iff limit E observe s v s'⟩
    rw [Slice.holds_lowerWatched E observe slice Frames.start, start]

end SliceContract
