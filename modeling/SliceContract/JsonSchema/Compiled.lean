import SliceContract.JsonSchema.Metaschema
import SliceContract.JsonSchema.Reference
import SliceContract.JsonSchema.Relating

/-!
# Compiled documents

A document becomes executable when it is a schema of its draft, no part of it is unfit, and its
references lead somewhere. References are followed while a value is judged. They may lead round in a
circle without ever coming to a smaller value, and then there is no answer.
-/

namespace SliceContract

/-- Why a document cannot be compiled. -/
inductive BuildError where
  | objection (o : Objection)
  | reference (e : Reference.Error)
  deriving DecidableEq, Repr

namespace BuildError

def reason : BuildError → String
  | objection o => o.message
  | reference e => e.message

def message (e : BuildError) : String := "validator build error: " ++ e.reason

end BuildError

/-! ## Where references may lead -/

namespace Reference

/-- The parts of a value with the contexts in which a pointer finds them; the value takes part in
its document at a site. -/
def walks (site : Site) (c : Context) : Json → List Subschema
  | .array xs => ⟨c, .array xs⟩ :: items site c 0 xs
  | .object ms => ⟨c, .object ms⟩ :: members site c ms
  | v => [⟨c, v⟩]
where
  items (site : Site) (c : Context) : Nat → List Json → List Subschema
    | _, [] => []
    | i, x :: rest =>
      let inner := site.step c.draft (.element i)
      walks inner (inner.context c x) x ++ items site c (i + 1) rest
  members (site : Site) (c : Context) : List (String × Json) → List Subschema
    | [] => []
    | (key, x) :: rest =>
      let inner := site.step c.draft (.member key)
      walks inner (inner.context c x) x ++ members site c rest

/-- Whatever a reference in a document can name. -/
def targets (root : Subschema) : List Subschema :=
  (root :: root.schemas).flatMap fun s => walks .schema s.context s.document

/-- All references that stand in a document as a schema, or in what these can name. -/
def reachable (root : Subschema) : List Reference :=
  (root :: targets root).flatMap fun s => s.read.demands.filterMap Demand.reference?

end Reference

/-! ## Compiling -/

/-- A document that has been found fit, with the options it is read under. -/
structure Compiled where
  document : Json
  options : Options
  deriving DecidableEq, Repr

namespace Compiled

/-- The document in its context. -/
def root (c : Compiled) : Subschema := ⟨.root c.options c.document, c.document⟩

/-- Meet one demand of a document. References that were seen before are not followed again; `within`
meets what a part of the document depends on. -/
def meet (root : Subschema)
    (within : List Reference → List Demand → Except BuildError (List Reference))
    (seen : List Reference) : Demand → Except BuildError (List Reference)
  | .objection o => .error (.objection o)
  | .reference r =>
    if seen.contains r then .ok seen
    else
      match Reference.resolve root r with
      | .ok target => within (r :: seen) target.read.demands
      | .error e => .error (.reference e)

/-- Meet demands in turn, following at most `fuel` references into each other. -/
def meetAll (root : Subschema) :
    Nat → List Reference → List Demand → Except BuildError (List Reference)
  | 0, seen, _ => .ok seen
  | fuel + 1, seen, demands => demands.foldlM (meet root (meetAll root fuel)) seen

/-- Compile a document under the options. -/
def build (document : Json) (options : Options) : Except BuildError Compiled :=
  let c : Compiled := ⟨document, options⟩
  match Metaschema.objection? options.draft document with
  | some o => .error (.objection o)
  | none =>
    match meetAll c.root ((Reference.reachable c.root).length + 1) [] c.root.read.demands with
    | .ok _ => .ok c
    | .error e => .error e

/-! ## Judging -/

/-- The second computation has the answer of the first, if that has one. -/
def extending : Correspondence Option Option where
  rel x y := ∀ a, x = some a → y = some a
  pure _ _ h := h
  bind := by
    intro α β x y f g hx hf b h
    obtain ⟨a, ha, hb⟩ := Option.bind_eq_some_iff.mp h
    exact Option.bind_eq_some_iff.mpr ⟨a, hx a ha, hf a b hb⟩

/-- The schema that a reference names. -/
def target (c : Compiled) (r : Reference) : JsonSchema :=
  match Reference.resolve c.root r with
  | .ok s => s.read
  | .error _ => .always

/-- What a reference means. It is judged by the schema that it names, and the references in that are
followed in turn. -/
def answer (c : Compiled) (r : Reference) (q : Question) (v : Json) : Option q.Answer :=
  -- The references in that schema are answered in the same document.
  (c.target r).judge (by apply answer; exact c) q v
partial_fixpoint monotonicity by
  intro f g below r q v
  dsimp only
  have related : ∀ r, Judge.Rel extending (f r) (g r) := by
    intro r q v
    have step := below r q v
    generalize f r q v = x at step ⊢
    generalize g r q v = y at step ⊢
    intro a found
    cases step with
    | bot => cases found
    | refl => exact found
  have extended := JsonSchema.judge_rel extending (s := c.target r) (fun r _ => related r) q v
  cases h : JsonSchema.judge f (c.target r) q v with
  | none => exact .bot
  | some a =>
      rw [extended a h]
      exact .refl

/-- The judge of a part of the document. -/
def part (c : Compiled) (s : Subschema) : Judge Option := s.read.judge c.answer

/-- Whether a value is accepted, if there is an answer. -/
def accepts (c : Compiled) (v : Json) : Option Bool := c.part c.root .verdict v

/-- Everything that is wrong with a value, if there is an answer. -/
def failures (c : Compiled) (v : Json) : Option (List Failure) := c.part c.root .report v

end Compiled

end SliceContract
