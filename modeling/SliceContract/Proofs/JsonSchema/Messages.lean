import SliceContract.Proofs.Json.Compact
import SliceContract.Proofs.JsonSchema.Names

/-!
# Messages that stay in one line

The message of a cause shows values in their compact text, which has no newline. Only the pattern
that nothing was found for and the keys that were not expected, or not evaluated, are shown as they
are. The main statement is `Cause.oneLine_message`.
-/

namespace SliceContract

open Text

namespace Cause

/-- The texts that a violation shows as they are. A missing key is one of them: it is quoted in the
message, but named as the field. -/
def verbatim : Cause → List String
  | missing key => [key]
  | noMatch pattern => [pattern]
  | unexpectedKeys keys => keys
  | unevaluatedKeys keys => keys
  | _ => []

/-! ## Parts of messages -/

/-- A fixed text, which has its characters in the program. -/
theorem oneLine_fixed {cs : List Char} (h : '\n' ∉ cs) : OneLine (String.ofList cs) :=
  (oneLine_ofList cs).mpr h

/-- What is said of a value stays in one line whatever the value is. -/
theorem oneLine_its (subject : Json) (what : String) :
    OneLine (subject.compact ++ " " ++ what) ↔ OneLine what := by
  have space : OneLine " " := oneLine_fixed (by decide)
  simp [Json.oneLine_compact, space]

theorem oneLine_limit {what : String} (h : OneLine what) (limit : Json.Number) :
    OneLine (what ++ numberText limit) := by
  rw [oneLine_append, numberText, oneLine_ofList]
  exact ⟨h, Json.newline_not_mem_number limit⟩

/-- A comparison with a number of things, whatever these are called. -/
theorem oneLine_counted {what singular plural : String} (h : OneLine what) (n : Nat)
    (one : OneLine singular) (several : OneLine plural) :
    OneLine (what ++ counted n singular plural) := by
  have space : OneLine " " := oneLine_fixed (by decide)
  rw [counted]
  simp only [oneLine_append]
  refine ⟨h, ⟨oneLine_toString n, space⟩, ?_⟩
  split
  · exact one
  · exact several

/-- A list of keys is of one line if all the keys are; they are shown verbatim. -/
theorem oneLine_unexpectedText {what : String} (h : OneLine what) (unexpected : List String) :
    OneLine (unexpectedText what unexpected) ↔ ∀ text ∈ unexpected, OneLine text := by
  have comma : OneLine ", " := oneLine_fixed (by decide)
  have between : OneLine " are not allowed (" := oneLine_fixed (by decide)
  have behind : OneLine " unexpected)" := oneLine_fixed (by decide)
  have verb : OneLine (if unexpected.length = 1 then " was" else " were") := by
    split <;> decide
  have shown : unexpectedText what unexpected =
      what ++ " are not allowed (" ++ ", ".intercalate unexpected ++
        (if unexpected.length = 1 then " was" else " were") ++ " unexpected)" := rfl
  simp only [shown, oneLine_append, oneLine_intercalate comma, h, between, behind, verb,
    true_and, and_true]

/-- Keys are shown as they are, between quotes that are no part of them. -/
theorem oneLine_keysText {what : String} (h : OneLine what) (keys : List String) :
    OneLine (unexpectedText what (keysText keys)) ↔ ∀ key ∈ keys, OneLine key := by
  have quote : OneLine "'" := oneLine_fixed (by decide)
  rw [oneLine_unexpectedText h, keysText, List.forall_mem_map]
  simp [quote]

/-- A list of values is of one line whatever they are. -/
theorem oneLine_compacts {what : String} (h : OneLine what) (values : List Json) :
    OneLine (unexpectedText what (values.map Json.compact)) :=
  (oneLine_unexpectedText h _).mpr (List.forall_mem_map.mpr fun x _ => Json.oneLine_compact x)

theorem oneLine_typeText (types : List TypeName) : OneLine (typeText types) := by
  have comma : OneLine ", " := oneLine_fixed (by decide)
  have quoted (t : TypeName) : OneLine ("\"" ++ t.name ++ "\"") := by cases t <;> decide
  rw [typeText, oneLine_append, oneLine_intercalate comma, List.forall_mem_map]
  refine ⟨?_, fun t _ => quoted t⟩
  split <;> decide

theorem oneLine_fault (fault : Utf8.Fault) : OneLine fault.message := by
  have atIndex : OneLine " bytes from index " := oneLine_fixed (by decide)
  have cut : OneLine "incomplete utf-8 byte sequence from index " := oneLine_fixed (by decide)
  have wrong : OneLine "invalid utf-8 sequence of " := oneLine_fixed (by decide)
  obtain ⟨index, length?⟩ := fault
  cases length? with
  | none =>
      have shown : Utf8.Fault.message ⟨index, none⟩ =
          "incomplete utf-8 byte sequence from index " ++ toString index := rfl
      rw [shown, oneLine_append]
      exact ⟨cut, oneLine_toString index⟩
  | some length =>
      have shown : Utf8.Fault.message ⟨index, some length⟩ = "invalid utf-8 sequence of " ++
          toString length ++ " bytes from index " ++ toString index := rfl
      rw [shown, oneLine_append, oneLine_append, oneLine_append]
      exact ⟨⟨⟨wrong, oneLine_toString length⟩, atIndex⟩, oneLine_toString index⟩

/-! ## Messages -/

/-- A missing key is quoted, and so its message is of one line whatever the key is. -/
theorem oneLine_message_missing (subject : Json) (key : String) :
    OneLine ((missing key).message subject) :=
  (oneLine_append _ _).mpr ⟨Json.oneLine_compact _, oneLine_fixed (by decide)⟩

/-- A message stays in one line exactly when the texts do that it shows as they are. -/
theorem oneLine_message (subject : Json) {cause : Cause} (named : cause.Named)
    (present : ∀ key, cause ≠ .missing key) :
    OneLine (cause.message subject) ↔ ∀ text ∈ cause.verbatim, OneLine text := by
  have plain {text : String} (h : OneLine text) :
      OneLine text ↔ ∀ text ∈ ([] : List String), OneLine text :=
    iff_of_true h (List.forall_mem_nil _)
  have its {what : String} (h : OneLine what) := plain ((oneLine_its subject what).mpr h)
  have both {s t : String} (hs : OneLine s) (ht : OneLine t) := (oneLine_append s t).mpr ⟨hs, ht⟩
  have fixed {cs : List Char} (h : '\n' ∉ cs) : OneLine (String.ofList cs) := oneLine_fixed h
  have value := Json.oneLine_compact subject
  cases cause with
  | missing key => exact absurd rfl (present key)
  | wrongType expected => exact its (oneLine_typeText expected)
  | belowMinimum limit | aboveMaximum limit | notAboveMinimum limit | notBelowMaximum limit =>
      exact its (oneLine_limit (fixed (by decide)) limit)
  | notMultiple step =>
      have text : OneLine (String.ofList (Layout.plain.text step)) :=
        (oneLine_ofList _).mpr (Layout.Numeral.text .plain step).newline_not_mem
      exact its (both (fixed (by decide)) text)
  | tooShort n | tooLong n | tooFewItems n | tooManyItems n | tooFewProperties n
  | tooManyProperties n =>
      exact its (oneLine_counted (fixed (by decide)) n (fixed (by decide)) (fixed (by decide)))
  | noMatch pattern =>
      have shown : (noMatch pattern).message subject =
          subject.compact ++ " " ++ ("does not match \"" ++ pattern ++ "\"") := rfl
      have before : OneLine "does not match \"" := fixed (by decide)
      have behind : OneLine "\"" := fixed (by decide)
      rw [shown, oneLine_its]
      simp [verbatim, before, behind]
  | unknownType =>
      have text : OneLine "Unexpected type" := fixed (by decide)
      exact plain text
  | searchExhausted =>
      have text : OneLine "Error executing regex: Max limit for backtracking count exceeded" :=
        fixed (by decide)
      exact plain text
  | wrongFormat name =>
      obtain ⟨format, rfl⟩ := named
      have name : OneLine format.name := by cases format <;> exact fixed (by decide)
      exact its (both (both (fixed (by decide)) name) (fixed (by decide)))
  | notBase64 =>
      have text : OneLine "is not compliant with \"base64\" content encoding" := fixed (by decide)
      exact its text
  | notJson =>
      have text : OneLine "is not compliant with \"application/json\" media type" :=
        fixed (by decide)
      exact its text
  | undecodable fault => exact plain (oneLine_fault fault)
  | notListed options =>
      exact its (both (fixed (by decide)) (Json.oneLine_compact (.array options)))
  | notConstant expected => exact plain (both (Json.oneLine_compact expected) (fixed (by decide)))
  | repeatedItems =>
      have text : OneLine "has non-unique elements" := fixed (by decide)
      exact its text
  | unexpectedItems allowed => exact plain (oneLine_compacts (fixed (by decide)) _)
  | unevaluatedItems items => exact plain (oneLine_compacts (fixed (by decide)) items)
  | unexpectedKeys keys | unevaluatedKeys keys => exact oneLine_keysText (fixed (by decide)) keys
  | noBranch keyword =>
      have name : OneLine keyword := by
        rcases List.mem_pair.mp named with rfl | rfl <;> exact fixed (by decide)
      exact its (both (both (fixed (by decide)) name) (fixed (by decide)))
  | severalBranches =>
      have text : OneLine
          "is valid under more than one of the schemas listed in the 'oneOf' keyword" :=
        fixed (by decide)
      exact its text
  | forbidden schema =>
      exact plain (both (both (Json.oneLine_compact schema) (fixed (by decide))) value)
  | noneContained => exact plain (both (both (fixed (by decide)) value) (fixed (by decide)))
  | neverAllowed => exact plain (both (fixed (by decide)) value)

end Cause

end SliceContract
