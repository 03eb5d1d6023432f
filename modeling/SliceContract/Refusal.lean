import SliceContract.Loading
import SliceContract.Narrowing
import SliceContract.Violation

/-!
# Refusals

Why a document is not accepted: it cannot be loaded, it has violations, or it cannot be narrowed.
-/

namespace SliceContract

inductive Refusal where
  | loading (e : LoadError)
  | violations (violations : List Violation)
  | narrowing (e : Narrowing.Error)
  deriving Repr

namespace Refusal

/-- The text of a refusal: violations stand one a line below their number. -/
def message : Refusal → String
  | loading e => e.message
  | violations vs =>
    "validation failed with " ++ toString vs.length ++ " violation(s):\n" ++ Violations.display vs
  | narrowing e => "deserialization error: " ++ e.message

end Refusal

end SliceContract
