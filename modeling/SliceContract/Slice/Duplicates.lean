import SliceContract.Occurrences
import SliceContract.Slice.Basic

/-!
# Shared keys

Siblings that put content under the same key are allowed; this module names the keys they share.
-/

namespace SliceContract

namespace Slice

variable {S : Type _}

/-- The keys that two siblings inside the slice share: among the children of an object, or the
fields of a multi slice. -/
def duplicateKeys (slice : Slice S) : List String :=
  match slice with
  | object _ children => repeats (children.toList.flatMap fieldKeys)
  | multi _ _ => repeats slice.fieldKeys
  | leaf _ => []
  | array _ _ => []

end Slice

end SliceContract
