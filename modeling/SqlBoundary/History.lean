import SqlBoundary.Text.Basic

/-! # History

The newest entries of a history, as far back as the history size goes. How a history file is read
is not settled here: `load` gives its entries, newest first.
-/

namespace SqlBoundary.History

/-- The largest size that can be asked for. -/
def maxSize : Int := 9223372036854775807

/-- The newest entries, newest first; none where the size is out of range. -/
def newest? (load : Text → List Text) (content : Text) (size : Int) : Option (List Text) :=
  if 0 ≤ size && size ≤ maxSize then some ((load content).take size.toNat) else none

end SqlBoundary.History
