set_option relaxedAutoImplicit false
set_option autoImplicit false

/-!
# Sets of characters as sorted ranges

A set of code points is listed as the bounds of its ranges in ascending order: each range is its
first member followed by the first code point after it.

## Main definitions

* `ReplicaPolicy.Text.covers` — whether a listed set contains a code point.
-/

namespace ReplicaPolicy.Text

/-- Whether one of the ranges contains `n`. The bounds ascend, so the search ends at the first
range that starts above `n`. -/
def covers : List Nat → Nat → Bool
  | lo :: hi :: rest, n => if n < lo then false else n < hi || covers rest n
  | _, _ => false

end ReplicaPolicy.Text
