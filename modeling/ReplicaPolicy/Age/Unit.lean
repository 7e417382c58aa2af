set_option relaxedAutoImplicit false
set_option autoImplicit false

/-!
# Units of age

Ages are counted in hours, days or years; a year has 365 days.

## Main definitions

* `ReplicaPolicy.AgeUnit` — a unit.
* `ReplicaPolicy.AgeUnit.suffix`, `ofSuffix?` — the letter of a unit.
-/

namespace ReplicaPolicy

/-- A unit in which ages are counted. -/
inductive AgeUnit where
  /-- An hour. -/
  | hours
  /-- A day of 24 hours. -/
  | days
  /-- A year of 365 days. -/
  | years
  deriving DecidableEq, Repr

namespace AgeUnit

/-- The letter of a unit. -/
def suffix : AgeUnit → String
  | .hours => "h"
  | .days => "d"
  | .years => "y"

/-- The unit of a letter. -/
def ofSuffix? (text : String) : Option AgeUnit :=
  if text == "h" then some .hours
  else if text == "d" then some .days
  else if text == "y" then some .years
  else none

end AgeUnit

end ReplicaPolicy
