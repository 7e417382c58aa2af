import ReplicaPolicy.Calendar.Instant
import ReplicaPolicy.Decimal.Fixed

set_option relaxedAutoImplicit false
set_option autoImplicit false

/-!
# Texts of dates and instants

A date is written `year-month-day`. A year has four digits, and a sign when it lies outside the
years from 0 to 9999. An instant is written with the letter `T` before its time and `Z` after it;
its fraction has as many groups of three digits as it needs.

## Main definitions

* `ReplicaPolicy.Date.text` — the text of a date.
* `ReplicaPolicy.Instant.text` — the text of an instant.
-/

namespace ReplicaPolicy

open Decimal (padLeft)

/-- The text of a year: four digits, with a sign outside the years from 0 to 9999. -/
def yearText (year : Int) : List Char :=
  if 0 ≤ year ∧ year ≤ 9999 then padLeft 4 year.toNat
  else (if year < 0 then '-' else '+') :: padLeft 4 year.natAbs

namespace Date

/-- The characters of a date, year first. -/
def chars (d : Date) : List Char :=
  let (year, month, day) := d.civil
  yearText year ++ '-' :: padLeft 2 month ++ '-' :: padLeft 2 day

/-- The text of a date, year first. -/
def text (d : Date) : String :=
  String.ofList d.chars

end Date

namespace Instant

/-- The fraction of a second: nothing, or a point and three, six or nine digits. -/
def fractionText (nanos : Nat) : List Char :=
  if nanos = 0 then []
  else if nanos % 1000000 = 0 then '.' :: padLeft 3 (nanos / 1000000)
  else if nanos % 1000 = 0 then '.' :: padLeft 6 (nanos / 1000)
  else '.' :: padLeft 9 nanos

/-- The text of an instant in Universal Time. -/
def text (t : Instant) : String :=
  let c := t.clock
  String.ofList <|
    t.date.chars ++ 'T' :: padLeft 2 c.hour ++ ':' :: padLeft 2 c.minute ++
      ':' :: padLeft 2 c.second ++ fractionText c.nanos ++ ['Z']

end Instant

end ReplicaPolicy
