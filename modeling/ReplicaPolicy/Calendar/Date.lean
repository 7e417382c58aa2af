set_option relaxedAutoImplicit false
set_option autoImplicit false

/-!
# Calendar dates

Dates of the Gregorian calendar, extended to all years. A date is the number of its day, counted
from 1 January 1970, so that dates are compared and shifted as integers; year, month and day of
the month are views of it.

## Main definitions

* `ReplicaPolicy.Date` — a day.
* `ReplicaPolicy.Date.ofCivil?` — the day that a year, a month and a day of the month name.
* `ReplicaPolicy.Date.civil` — year, month and day of the month of a day.
* `ReplicaPolicy.Date.InRange` — the days that can be told: those of the years from -262143 to
  262142.

## Main results

* `ReplicaPolicy.Date.daysBeforeMonth_add_daysInMonth_le` — the months are within their year.
* `ReplicaPolicy.Date.firstDay_add_length` — a year starts where the year before it ends.
-/

namespace ReplicaPolicy

/-- A day, by its number. Day 0 is 1 January 1970. -/
structure Date where
  /-- The number of the day. -/
  day : Int
  deriving DecidableEq, Repr

namespace Date

instance : LT Date := ⟨fun a b => a.day < b.day⟩

instance : LE Date := ⟨fun a b => a.day ≤ b.day⟩

instance (a b : Date) : Decidable (a < b) := inferInstanceAs (Decidable (a.day < b.day))

instance (a b : Date) : Decidable (a ≤ b) := inferInstanceAs (Decidable (a.day ≤ b.day))

theorem lt_iff {a b : Date} : a < b ↔ a.day < b.day := Iff.rfl

theorem le_iff {a b : Date} : a ≤ b ↔ a.day ≤ b.day := Iff.rfl

/-! ## Years and months -/

/-- The first year that can be told. -/
def firstYear : Int := -262143

/-- The last year that can be told. -/
def lastYear : Int := 262142

/-- Whether a year has a 29 February. -/
def isLeapYear (year : Int) : Bool :=
  year % 4 == 0 && (year % 100 != 0 || year % 400 == 0)

/-- The number of days of a month. -/
def daysInMonth (year : Int) (month : Nat) : Nat :=
  match month with
  | 2 => if isLeapYear year then 29 else 28
  | 4 | 6 | 9 | 11 => 30
  | _ => 31

/-- The number of days before the first of a month in a year. -/
def daysBeforeMonth (year : Int) (month : Nat) : Nat :=
  ((List.range (month - 1)).map fun m => daysInMonth year (m + 1)).foldl (· + ·) 0

/-- The number of the first day of a year: each year has 365 days, and one more for every leap
year before it. -/
def firstDay (year : Int) : Int :=
  let before := year - 1
  365 * before + before / 4 - before / 100 + before / 400 - 719162

/-- The day that a year, a month and a day of the month name, if there is such a day and its year
can be told. -/
def ofCivil? (year : Int) (month day : Nat) : Option Date :=
  if firstYear ≤ year ∧ year ≤ lastYear ∧ 1 ≤ month ∧ month ≤ 12 ∧ 1 ≤ day ∧
      day ≤ daysInMonth year month then
    some ⟨firstDay year + daysBeforeMonth year month + (day - 1)⟩
  else none

/-! ## Views -/

/-- Year, month and day of the month. The count of days is cut into spans of 400 years, which
all have 146097 days, and years are counted from 1 March, so that a leap day ends its year. -/
def civil (d : Date) : Int × Nat × Nat :=
  let z := d.day + 719468
  let span := z / 146097
  let dayOfSpan := (z % 146097).toNat
  let yearOfSpan :=
    (dayOfSpan - dayOfSpan / 1460 + dayOfSpan / 36524 - dayOfSpan / 146096) / 365
  let dayOfYear := dayOfSpan - (365 * yearOfSpan + yearOfSpan / 4 - yearOfSpan / 100)
  let m := (5 * dayOfYear + 2) / 153
  let day := dayOfYear - (153 * m + 2) / 5 + 1
  let month := if m < 10 then m + 3 else m - 9
  (span * 400 + yearOfSpan + (if month ≤ 2 then 1 else 0), month, day)

/-- The day can be told. -/
def InRange (d : Date) : Prop :=
  firstDay firstYear ≤ d.day ∧ d.day < firstDay (lastYear + 1)

instance (d : Date) : Decidable d.InRange :=
  inferInstanceAs (Decidable (_ ∧ _))

theorem daysBeforeMonth_add_daysInMonth_le {year : Int} {month : Nat} (h : 1 ≤ month)
    (h' : month ≤ 12) :
    daysBeforeMonth year month + daysInMonth year month ≤ if isLeapYear year then 366 else 365 := by
  obtain rfl | rfl | rfl | rfl | rfl | rfl | rfl | rfl | rfl | rfl | rfl | rfl :
      month = 1 ∨ month = 2 ∨ month = 3 ∨ month = 4 ∨ month = 5 ∨ month = 6 ∨ month = 7 ∨
        month = 8 ∨ month = 9 ∨ month = 10 ∨ month = 11 ∨ month = 12 := by omega
  all_goals
    cases hl : isLeapYear year <;>
      simp [daysBeforeMonth, daysInMonth, List.range, List.range.loop, hl]

theorem firstDay_add_length (year : Int) :
    firstDay year + (if isLeapYear year then 366 else 365) = firstDay (year + 1) := by
  have h4 : year % 4 = 0 ↔ (year - 1) % 4 = 3 := by omega
  simp only [firstDay, isLeapYear, Bool.and_eq_true, beq_iff_eq, Bool.or_eq_true, bne_iff_ne]
  split <;> omega

theorem firstDay_lt_firstDay {a b : Int} (h : a < b) : firstDay a < firstDay b := by
  simp only [firstDay]
  omega

end Date

end ReplicaPolicy
