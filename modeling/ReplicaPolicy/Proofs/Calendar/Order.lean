import Mathlib.Algebra.Order.Ring.Int
import Mathlib.Data.Nat.Init
import ReplicaPolicy.Calendar.Date

set_option relaxedAutoImplicit false
set_option autoImplicit false

/-!
# Order of the calendar

The numbers of days rise with the year, within a year with the month, and within a month with the
day. What carries the order from one year to the next is that the months of a year, laid end to
end, take up its days; a leap year has one more day and one more to fill.

## Main definitions

* `ReplicaPolicy.Date.InCalendar` — there is such a day in the calendar.
* `ReplicaPolicy.Date.number` — the number of the day that a year, a month and a day name.

## Main results

* `ReplicaPolicy.Date.ofCivil?_eq` — exactly the days of the calendar are named.
* `ReplicaPolicy.Date.number_lt_number` — days are numbered in the order of year, month and day.
-/

namespace ReplicaPolicy.Date

variable {year year' : ℤ} {month month' day day' : ℕ}

/-- The year has a month of this number, and the month a day of this number. -/
def InCalendar (year : ℤ) (month day : ℕ) : Prop :=
  1 ≤ month ∧ month ≤ 12 ∧ 1 ≤ day ∧ day ≤ daysInMonth year month

instance (year : ℤ) (month day : ℕ) : Decidable (InCalendar year month day) :=
  inferInstanceAs (Decidable (_ ∧ _))

/-- The number of the day that a year, a month and a day of the month name, where there is such a
day. -/
def number (year : ℤ) (month day : ℕ) : ℤ :=
  firstDay year + daysBeforeMonth year month + (day - 1)

/-- Of a year that can be told, exactly the days of the calendar are named. -/
theorem ofCivil?_eq (h : firstYear ≤ year) (h' : year ≤ lastYear) :
    ofCivil? year month day =
      if InCalendar year month day then some ⟨number year month day⟩ else none := by
  by_cases hday : InCalendar year month day
  · rw [if_pos hday, ofCivil?, if_pos ⟨h, h', hday⟩, number]
  · rw [if_neg hday, ofCivil?, if_neg fun hnamed => hday hnamed.2.2]

/-! ## Months of a year -/

/-- The days before a month are those before the month before it, and the days of that month. -/
lemma daysBeforeMonth_succ (h : 1 ≤ month) :
    daysBeforeMonth year (month + 1) = daysBeforeMonth year month + daysInMonth year month := by
  obtain ⟨m, rfl⟩ := Nat.exists_eq_add_of_le' h
  simp only [daysBeforeMonth, Nat.add_sub_cancel, List.range_succ, List.map_append,
    List.foldl_append, List.map_cons, List.map_nil, List.foldl_cons, List.foldl_nil]

/-- A month is over before each later month of the year begins. -/
lemma daysBeforeMonth_add_daysInMonth_le_of_lt (h : 1 ≤ month) (hlt : month < month') :
    daysBeforeMonth year month + daysInMonth year month ≤ daysBeforeMonth year month' := by
  induction month', hlt using Nat.le_induction with
  | base => exact (daysBeforeMonth_succ h).ge
  | succ m hm ih =>
    have hsucc : daysBeforeMonth year (m + 1) = daysBeforeMonth year m + daysInMonth year m :=
      daysBeforeMonth_succ (by omega)
    omega

/-! ## Days of a year -/

lemma firstDay_le_number (h : InCalendar year month day) :
    firstDay year ≤ number year month day := by
  obtain ⟨-, -, hday, -⟩ := h
  simp only [number]
  omega

/-- Every day of a year comes before the next year. -/
lemma number_lt_firstDay (h : InCalendar year month day) :
    number year month day < firstDay (year + 1) := by
  obtain ⟨hmonth, hmonth', hday, hday'⟩ := h
  have hlength : daysBeforeMonth year month + daysInMonth year month ≤
      if isLeapYear year then 366 else 365 := daysBeforeMonth_add_daysInMonth_le hmonth hmonth'
  have hnext := firstDay_add_length year
  simp only [number]
  split at hlength <;> simp_all <;> omega

lemma firstDay_le_firstDay (h : year ≤ year') : firstDay year ≤ firstDay year' := by
  obtain rfl | hlt := h.eq_or_lt
  · exact le_rfl
  · exact (firstDay_lt_firstDay hlt).le

/-- **Days are numbered in the order of the calendar**: by year, within a year by month, and
within a month by day.

**Proof sketch.** An earlier year is over before the later one begins, and an earlier month before
the later one; within a month the numbers differ as the days do. -/
theorem number_lt_number (h : InCalendar year month day) (h' : InCalendar year' month' day')
    (hlt : year < year' ∨ year = year' ∧ (month < month' ∨ month = month' ∧ day < day')) :
    number year month day < number year' month' day' := by
  obtain hyear | ⟨rfl, hmonth | ⟨rfl, hday⟩⟩ := hlt
  · calc number year month day < firstDay (year + 1) := number_lt_firstDay h
      _ ≤ firstDay year' := firstDay_le_firstDay hyear
      _ ≤ number year' month' day' := firstDay_le_number h'
  · have hover : daysBeforeMonth year month + daysInMonth year month ≤
        daysBeforeMonth year month' := daysBeforeMonth_add_daysInMonth_le_of_lt h.1 hmonth
    obtain ⟨-, -, -, hday⟩ := h
    obtain ⟨-, -, hday', -⟩ := h'
    simp only [number]
    omega
  · simp only [number]
    omega

end ReplicaPolicy.Date
