import ReplicaPolicy.Proofs.Calendar.Order
import ReplicaPolicy.Proofs.Calendar.Parts

set_option relaxedAutoImplicit false
set_option autoImplicit false

/-!
# Spellings of a time

A time of Universal Time can be written as a date and a time of the day with a space between them,
or as a complete timestamp with an offset; a date alone stands for its midnight. All three are
tried on every text. They do not come in each other's way: what tells them apart stands behind the
date, and each is read by its own form alone.

## Main definitions

* `ReplicaPolicy.Instant.Fields` — the numbers in the text of a time.
* `ReplicaPolicy.Instant.Fields.instant` — the instant that they tell.
* `ReplicaPolicy.Instant.OffsetFields` — the numbers in the text of an offset.

## Main results

* `ReplicaPolicy.Instant.Fields.read?_eq_none` — a date that the calendar does not have is not
  read, whatever stands behind it.
* `ReplicaPolicy.Instant.Fields.spellings_agree` — the spellings of a time are read as one
  instant, and later times as later instants.
-/

namespace ReplicaPolicy

open Decimal (padLeft)

namespace Instant

open TimeText

/-! ## Fields -/

/-- The numbers in the text of a time: a year of four digits, a month and a day of two, and a time
of the day. There need not be such a date. -/
structure Fields where
  /-- The year. -/
  year : ℕ
  /-- The month. -/
  month : ℕ
  /-- The day of the month. -/
  day : ℕ
  /-- The hour. -/
  hour : ℕ
  /-- The minute. -/
  minute : ℕ
  /-- The second. -/
  second : ℕ
  year_lt : year < 10000 := by decide
  month_lt : month < 100 := by decide
  day_lt : day < 100 := by decide
  hour_lt : hour < 24 := by decide
  minute_lt : minute < 60 := by decide
  second_lt : second < 60 := by decide

/-- The numbers in the text of an offset: hours and minutes, less than a day. -/
structure OffsetFields where
  /-- The hours. -/
  hours : ℕ
  /-- The minutes. -/
  minutes : ℕ
  hours_lt : hours < 24 := by decide
  minutes_lt : minutes < 60 := by decide

/-- The instant so many seconds later, or earlier where their number is negative. -/
def later (t : Instant) (seconds : ℤ) : Instant :=
  ⟨t.seconds + seconds, t.nanos⟩

namespace OffsetFields

variable (o : OffsetFields)

/-- An offset as it is written behind its sign. -/
def text : List Char :=
  padLeft 2 o.hours ++ ':' :: padLeft 2 o.minutes

/-- The seconds of an offset. -/
def seconds : ℤ :=
  3600 * o.hours + 60 * o.minutes

lemma isOffset_seconds : isOffset o.seconds = true ∧ isOffset (-o.seconds) = true := by
  have hhours := o.hours_lt
  have hminutes := o.minutes_lt
  simp only [isOffset_iff, seconds]
  omega

/-- An offset is read as it is written: ahead of Universal Time behind a plus sign, and behind it
after a hyphen. -/
lemma offset?_text :
    offset? (skip? ':') ('+' :: o.text) = some (o.seconds, []) ∧
      offset? (skip? ':') ('-' :: o.text) = some (-o.seconds, []) := by
  have hhours := number?_two (o.hours_lt.trans (by decide)) (':' :: padLeft 2 o.minutes)
  have hminutes := number?_two (o.minutes_lt.trans (by decide)) []
  rw [List.append_nil] at hminutes
  have hlt : ¬60 ≤ o.minutes := o.minutes_lt.not_ge
  constructor <;> simp [offset?, text, seconds, hhours, hminutes, hlt]

end OffsetFields

namespace Fields

variable (f : Fields)

/-- The calendar has the date of the fields. -/
def DateExists : Prop :=
  Date.InCalendar f.year f.month f.day

instance (f : Fields) : Decidable f.DateExists :=
  inferInstanceAs (Decidable (Date.InCalendar _ _ _))

/-- The day of the fields, where there is one. -/
def date : Date :=
  ⟨Date.number f.year f.month f.day⟩

/-- The time of the day of the fields. -/
def clock : Clock :=
  ⟨f.hour, f.minute, f.second, 0⟩

/-- The instant that the fields tell in Universal Time, where there is such a date. -/
def instant : Instant :=
  ⟨f.date.day * secondsPerDay + (3600 * f.hour + 60 * f.minute + f.second), 0⟩

/-- The fields at 00:00:00 of the same date. -/
def midnight : Fields :=
  { f with hour := 0, minute := 0, second := 0, hour_lt := by decide, minute_lt := by decide,
           second_lt := by decide }

/-- The fields in the order in which they are written. -/
def numbers : List ℕ :=
  [f.year, f.month, f.day, f.hour, f.minute, f.second]

/-! ### Texts -/

/-- The characters of a date, and what stands behind it. -/
def dateText (rest : List Char) : List Char :=
  padLeft 4 f.year ++ '-' :: (padLeft 2 f.month ++ '-' :: (padLeft 2 f.day ++ rest))

/-- The characters of a time of the day, and what stands behind it. -/
def clockText (rest : List Char) : List Char :=
  padLeft 2 f.hour ++ ':' :: (padLeft 2 f.minute ++ ':' :: (padLeft 2 f.second ++ rest))

/-- The date alone. -/
def dated : String :=
  String.ofList (f.dateText [])

/-- The date and the time of the day with a space between them. -/
def spaced : String :=
  String.ofList (f.dateText (' ' :: f.clockText []))

/-- The date and the time of the day with the letter `T` between them, and a zone. -/
def zoned (zone : List Char) : String :=
  String.ofList (f.dateText ('T' :: f.clockText zone))

/-! ### Reading -/

lemma ofCivil?_eq_ite :
    Date.ofCivil? f.year f.month f.day = if f.DateExists then some f.date else none := by
  have hlt := f.year_lt
  have hfirst : Date.firstYear ≤ f.year := by simp only [Date.firstYear]; omega
  have hlast : (f.year : ℤ) ≤ Date.lastYear := by simp only [Date.lastYear]; omega
  exact Date.ofCivil?_eq hfirst hlast

lemma date?_dateText (rest : List Char) :
    date? id (f.dateText rest) = if f.DateExists then some (f.date, rest) else none := by
  simp only [date?, dateText, year?_padLeft f.year_lt, field?_padLeft f.month_lt,
    field?_padLeft f.day_lt, skip?_cons, id_eq, Option.bind_eq_bind, Option.bind_some,
    f.ofCivil?_eq_ite]
  split <;> rfl

lemma clock?_clockText (rest : List Char) :
    clock? id (f.clockText rest) = some (f.clock, rest) := by
  simp only [clock?, clockText, field?_padLeft (f.hour_lt.trans (by decide)),
    field?_padLeft (f.minute_lt.trans (by decide)), field?_padLeft (f.second_lt.trans (by decide)),
    skip?_cons, id_eq, Option.bind_eq_bind, Option.bind_some, clock]

/-- The instant of the fields at an offset can be told: a day more or less does not lead out of
the years that can. -/
lemma ofCivil?_clock {offset : ℤ} (h : f.DateExists) (hoffset : isOffset offset = true) :
    ofCivil? f.date f.clock offset = some (f.instant.later (-offset)) := by
  have hrange : (f.instant.later (-offset)).InRange := by
    have hfirst := Date.firstDay_le_number h
    have hlast := Date.number_lt_firstDay h
    have hyear := f.year_lt
    have hhour := f.hour_lt
    have hminute := f.minute_lt
    have hsecond := f.second_lt
    rw [isOffset_iff] at hoffset
    simp only [InRange, Date.InRange, Instant.date, later, instant, Fields.date, secondsPerDay,
      Date.firstDay, Date.firstYear, Date.lastYear] at *
    omega
  have hclock : f.clock.hour < 24 ∧ f.clock.minute < 60 ∧ f.clock.second ≤ 60 ∧
      f.clock.nanos < nanosPerSecond :=
    ⟨f.hour_lt, f.minute_lt, f.second_lt.le, Nat.zero_lt_succ _⟩
  have hsecond : f.clock.second ≠ 60 := f.second_lt.ne
  have htold : (⟨f.date.day * secondsPerDay + (3600 * f.clock.hour + 60 * f.clock.minute +
      f.clock.second : ℕ) - offset, f.clock.nanos + 0⟩ : Instant) = f.instant.later (-offset) := by
    simp only [later, instant, clock, Nat.cast_add, Nat.cast_mul, Nat.cast_ofNat, sub_eq_add_neg]
  simp only [ofCivil?, if_pos hclock, if_neg hsecond, htold, if_pos hrange]

/-- A text that starts with a date which the calendar does not have is not read, whatever stands
behind the date. -/
lemma read?_eq_none (h : ¬f.DateExists) (rest : List Char) :
    read? (String.ofList (f.dateText rest)) = none := by
  have hdate : date? id (f.dateText rest) = none := by rw [date?_dateText, if_neg h]
  have hcivil : Date.ofCivil? f.year f.month f.day = none := by rw [ofCivil?_eq_ite, if_neg h]
  have hstrict : readStrict? (String.ofList (f.dateText rest)) = none := by
    rw [readStrict?, String.toList_ofList, dateText]
    simp only [↓bind_of_eq (number?_four f.year_lt _), ↓bind_of_eq (number?_two f.month_lt _),
      ↓bind_of_eq (number?_two f.day_lt _), ↓bind_of_eq (skip?_cons _ _), hcivil,
      Option.bind_eq_bind, Option.bind_none, Option.bind_fun_none]
  rw [read?, hstrict, readDateTime?, readDate?, String.toList_ofList, hdate]
  rfl

/-- A date and a time of the day are read as a complete timestamp up to the offset, and that
decides. -/
lemma readStrict?_time {c : Char} {zone : List Char} (h : f.DateExists)
    (hbetween : betweenDateAndTime? (c :: f.clockText zone) = some (f.clockText zone))
    (hfraction : fraction? zone = some (0, zone)) :
    readStrict? (String.ofList (f.dateText (c :: f.clockText zone))) =
      (offset? (skip? ':') zone).bind fun (offset, cs) =>
        if cs.isEmpty && isOffset offset then ofCivil? f.date f.clock offset else none := by
  have hhour := f.hour_lt.trans (by decide : 24 < 100)
  have hminute := f.minute_lt.trans (by decide : 60 < 100)
  have hsecond := f.second_lt.trans (by decide : 60 < 100)
  have hdate : Date.ofCivil? f.year f.month f.day = some f.date := by rw [ofCivil?_eq_ite, if_pos h]
  rw [readStrict?, String.toList_ofList, dateText]
  simp only [↓bind_of_eq (number?_four f.year_lt _), ↓bind_of_eq (number?_two f.month_lt _),
    ↓bind_of_eq (number?_two f.day_lt _), ↓bind_of_eq (skip?_cons _ _), ↓bind_of_eq hbetween]
  simp only [clockText, ↓bind_of_eq (skip?_cons _ _), ↓bind_of_eq (number?_two hhour _),
    ↓bind_of_eq (number?_two hminute _), ↓bind_of_eq (number?_two hsecond _),
    ↓bind_of_eq hfraction, ↓bind_of_eq hdate]
  rfl

/-- A date and a time of the day with an offset behind them are read as a complete timestamp. -/
lemma read?_zoned {zone : List Char} {offset : ℤ} (h : f.DateExists)
    (hzone : offset? (skip? ':') zone = some (offset, [])) (hoffset : isOffset offset = true) :
    read? (f.zoned zone) = some (f.instant.later (-offset)) := by
  refine read?_of_readStrict? ?_
  rw [zoned, f.readStrict?_time h rfl (fraction?_of_offset? hzone), hzone, Option.bind_some]
  simp only [hoffset, List.isEmpty_nil, Bool.and_self, if_true, f.ofCivil?_clock h hoffset]

/-- A date and a time of the day with a space between them are no complete timestamp for want of
an offset. -/
lemma read?_spaced (h : f.DateExists) : read? f.spaced = some f.instant := by
  have hstrict : readStrict? f.spaced = none := by
    rw [spaced, f.readStrict?_time h rfl rfl]
    rfl
  have htold : ofCivil? f.date f.clock 0 = some f.instant := by
    rw [f.ofCivil?_clock h rfl]
    simp only [later, neg_zero, add_zero]
  have hspace : clock? id (' ' :: f.clockText []) = some (f.clock, []) := by
    rw [← f.clock?_clockText []]
    rfl
  have hdateTime : readDateTime? f.spaced = some f.instant := by
    rw [readDateTime?, spaced, String.toList_ofList, date?_dateText, if_pos h]
    simp only [Option.bind_eq_bind, Option.bind_some, hspace, List.isEmpty_nil, if_true, htold]
  rw [read?, hstrict, hdateTime]
  rfl

/-- A date alone is neither a complete timestamp nor a date and a time of the day: both want a
time behind it. -/
lemma read?_dated (h : f.DateExists) : read? f.dated = some f.midnight.instant := by
  have hstrict : readStrict? f.dated = none := by
    rw [readStrict?, dated, String.toList_ofList, dateText]
    simp only [↓bind_of_eq (number?_four f.year_lt _), ↓bind_of_eq (number?_two f.month_lt _),
      ↓bind_of_eq (number?_two f.day_lt _), ↓bind_of_eq (skip?_cons _ _)]
    rfl
  have hmidnight : ofDate f.date = f.midnight.instant := by
    simp only [ofDate, instant, midnight, date, Nat.cast_zero, mul_zero, add_zero]
  rw [read?, hstrict, readDateTime?, readDate?, dated, String.toList_ofList, date?_dateText,
    if_pos h, ← hmidnight]
  rfl

/-! ### Order -/

/-- Times of the calendar are told in the order of their fields.

**Proof sketch.** An earlier date is an earlier day, and no time of a day reaches the next; on the
same day, hours, minutes and seconds count in turn. -/
lemma instant_lt_instant {f g : Fields} (hf : f.DateExists) (hg : g.DateExists)
    (hlt : f.numbers < g.numbers) : f.instant < g.instant := by
  have hhour := f.hour_lt
  have hminute := f.minute_lt
  have hsecond := f.second_lt
  have hminute' := g.minute_lt
  have hsecond' := g.second_lt
  rw [Instant.lt_iff]
  left
  simp only [numbers, List.cons_lt_cons_iff] at hlt
  by_cases hsame : f.year = g.year ∧ f.month = g.month ∧ f.day = g.day
  · obtain ⟨hyear, hmonth, hday⟩ := hsame
    simp only [instant, date, secondsPerDay, hyear, hmonth, hday]
    simp only [hyear, hmonth, hday, Nat.lt_irrefl, true_and, false_or, List.not_lt_nil,
      and_false, or_false] at hlt
    omega
  · have hdate : Date.number f.year f.month f.day < Date.number g.year g.month g.day :=
      Date.number_lt_number hf hg (by omega)
    simp only [instant, date, secondsPerDay]
    omega

/-! ### All spellings together -/

/-- **The spellings of a time agree and keep the order.** A date of the calendar and a time of the
day are read as the same instant with a space between them and as a complete timestamp in
Universal Time, and the date alone as its midnight; an offset in place of the letter `Z` makes the
instant earlier by as much as it is ahead, or later by as much as it is behind. Where the calendar
has no such date, none of the spellings is read. Times that are later by year, month, day, hour,
minute and second, in this order, are later instants. -/
theorem spellings_agree (f g : Fields) :
    (f.DateExists →
      read? f.spaced = some f.instant ∧ read? (f.zoned ['Z']) = some f.instant ∧
        read? f.dated = some f.midnight.instant ∧
        ∀ o : OffsetFields,
          read? (f.zoned ('+' :: o.text)) = some (f.instant.later (-o.seconds)) ∧
            read? (f.zoned ('-' :: o.text)) = some (f.instant.later o.seconds)) ∧
    (¬f.DateExists →
      read? f.spaced = none ∧ read? f.dated = none ∧ ∀ zone, read? (f.zoned zone) = none) ∧
    (f.DateExists → g.DateExists → f.numbers < g.numbers → f.instant < g.instant) := by
  refine ⟨fun h => ⟨f.read?_spaced h, ?_, f.read?_dated h, fun o => ⟨?_, ?_⟩⟩,
    fun h => ⟨f.read?_eq_none h _, f.read?_eq_none h _, fun zone => f.read?_eq_none h _⟩,
    instant_lt_instant⟩
  · have huniversal : read? (f.zoned ['Z']) = some (f.instant.later (-0)) :=
      f.read?_zoned h rfl rfl
    rwa [later, neg_zero, add_zero] at huniversal
  · exact f.read?_zoned h o.offset?_text.1 o.isOffset_seconds.1
  · have hbehind := f.read?_zoned h o.offset?_text.2 o.isOffset_seconds.2
    rwa [neg_neg] at hbehind

/-- The last second of 29 February 2000. -/
def endOfLeapDay : Fields :=
  { year := 2000, month := 2, day := 29, hour := 23, minute := 59, second := 59 }

/-- The second after it. -/
def startOfMarch : Fields :=
  { year := 2000, month := 3, day := 1, hour := 0, minute := 0, second := 0 }

/-- A day that the calendar does not have, since 1900 is no leap year. -/
def noLeapDay : Fields :=
  { year := 1900, month := 2, day := 29, hour := 0, minute := 0, second := 0 }

/-- The offset of clocks five hours and a half away from Universal Time. -/
def fiveAndAHalf : OffsetFields :=
  { hours := 5, minutes := 30 }

/-- 29 February 2000 was a day, with its instants before those of 1 March, and 29 February 1900
was none. -/
theorem spellings_agree_leap_days :
    read? "2000-02-29 23:59:59" = some ⟨951868799, 0⟩ ∧
      read? "2000-02-29" = some ⟨951782400, 0⟩ ∧
      read? "2000-02-29T23:59:59+05:30" = some ⟨951848999, 0⟩ ∧
      endOfLeapDay.instant < startOfMarch.instant ∧
      read? "1900-02-29" = none := by
  have hexists : endOfLeapDay.DateExists := by decide
  have hagree := spellings_agree endOfLeapDay startOfMarch
  obtain ⟨hspaced, -, hdated, hoffset⟩ := hagree.1 hexists
  have htext : endOfLeapDay.zoned ('+' :: fiveAndAHalf.text) = "2000-02-29T23:59:59+05:30" := by
    decide +kernel
  have hearlier : endOfLeapDay.instant.later (-fiveAndAHalf.seconds) = ⟨951848999, 0⟩ := by
    decide +kernel
  have hahead := (hoffset fiveAndAHalf).1
  rw [htext, hearlier] at hahead
  exact ⟨hspaced, hdated, hahead, hagree.2.2 hexists (by decide) (by decide),
    ((spellings_agree noLeapDay noLeapDay).2.1 (by decide)).2.1⟩

end Fields

end Instant

end ReplicaPolicy
