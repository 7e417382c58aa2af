import ReplicaPolicy.Calendar.Instant
import ReplicaPolicy.Decimal.Fixed
import ReplicaPolicy.Fault

set_option relaxedAutoImplicit false
set_option autoImplicit false

/-!
# Ages and cutoffs

An age is an amount of some unit. Counted back from a reference time it gives an instant, the
cutoff, to the nearest millisecond. Rules that compare days use the date of the cutoff.

## Main definitions

* `ReplicaPolicy.Age` — an amount of a unit.
* `ReplicaPolicy.Age.seconds`, `Age.millis?` — the length of an age.
* `ReplicaPolicy.Age.before` — the instant an age before another.
* `ReplicaPolicy.AgeCutoff`, `Age.cutoff` — the date of that instant with the text of the age.

## Main results

* `ReplicaPolicy.Age.isProper_of_before`, `inRange_of_before` — only a proper age is counted
  back, and only to an instant that can be told.
-/

namespace ReplicaPolicy

/-- The unit of a letter, or the complaint that the text is none. -/
def AgeUnit.ofText (text : String) : Except Fault AgeUnit :=
  match ofSuffix? text with
  | some unit => .ok unit
  | none => .error (.invalidUnit text)

/-- An amount of a unit. -/
structure Age where
  /-- How many units. -/
  amount : Float
  /-- The unit. -/
  unit : AgeUnit

namespace Age

/-- The amount is a number, not infinite and not negative. -/
def isProperAmount (amount : Float) : Bool :=
  Decimal.isFinite amount && !(amount < 0.0)

/-- The age can be counted back from some time. -/
def isProper (a : Age) : Bool :=
  isProperAmount a.amount

/-- The length in seconds: years are first turned into days, days into hours, hours into
seconds, each product rounded. -/
def seconds (a : Age) : Float :=
  let days := match a.unit with
    | .years => a.amount * 365.0
    | .days | .hours => a.amount
  let hours := match a.unit with
    | .years | .days => days * 24.0
    | .hours => days
  hours * 3600.0

/-- Milliseconds of an age are below this bound. -/
def millisBound : Nat := Nat.pow 2 63

/-- The length of a proper age in whole milliseconds, a half counted up, if it is below the
bound. -/
def millis? (a : Age) : Option Nat :=
  match Decimal.read (a.seconds * 1000.0) with
  | .finite _ v =>
    let millis := Decimal.roundHalfUp v.fraction.1 v.fraction.2
    if millis < millisBound then some millis else none
  | _ => none

/-- The instant an age before `now`. -/
def before (a : Age) (now : Instant) : Except Fault Instant :=
  if a.isProper then
    match a.millis?.bind now.before? with
    | some t => .ok t
    | none => .error (.invalidSetting (.distantAge a.amount a.unit))
  else .error (.invalidSetting (.negativeAge a.amount a.unit))

/-- The date of the instant an age before `now`. -/
def dateBefore (a : Age) (now : Instant) : Except Fault Date :=
  (a.before now).map Instant.date

/-- The age with one decimal place. -/
def text (a : Age) : String :=
  Decimal.fixed 1 a.amount ++ a.unit.suffix

theorem isProper_of_before {a : Age} {now t : Instant} (h : a.before now = .ok t) :
    a.isProper = true := by
  unfold before at h
  split at h
  · assumption
  · simp at h

theorem inRange_of_before {a : Age} {now t : Instant} (h : a.before now = .ok t) : t.InRange := by
  unfold before at h
  split at h
  · split at h
    · rename_i ht
      obtain ⟨_, _, hb⟩ := Option.bind_eq_some_iff.1 ht
      exact Except.ok.inj h ▸ Instant.inRange_of_before? hb
    · simp at h
  · simp at h

end Age

/-- A date to compare with, and the text of the age that gave it. -/
structure AgeCutoff where
  /-- The date. -/
  date : Date
  /-- The text of the age. -/
  text : String
  deriving DecidableEq, Repr

/-- The cutoff that an age before `now` gives. -/
def Age.cutoff (a : Age) (now : Instant) : Except Fault AgeCutoff :=
  (a.dateBefore now).map fun date => { date, text := a.text }

end ReplicaPolicy
