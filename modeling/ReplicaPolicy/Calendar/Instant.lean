import ReplicaPolicy.Calendar.Date

set_option relaxedAutoImplicit false
set_option autoImplicit false

/-!
# Instants

An instant of Universal Time is a second, counted from the start of 1970, and nanoseconds after
it. A leap second has no number of its own: it is told as the second before it with a billion
nanoseconds or more.

## Main definitions

* `ReplicaPolicy.Instant` — an instant.
* `ReplicaPolicy.Instant.date` — the day on which it falls.
* `ReplicaPolicy.Instant.ofCivil?` — the instant of a local time at an offset.
* `ReplicaPolicy.Instant.before?` — the instant a number of milliseconds earlier.

## Main results

* `ReplicaPolicy.Instant.lt_iff` — instants are ordered by second, then by nanosecond.
* `ReplicaPolicy.Instant.inRange_of_before?` — an earlier instant can be told.
-/

namespace ReplicaPolicy

/-- An instant: a second counted from the start of 1970, and nanoseconds after it. -/
structure Instant where
  /-- The whole seconds. -/
  seconds : Int
  /-- The nanoseconds after them; a billion or more within a leap second. -/
  nanos : Nat
  deriving DecidableEq, Repr

namespace Instant

/-- The nanoseconds of a second. -/
def nanosPerSecond : Nat := 1000000000

/-- The seconds of a day. -/
def secondsPerDay : Int := 86400

instance : LT Instant :=
  ⟨fun a b => a.seconds < b.seconds ∨ a.seconds = b.seconds ∧ a.nanos < b.nanos⟩

instance (a b : Instant) : Decidable (a < b) :=
  inferInstanceAs (Decidable (_ ∨ _))

instance : LE Instant := ⟨fun a b => ¬b < a⟩

instance (a b : Instant) : Decidable (a ≤ b) :=
  inferInstanceAs (Decidable (¬_))

theorem lt_iff {a b : Instant} :
    a < b ↔ a.seconds < b.seconds ∨ a.seconds = b.seconds ∧ a.nanos < b.nanos := Iff.rfl

theorem le_iff {a b : Instant} : a ≤ b ↔ ¬b < a := Iff.rfl

/-- The order of two instants. -/
def ordering (a b : Instant) : Ordering :=
  if a < b then .lt else if b < a then .gt else .eq

/-- Whether the instant lies within a leap second. -/
def isLeap (t : Instant) : Bool :=
  nanosPerSecond ≤ t.nanos

/-- The day on which an instant falls. -/
def date (t : Instant) : Date :=
  ⟨t.seconds / secondsPerDay⟩

/-- The instant at which a day starts. -/
def ofDate (d : Date) : Instant :=
  ⟨d.day * secondsPerDay, 0⟩

/-- The day of the instant can be told. -/
def InRange (t : Instant) : Prop :=
  t.date.InRange

instance (t : Instant) : Decidable t.InRange :=
  inferInstanceAs (Decidable t.date.InRange)

/-! ## Times of the day -/

/-- A time of the day. -/
structure Clock where
  /-- The hour, below 24. -/
  hour : Nat
  /-- The minute, below 60. -/
  minute : Nat
  /-- The second; 60 in a leap second. -/
  second : Nat
  /-- The nanoseconds after it, below a billion. -/
  nanos : Nat

/-- The instant at which clocks `offset` seconds ahead of Universal Time show a time on a day, if
there is such a time and the instant can be told. Second 60 is the leap second after second
59. -/
def ofCivil? (d : Date) (clock : Clock) (offset : Int) : Option Instant :=
  if clock.hour < 24 ∧ clock.minute < 60 ∧ clock.second ≤ 60 ∧ clock.nanos < nanosPerSecond then
    let leap := clock.second = 60
    let second := if leap then 59 else clock.second
    let ofDay := 3600 * clock.hour + 60 * clock.minute + second
    let t : Instant :=
      ⟨d.day * secondsPerDay + ofDay - offset, clock.nanos + if leap then nanosPerSecond else 0⟩
    if t.InRange then some t else none
  else none

/-- Hour, minute and second of the day of an instant; a leap second is second 60. -/
def clock (t : Instant) : Clock :=
  let ofDay := (t.seconds % secondsPerDay).toNat
  { hour := ofDay / 3600
    minute := ofDay / 60 % 60
    second := ofDay % 60 + t.nanos / nanosPerSecond
    nanos := t.nanos % nanosPerSecond }

/-! ## Earlier instants -/

/-- The instant `millis` milliseconds before `t`, told or not. Less than a second before an
instant within a leap second is told by the same second; further back, the leap second counts as
the start of the second after it. -/
def back (t : Instant) (millis : Nat) : Instant :=
  let whole := millis / 1000
  let part := millis % 1000 * 1000000
  if t.isLeap && whole == 0 then ⟨t.seconds, t.nanos - part⟩
  else
    let t : Instant := if t.isLeap then ⟨t.seconds + 1, t.nanos - nanosPerSecond⟩ else t
    if part ≤ t.nanos then ⟨t.seconds - whole, t.nanos - part⟩
    else ⟨t.seconds - whole - 1, t.nanos + nanosPerSecond - part⟩

/-- The instant `millis` milliseconds before `t`, if it can be told. -/
def before? (t : Instant) (millis : Nat) : Option Instant :=
  if (t.back millis).InRange then some (t.back millis) else none

theorem inRange_of_before? {t u : Instant} {millis : Nat} (h : t.before? millis = some u) :
    u.InRange := by
  unfold before? at h
  split at h
  · rename_i hr
    exact Option.some.inj h ▸ hr
  · exact absurd h (by simp)

end Instant

end ReplicaPolicy
