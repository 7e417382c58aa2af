import Mathlib.Data.Int.Notation
import Mathlib.Order.Defs.PartialOrder
import ReplicaPolicy.Age.Cutoff
import ReplicaPolicy.Proofs.Results

set_option relaxedAutoImplicit false
set_option autoImplicit false

/-!
# Ages as time passes

An age that can be counted back from one time can be counted back from any later time, and gives
no earlier cutoff there.

## Main definitions

* `ReplicaPolicy.Instant.dayLater`, `dayEarlier` — the instants 24 hours later and earlier.
* `ReplicaPolicy.Instant.total` — the nanoseconds up to an instant.
* `ReplicaPolicy.Instant.Passes` — time passes from one instant to another.

## Main results

* `ReplicaPolicy.Age.cutoff_eq_ok_iff` — the cutoff of an age is a day.
* `ReplicaPolicy.Instant.lt_of_date_lt`, `lt_dayLater_of_date_le` — what days tell about instants.
* `ReplicaPolicy.Instant.date_lt_of_le_dayEarlier` — what instants tell about days.
* `ReplicaPolicy.Instant.back_bounds` — how far counting back leads.
* `ReplicaPolicy.Instant.total_back` — counting back subtracts, outside leap seconds.
* `ReplicaPolicy.Instant.Passes.before?` — what could be told before still can be told.
* `ReplicaPolicy.Instant.Passes.before`, `Instant.Passes.cutoff` — an age gives a cutoff that is no
  earlier.

## Design

Leap seconds are left out. Counted back from within a leap second, an age of less than a second
stays in it, and a longer one starts from the second after it, so that there a later time can give
an earlier cutoff. Elsewhere instants are ordered, and counted back, as their nanoseconds.
-/

namespace ReplicaPolicy

/-- A cutoff is the day of the instant that an age gives, with the text of the age. -/
lemma Age.cutoff_eq_ok_iff {age : Age} {now : Instant} {c : AgeCutoff} :
    age.cutoff now = .ok c ↔ ∃ t, age.before now = .ok t ∧ c = ⟨t.date, age.text⟩ := by
  rw [Age.cutoff, Age.dateBefore]
  cases age.before now <;> simp [Except.map, eq_comm]

/-! ## The order of instants and of days -/

/-- Instants are at most as late by their second, then by their nanosecond. -/
lemma Instant.le_iff_or {a b : Instant} :
    a ≤ b ↔ a.seconds < b.seconds ∨ a.seconds = b.seconds ∧ a.nanos ≤ b.nanos := by
  rw [Instant.le_iff, Instant.lt_iff]
  omega

instance : Preorder Instant where
  le_refl a := by
    rw [Instant.le_iff_or]
    exact .inr ⟨rfl, Nat.le_refl _⟩
  le_trans a b c hab hbc := by
    rw [Instant.le_iff_or] at *
    omega
  lt_iff_le_not_ge a b := by
    rw [Instant.le_iff_or, Instant.le_iff_or, Instant.lt_iff]
    omega

instance : Preorder Date where
  le_refl a := Int.le_refl a.day
  le_trans _ _ _ hab hbc := Int.le_trans hab hbc
  lt_iff_le_not_ge _ _ := Int.lt_iff_le_and_not_ge

namespace Instant

/-- A later instant falls on no earlier day. -/
lemma date_mono {a b : Instant} (h : a ≤ b) : a.date ≤ b.date := by
  rw [le_iff_or] at h
  rw [Date.le_iff]
  show a.seconds / secondsPerDay ≤ b.seconds / secondsPerDay
  refine Int.ediv_le_ediv ?_ ?_
  · decide
  · omega

/-- An instant on an earlier day is earlier. -/
lemma lt_of_date_lt {a b : Instant} (h : a.date < b.date) : a < b := by
  by_contra hlt
  exact absurd (date_mono hlt) (Int.not_le.2 h)

/-- The instant 24 hours later. -/
def dayLater (t : Instant) : Instant :=
  ⟨t.seconds + secondsPerDay, t.nanos⟩

/-- Instants of one day are less than 24 hours apart. -/
lemma lt_dayLater_of_date_le {a b : Instant} (h : a.date ≤ b.date) : a < b.dayLater := by
  rw [Date.le_iff] at h
  simp only [date, secondsPerDay] at h
  refine lt_iff.2 (.inl ?_)
  simp only [dayLater, secondsPerDay]
  omega

/-! ## Counting back -/

/-- Counting back leads to no later instant, and back by each whole second but for one, which a leap
second can take. -/
lemma back_bounds (t : Instant) (millis : ℕ) :
    t.back millis ≤ t ∧ (t.back millis).seconds + (millis / 1000 : ℕ) ≤ t.seconds + 1 := by
  rw [le_iff_or]
  unfold back
  dsimp only
  split
  case isTrue h =>
    rw [eq_of_beq (Bool.and_eq_true_iff.1 h).2]
    exact ⟨.inr ⟨rfl, Nat.sub_le _ _⟩, by dsimp only; omega⟩
  case isFalse h =>
    cases hleap : t.isLeap with
    | false =>
      simp only [Bool.false_eq_true, if_false]
      split <;> dsimp only <;> omega
    | true =>
      have hwhole : millis / 1000 ≠ 0 := by simpa [hleap] using h
      simp only [if_true]
      split <;> dsimp only <;> omega

/-! ## Nanoseconds -/

/-- The nanoseconds from the start of 1970 up to an instant outside leap seconds. -/
def total (t : Instant) : ℤ :=
  t.seconds * nanosPerSecond + t.nanos

/-- Outside leap seconds the nanoseconds are less than a second. -/
lemma nanos_lt {t : Instant} (ht : t.isLeap = false) : t.nanos < nanosPerSecond :=
  Nat.lt_of_not_le (of_decide_eq_false ht)

/-- Outside leap seconds instants are ordered as their nanoseconds. -/
lemma le_iff_total_le {a b : Instant} (ha : a.isLeap = false) (hb : b.isLeap = false) :
    a ≤ b ↔ a.total ≤ b.total := by
  have ha' := nanos_lt ha
  have hb' := nanos_lt hb
  rw [le_iff_or, total, total]
  simp only [nanosPerSecond] at *
  omega

/-- Outside leap seconds, milliseconds are counted back in one of two ways: within a second, or
borrowing another. -/
lemma back_eq {t : Instant} (ht : t.isLeap = false) (millis : ℕ) :
    t.back millis =
      if millis % 1000 * 1000000 ≤ t.nanos then
        ⟨t.seconds - (millis / 1000 : ℕ), t.nanos - millis % 1000 * 1000000⟩
      else
        ⟨t.seconds - (millis / 1000 : ℕ) - 1,
          t.nanos + nanosPerSecond - millis % 1000 * 1000000⟩ := by
  simp [back, ht]

/-- Counting back from outside leap seconds does not lead into one. -/
lemma isLeap_back {t : Instant} (ht : t.isLeap = false) (millis : ℕ) :
    (t.back millis).isLeap = false := by
  have ht' := nanos_lt ht
  refine decide_eq_false (Nat.not_le_of_lt ?_)
  rw [back_eq ht]
  simp only [nanosPerSecond] at *
  split <;> dsimp only <;> omega

/-- **Counting back subtracts.** -/
theorem total_back {t : Instant} (ht : t.isLeap = false) (millis : ℕ) :
    (t.back millis).total = t.total - millis * 1000000 := by
  have ht' := nanos_lt ht
  rw [back_eq ht]
  simp only [total, nanosPerSecond] at *
  split <;> dsimp only <;> omega

/-! ## Days -/

/-- The instant 24 hours earlier, counted back as an age is. -/
def dayEarlier (t : Instant) : Instant :=
  t.back 86400000

/-- Outside leap seconds it is the same time of the day before. -/
lemma dayEarlier_eq {t : Instant} (ht : t.isLeap = false) :
    t.dayEarlier = ⟨t.seconds - secondsPerDay, t.nanos⟩ := by
  rw [dayEarlier, back_eq ht, if_pos (Nat.zero_le _)]
  rfl

/-- An instant at least 24 hours earlier falls on an earlier day. Within a leap second this would
fail: at the end of a day, the leap second counts as the start of the next day. -/
lemma date_lt_of_le_dayEarlier {a b : Instant} (hb : b.isLeap = false) (h : a ≤ b.dayEarlier) :
    a.date < b.date := by
  rw [dayEarlier_eq hb, le_iff_or] at h
  rw [Date.lt_iff]
  simp only [date, secondsPerDay] at *
  omega

/-! ## The passing of time -/

/-- Time passes from one instant to another that is no earlier and can be told. Neither lies within
a leap second. -/
structure Passes (now later : Instant) : Prop where
  /-- The other instant is no earlier. -/
  le : now ≤ later
  /-- The first instant lies outside leap seconds. -/
  isLeap_now : now.isLeap = false
  /-- The other instant lies outside leap seconds. -/
  isLeap_later : later.isLeap = false
  /-- The other instant can be told. -/
  inRange : later.InRange

namespace Passes

variable {now later : Instant}

/-- Counting back from a later time leads to no earlier instant. -/
lemma back_le_back (h : now.Passes later) (millis : ℕ) : now.back millis ≤ later.back millis := by
  have hle : now.total ≤ later.total := (le_iff_total_le h.isLeap_now h.isLeap_later).1 h.le
  rw [le_iff_total_le (isLeap_back h.isLeap_now millis) (isLeap_back h.isLeap_later millis),
    total_back h.isLeap_now, total_back h.isLeap_later]
  omega

/-- What could be counted back before can be counted back later, to an instant that is no earlier.

**Proof sketch.** Counted back from the later time, the instant lies between the one that could be
told before and the later time itself. -/
theorem before? (h : now.Passes later) {millis : ℕ} {t : Instant}
    (ht : now.before? millis = some t) : ∃ t', later.before? millis = some t' ∧ t ≤ t' := by
  have hrange : t.InRange := inRange_of_before? ht
  have heq : now.back millis = t :=
    Option.some.inj (Option.ite_none_right_eq_some.1 ht).2
  have hback : t ≤ later.back millis := heq ▸ h.back_le_back millis
  have hlow : t.date ≤ (later.back millis).date := date_mono hback
  have hhigh : (later.back millis).date ≤ later.date := date_mono (back_bounds later millis).1
  have hrange' : (later.back millis).InRange :=
    ⟨Int.le_trans hrange.1 hlow, Int.lt_of_le_of_lt hhigh h.inRange.2⟩
  exact ⟨later.back millis, if_pos hrange', hback⟩

/-- An age gives an instant that is no earlier. -/
theorem before (h : now.Passes later) {age : Age} {t : Instant} (ht : age.before now = .ok t) :
    ∃ t', age.before later = .ok t' ∧ t ≤ t' := by
  have hproper := Age.isProper_of_before ht
  unfold Age.before at ht ⊢
  rw [if_pos hproper] at ht ⊢
  cases hb : age.millis?.bind now.before? with
  | none => simp [hb] at ht
  | some u =>
    obtain ⟨millis, hmillis, hback⟩ := Option.bind_eq_some_iff.1 hb
    obtain ⟨t', ht', hle⟩ := h.before? hback
    obtain rfl : u = t := by simpa [hb] using ht
    exact ⟨t', by simp [hmillis, ht'], hle⟩

/-- An age gives a cutoff that is on no earlier day. -/
theorem cutoff (h : now.Passes later) {age : Age} {c : AgeCutoff} (hc : age.cutoff now = .ok c) :
    ∃ c', age.cutoff later = .ok c' ∧ c.date ≤ c'.date := by
  obtain ⟨t, ht, rfl⟩ := Age.cutoff_eq_ok_iff.1 hc
  obtain ⟨t', ht', hle⟩ := h.before ht
  exact ⟨_, Age.cutoff_eq_ok_iff.2 ⟨t', ht', rfl⟩, date_mono hle⟩

end Passes

end Instant

end ReplicaPolicy
