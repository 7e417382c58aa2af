import ReplicaPolicy.Proofs.Age.Passing
import ReplicaPolicy.Proofs.Decimal.Sign

set_option relaxedAutoImplicit false
set_option autoImplicit false

/-!
# Counting back an age

An age is counted back by whole milliseconds. A machine computes these as a number that it rounds,
refuses from a bound on, and casts into a word. The cast could hide much: what is no number becomes
zero, and what is no word becomes the nearest one. Here it never does. The amount of an age that is
counted back is not negative, so the number is not either, and it is a number; and what the bound
lets through is a word. Nor does the bound refuse anything that could be counted back, since the
calendar is shorter.

## Main definitions

* `ReplicaPolicy.Decimal.Reading.rounded`, `Reading.reaches`, `Reading.toWord` — what a machine
  makes of a number.
* `ReplicaPolicy.Age.rounded` — the milliseconds of an age as a machine rounds them.
* `ReplicaPolicy.Age.Lasts` — the whole milliseconds of an age.
* `ReplicaPolicy.Age.CountsBack` — what counting back an age comes to.

## Main results

* `ReplicaPolicy.Age.follows_milliseconds` — the milliseconds of an age have the sign of its amount.
* `ReplicaPolicy.Age.casts_exactly` — the cast of the milliseconds changes nothing.
* `ReplicaPolicy.Instant.lt_millisBound` — the calendar is shorter than the bound.
* `ReplicaPolicy.Age.exists_fault_iff` — which ages cannot be counted back.
* `ReplicaPolicy.Age.countsBack` — what counting back an age comes to.
-/

namespace ReplicaPolicy

/-! ## What a machine makes of a number -/

namespace Decimal

namespace Reading

/-- The nearest whole number, a half away from zero. What is not finite stays as it is. -/
def rounded : Reading → Reading
  | .finite negative v => .finite negative ⟨roundHalfUp v.fraction.1 v.fraction.2, 0⟩
  | x => x

/-- Whether a number is at least a positive bound. What is no number is not. -/
def reaches (bound : ℕ) : Reading → Bool
  | .undefined => false
  | .infinite negative => !negative
  | .finite negative v => !negative && bound * v.fraction.2 ≤ v.fraction.1

/-- The signed word of 64 bits into which a number is cast: its whole part, or the nearest word
where this is none. What is no number is cast into zero. -/
def toWord : Reading → ℤ
  | .undefined => 0
  | .infinite negative => if negative then -2 ^ 63 else 2 ^ 63 - 1
  | .finite negative v =>
    let whole : ℤ := (v.fraction.1 / v.fraction.2 : ℕ)
    max (-2 ^ 63) (min (if negative then -whole else whole) (2 ^ 63 - 1))

/-- The fraction of a whole number. -/
lemma fraction_whole (n : ℕ) : (⟨n, 0⟩ : Magnitude).fraction = (n, 1) := by
  simp [Magnitude.fraction]

/-- A whole number that is no less than zero reaches a bound if it is no less than the bound. -/
lemma reaches_whole {negative : Bool} {n bound : ℕ} (hsign : negative = true → n = 0)
    (hbound : 0 < bound) :
    reaches bound (.finite negative ⟨n, 0⟩) = decide (bound ≤ n) := by
  cases negative with
  | false => simp [reaches, fraction_whole]
  | true =>
    obtain rfl := hsign rfl
    simp [reaches, hbound.ne']

/-- **A whole number that is no less than zero and below the bound is cast into itself.** -/
lemma toWord_whole {negative : Bool} {n : ℕ} (hsign : negative = true → n = 0)
    (hn : n < Age.millisBound) : toWord (.finite negative ⟨n, 0⟩) = n := by
  have hword : n < 2 ^ 63 := hn
  cases negative with
  | false =>
    simp only [toWord, fraction_whole, Nat.div_one, Bool.false_eq_true, if_false]
    omega
  | true =>
    obtain rfl := hsign rfl
    rfl

end Reading

/-- A number follows another: it has the same sign, and it is zero where the other is. -/
structure Follows (x y : Float) : Prop where
  /-- The signs are the same, and if one is no number then the other is none. -/
  sign?_eq : sign? y.toModel.unpack = sign? x.toModel.unpack
  /-- Zero is followed by zero. -/
  of_zero : ∀ s, x.toModel.unpack = .zero s → y.toModel.unpack = .zero s

lemma Follows.trans {x y z : Float} (h : Follows x y) (h' : Follows y z) : Follows x z :=
  ⟨h'.sign?_eq.trans h.sign?_eq, fun s hs => h'.of_zero s (h.of_zero s hs)⟩

/-- A product with a positive number follows the other factor. -/
lemma follows_mul (x : Float) {y : Float} {m : ℕ} {e : ℤ} {hm : 0 < m}
    (hy : y.toModel.unpack = .finite .positive m e hm) : Follows x (x * y) :=
  ⟨sign?_mul x hy, fun _ hs => unpack_mul_of_zero hs hy⟩

end Decimal

open Decimal (Reading Follows follows_mul)

namespace Age

/-! ## Amounts -/

/-- **An amount is proper just if it is zero, of either sign, or positive and finite.** -/
lemma isProperAmount_iff {x : Float} :
    isProperAmount x = true ↔
      (∃ s, x.toModel.unpack = .zero s) ∨
        ∃ m e hm, x.toModel.unpack = .finite .positive m e hm := by
  rw [isProperAmount, Bool.and_eq_true, Bool.not_eq_true', decide_eq_false_iff_not,
    Decimal.lt_zero_iff, Decimal.isFinite, Decimal.read]
  rcases x.toModel.unpack with _ | _ | s | ⟨_ | _, m, e, hm⟩ <;> simp [Decimal.sign?, *]

/-- The milliseconds of an age follow its amount. -/
lemma follows_milliseconds (a : Age) : Follows a.amount (a.seconds * 1000.0) := by
  have hyear (x : Float) : Follows x (x * 365.0) := follows_mul x rfl
  have hday (x : Float) : Follows x (x * 24.0) := follows_mul x rfl
  have hhour (x : Float) : Follows x (x * 3600.0) := follows_mul x rfl
  have hsecond (x : Float) : Follows x (x * 1000.0) := follows_mul x rfl
  obtain ⟨amount, _ | _ | _⟩ := a
  case hours => exact (hhour _).trans (hsecond _)
  case days => exact ((hday _).trans (hhour _)).trans (hsecond _)
  case years => exact (((hyear _).trans (hday _)).trans (hhour _)).trans (hsecond _)

/-! ## Milliseconds -/

/-- The milliseconds of an age as a machine computes and rounds them. -/
def rounded (a : Age) : Reading :=
  (Decimal.read (a.seconds * 1000.0)).rounded

/-- The age has some whole number of milliseconds, however great. -/
def Lasts (a : Age) (millis : ℕ) : Prop :=
  ∃ negative, a.rounded = .finite negative ⟨millis, 0⟩

/-- An age has one number of milliseconds. -/
lemma Lasts.unique {a : Age} {millis other : ℕ} (h : a.Lasts millis) (h' : a.Lasts other) :
    millis = other := by
  obtain ⟨_, hr⟩ := h
  obtain ⟨_, hr'⟩ := h'
  exact congrArg Decimal.Magnitude.mantissa (Reading.finite.inj (hr.symm.trans hr')).2

/-- The milliseconds of an age are given where they are below the bound. -/
lemma millis?_eq_some_iff {a : Age} {millis : ℕ} :
    a.millis? = some millis ↔ a.Lasts millis ∧ millis < millisBound := by
  unfold millis? Lasts rounded
  cases Decimal.read (a.seconds * 1000.0) with
  | undefined | infinite _ => simp [Reading.rounded]
  | finite negative v =>
    simp only [Reading.rounded, Reading.finite.injEq, Decimal.Magnitude.mk.injEq, and_true,
      exists_and_right, exists_eq', true_and, Option.ite_none_right_eq_some, Option.some.injEq]
    constructor
    · rintro ⟨hbound, rfl⟩
      exact ⟨rfl, hbound⟩
    · rintro ⟨rfl, hbound⟩
      exact ⟨hbound, rfl⟩

/-- **The milliseconds of a proper age are infinite or a whole number no less than zero.**

**Proof sketch.** They follow the amount. Where this is zero, they are zero with its sign; where it
is positive, they are positive and may be infinite. -/
lemma rounded_cases {a : Age} (h : a.isProper = true) :
    a.rounded = .infinite false ∨
      ∃ negative millis, a.rounded = .finite negative ⟨millis, 0⟩ ∧
        (negative = true → millis = 0) := by
  have hfollows := a.follows_milliseconds
  rw [rounded, Decimal.read]
  rcases isProperAmount_iff.1 h with ⟨s, hs⟩ | ⟨m, e, hm, hpositive⟩
  · rw [hfollows.of_zero s hs]
    exact .inr ⟨_, 0, rfl, fun _ => rfl⟩
  · have hsign := hfollows.sign?_eq
    rw [hpositive] at hsign
    cases hu : (a.seconds * 1000.0).toModel.unpack with
    | notANumber => rw [hu] at hsign; exact absurd hsign (by simp [Decimal.sign?])
    | infinity s | zero s | finite s m' e' hm' =>
      rw [hu] at hsign
      obtain rfl := Option.some.inj hsign
      simp [Reading.rounded, Decimal.isNegativeSign]

/-- **The cast of the milliseconds changes nothing.** The milliseconds of a proper age reach the
bound and are refused, or they are a whole number that is no less than zero and is cast into
itself. -/
theorem casts_exactly {a : Age} (h : a.isProper = true) :
    a.rounded.reaches millisBound = true ∧ a.millis? = none ∨
      ∃ negative millis, a.rounded = .finite negative ⟨millis, 0⟩ ∧
        (negative = true → millis = 0) ∧ millis < millisBound ∧
        a.rounded.reaches millisBound = false ∧ a.rounded.toWord = millis ∧
        a.millis? = some millis := by
  rcases rounded_cases h with hinfinite | ⟨negative, millis, hfinite, hsign⟩
  · refine .inl ⟨by rw [hinfinite]; rfl, ?_⟩
    refine Option.eq_none_iff_forall_ne_some.2 fun millis hmillis => ?_
    obtain ⟨negative, hfinite⟩ := (millis?_eq_some_iff.1 hmillis).1
    exact absurd (hinfinite.symm.trans hfinite) (by simp)
  · have hreaches : a.rounded.reaches millisBound = decide (millisBound ≤ millis) :=
      hfinite ▸ Reading.reaches_whole hsign (Nat.two_pow_pos 63)
    by_cases hbound : millis < millisBound
    · refine .inr ⟨negative, millis, hfinite, hsign, hbound, ?_, ?_, ?_⟩
      · rw [hreaches, decide_eq_false (Nat.not_le.2 hbound)]
      · rw [hfinite, Reading.toWord_whole hsign hbound]
      · exact millis?_eq_some_iff.2 ⟨⟨negative, hfinite⟩, hbound⟩
    · refine .inl ⟨?_, ?_⟩
      · rw [hreaches, decide_eq_true (Nat.not_lt.1 hbound)]
      · refine Option.eq_none_iff_forall_ne_some.2 fun other hother => ?_
        obtain ⟨hlasts, hother⟩ := millis?_eq_some_iff.1 hother
        exact hbound (hlasts.unique ⟨negative, hfinite⟩ ▸ hother)

end Age

/-! ## The calendar -/

/-- **The calendar is shorter than the bound**: what leads from one instant that can be told back to
another is below it. -/
theorem Instant.lt_millisBound {now : Instant} {millis : ℕ} (hnow : now.InRange)
    (h : (now.back millis).InRange) : millis < Age.millisBound := by
  have hbound : Age.millisBound = 2 ^ 63 := rfl
  have hback := (now.back_bounds millis).2
  have hlast : now.seconds / 86400 < Date.firstDay (Date.lastYear + 1) := hnow.2
  have hfirst : Date.firstDay Date.firstYear ≤ (now.back millis).seconds / 86400 := h.1
  simp only [Date.firstDay, Date.firstYear, Date.lastYear] at hlast hfirst
  omega

/-! ## Counting back -/

namespace Age

variable {a : Age} {now : Instant}

/-- An age that is counted back leads back by its milliseconds. -/
lemma exists_lasts_of_before {t : Instant} (h : a.before now = .ok t) :
    ∃ millis, a.Lasts millis ∧ now.back millis = t := by
  rw [before, if_pos (isProper_of_before h)] at h
  cases hb : a.millis?.bind now.before? with
  | none => simp [hb] at h
  | some u =>
    obtain rfl : u = t := by simpa [hb] using h
    obtain ⟨millis, hmillis, hback⟩ := Option.bind_eq_some_iff.1 hb
    exact ⟨millis, (millis?_eq_some_iff.1 hmillis).1,
      Option.some.inj (Option.ite_none_right_eq_some.1 hback).2⟩

/-- A proper age that leads to an instant that can be told is counted back. -/
lemma before_of_lasts (hnow : now.InRange) (h : a.isProper = true) {millis : ℕ}
    (hlasts : a.Lasts millis) (hrange : (now.back millis).InRange) :
    a.before now = .ok (now.back millis) := by
  have hmillis : a.millis? = some millis :=
    millis?_eq_some_iff.2 ⟨hlasts, Instant.lt_millisBound hnow hrange⟩
  simp [before, h, hmillis, Instant.before?, hrange]

/-- An age that is not proper is complained about as negative, and a proper one as too great. -/
lemma fault_of_before {fault : Fault} (h : a.before now = .error fault) :
    fault = .invalidSetting
      (if a.isProper then .distantAge a.amount a.unit else .negativeAge a.amount a.unit) := by
  rw [before] at h
  cases hproper : a.isProper with
  | false =>
    rw [hproper] at h
    exact (Except.error.inj h).symm
  | true =>
    rw [if_pos hproper] at h
    cases hb : a.millis?.bind now.before? with
    | none => exact (Except.error.inj (hb ▸ h)).symm
    | some t => simp [hb] at h

/-- **An age is complained about if it is not proper, or leads to no instant that can be told.** -/
theorem exists_fault_iff (hnow : now.InRange) :
    (∃ fault, a.before now = .error fault) ↔
      a.isProper = false ∨ ∀ millis, a.Lasts millis → ¬(now.back millis).InRange := by
  constructor
  · rintro ⟨fault, hfault⟩
    refine or_iff_not_imp_left.2 fun hproper millis hlasts hrange => ?_
    have hok := before_of_lasts hnow (Bool.of_not_eq_false hproper) hlasts hrange
    exact absurd (hok.symm.trans hfault) (by simp)
  · intro h
    cases hbefore : a.before now with
    | error fault => exact ⟨fault, rfl⟩
    | ok t =>
      obtain ⟨millis, hlasts, rfl⟩ := exists_lasts_of_before hbefore
      rcases h with himproper | hdistant
      · exact absurd (isProper_of_before hbefore) (by simp [himproper])
      · exact absurd (inRange_of_before hbefore) (hdistant millis hlasts)

/-- An amount of zero is no time, so it is counted back to the time itself. -/
lemma before_of_zero (hnow : now.InRange) {negative : Bool}
    (h : Decimal.read a.amount = .finite negative ⟨0, 0⟩) : a.before now = .ok now := by
  obtain ⟨s, hs⟩ : ∃ s, a.amount.toModel.unpack = .zero s := by
    rw [Decimal.read] at h
    cases hu : a.amount.toModel.unpack with
    | zero s => exact ⟨s, rfl⟩
    | finite s m e hm => simp [hu, hm.ne'] at h
    | _ => simp [hu] at h
  have hlasts : a.Lasts 0 := by
    rw [Lasts, rounded, Decimal.read, a.follows_milliseconds.of_zero s hs]
    exact ⟨_, rfl⟩
  have hback : now.back 0 = now := by
    cases hleap : now.isLeap <;> simp [Instant.back, hleap]
  have hproper : a.isProper = true := isProperAmount_iff.2 (.inl ⟨s, hs⟩)
  rw [before_of_lasts hnow hproper hlasts (hback.symm ▸ hnow), hback]

/-- What counting back an age from a time comes to. -/
structure CountsBack (a : Age) (now : Instant) : Prop where
  /-- It gives an instant that is no later, or a complaint about a setting. -/
  outcome : (∃ t, a.before now = .ok t ∧ t ≤ now) ∨
    ∃ reason, a.before now = .error (.invalidSetting reason)
  /-- The milliseconds of a proper age reach the bound and are refused, or they are a whole number
  from zero to the bound, and cast into a word they stay this number. -/
  cast : a.isProper = true →
    a.rounded.reaches millisBound = true ∧ a.millis? = none ∨
      ∃ negative millis, a.rounded = .finite negative ⟨millis, 0⟩ ∧
        (negative = true → millis = 0) ∧ millis < millisBound ∧
        a.rounded.reaches millisBound = false ∧ a.rounded.toWord = millis ∧
        a.millis? = some millis
  /-- It fails just if the amount is not finite or less than zero, or if the instant cannot be
  told. -/
  fails : (∃ fault, a.before now = .error fault) ↔
    Decimal.isFinite a.amount = false ∨ a.amount < 0.0 ∨
      ∀ millis, a.Lasts millis → ¬(now.back millis).InRange
  /-- An amount of zero, of either sign, is counted back to the time itself. -/
  zero : ∀ negative, Decimal.read a.amount = .finite negative ⟨0, 0⟩ → a.before now = .ok now

/-- **What counting back an age comes to**, from a time that can be told. -/
theorem countsBack (a : Age) (hnow : now.InRange) : a.CountsBack now := by
  refine { outcome := ?outcome, cast := casts_exactly, fails := ?fails,
           zero := fun _ => before_of_zero hnow }
  case outcome =>
    cases hbefore : a.before now with
    | ok t =>
      obtain ⟨millis, -, rfl⟩ := exists_lasts_of_before hbefore
      exact .inl ⟨_, rfl, (now.back_bounds millis).1⟩
    | error fault =>
      rw [fault_of_before hbefore]
      exact .inr ⟨_, rfl⟩
  case fails =>
    have hproper : a.isProper = false ↔ Decimal.isFinite a.amount = false ∨ a.amount < 0.0 := by
      rw [isProper, isProperAmount, Bool.and_eq_false_iff, Bool.not_eq_false', decide_eq_true_iff]
    rw [exists_fault_iff hnow, hproper, or_assoc]

end Age

end ReplicaPolicy
