import ReplicaPolicy.Proofs.Decimal.Order

set_option relaxedAutoImplicit false
set_option autoImplicit false

/-!
# Quotients and numbers that are alike

A number is written in one way only, except for zero, which has a sign. So numbers that are equal
are the same or both zero. No comparison tells them apart, and neither does a division, unless it is
by zero. What is divided by something that is not a number is not a number.

## Main definitions

* `ReplicaPolicy.Decimal.Alike` — two numbers are the same or equal.

## Main results

* `ReplicaPolicy.Decimal.ordering?_congr` — numbers that are alike have the same order with others.
* `ReplicaPolicy.Decimal.Alike.div` — quotients of numbers that are alike are alike.
* `ReplicaPolicy.Decimal.isNaN_div` — a quotient by what is not a number.
-/

namespace ReplicaPolicy.Decimal

open Float.Model

/-- Two numbers are alike: they are the same, which may be no number at all, or they are equal, as
zeros of both signs are. -/
def Alike (x y : Float) : Prop :=
  x = y ∨ (x == y) = true

variable {x y x' y' : Float}

/-! ## Comparing -/

/-- Numbers that are alike have the same rank. -/
lemma Alike.rank?_eq (h : Alike x y) : rank? x.toModel.unpack = rank? y.toModel.unpack := by
  rcases h with rfl | h
  · rfl
  · rw [beq_iff_compare, compare_eq_rank] at h
    obtain ⟨a, ha, h⟩ := Option.bind_eq_some_iff.1 h
    obtain ⟨b, hb, h⟩ := Option.map_eq_some_iff.1 h
    rw [ha, hb, compare_eq_iff_eq.1 h]

/-- **Numbers that are alike have the same order with any other.** -/
theorem ordering?_congr (h : Alike x y) (z : Float) : ordering? x z = ordering? y z := by
  rw [ordering?_eq_compare, ordering?_eq_compare, compare_eq_rank, compare_eq_rank, h.rank?_eq]

/-- Of numbers that are alike, both are at most another one or neither is. -/
lemma Alike.le_iff (h : Alike x y) (z : Float) : x ≤ z ↔ y ≤ z := by
  rw [le_iff_rank, le_iff_rank, h.rank?_eq]

/-- Numbers of the same rank have the same parts, or both are zero.

**Proof sketch.** By the kinds of both numbers and their signs: different kinds and signs lie in
different bands. Only the sign of zero is not told by the rank. -/
lemma eq_or_zero_of_rank?_eq {x y : UnpackedFloat} (h : rank? x = rank? y) :
    x = y ∨ (∃ s, x = .zero s) ∧ ∃ s, y = .zero s := by
  have hparts : ∀ {a b c a' b' c' : ℤ}, some (Rank.of a b c) = some (Rank.of a' b' c') →
      a = a' ∧ b = b' ∧ c = c' := by
    intro a b c a' b' c' h
    simpa [Rank.of] using h
  rcases x with ⟨_ | _⟩ | _ | _ | ⟨_ | _, m, d, hm⟩ <;>
    rcases y with ⟨_ | _⟩ | _ | _ | ⟨_ | _, n, e, hn⟩ <;>
      try first
        | exact .inl rfl
        | exact .inr ⟨⟨_, rfl⟩, _, rfl⟩
        | exact absurd h (Option.some_ne_none _)
        | exact absurd h.symm (Option.some_ne_none _)
        | exact absurd (hparts h).1 (by decide)
  -- two finite numbers of one sign are left
  · obtain ⟨-, hexponent, hmantissa⟩ := hparts h
    obtain rfl := neg_inj.1 hexponent
    obtain rfl := Int.ofNat_inj.1 (neg_inj.1 hmantissa)
    exact .inl rfl
  · obtain ⟨-, rfl, hmantissa⟩ := hparts h
    obtain rfl := Int.ofNat_inj.1 hmantissa
    exact .inl rfl

/-- What has the parts of zero is at most zero. -/
lemma le_zero_of_unpack {s : UnpackedFloat.Sign} (h : x.toModel.unpack = .zero s) : x ≤ 0.0 := by
  have hzero : rank? (0.0 : Float).toModel.unpack = some (.of 0 0 0) := by decide +kernel
  rw [le_iff_rank, h, hzero]
  exact ⟨_, _, rfl, rfl, le_refl _⟩

/-! ## Dividing -/

/-- The quotient of two numbers is told by their parts. -/
lemma div_eq (x y : Float) :
    x / y = .ofModel (pack (UnpackedFloat.div .binary64 x.toModel.unpack y.toModel.unpack)) :=
  rfl

/-- Zeros that are written are alike. -/
lemma alike_pack_zero (s t : UnpackedFloat.Sign) :
    Alike (.ofModel (pack (.zero s))) (.ofModel (pack (.zero t))) := by
  cases s <;> cases t <;> exact .inr (by decide +kernel)

/-- **Quotients of numbers that are alike are alike**, unless they are divided by zero or less.

**Proof sketch.** Divisors that are alike and not zero have the same parts. Zeros are left, and zero
divided by something else is zero, or not a number if that is none. -/
theorem Alike.div (hx : Alike x x') (hy : Alike y y') (hpos : ¬y ≤ 0.0) :
    Alike (x / y) (x' / y') := by
  have hdivisor : y.toModel.unpack = y'.toModel.unpack := by
    rcases eq_or_zero_of_rank?_eq hy.rank?_eq with h | ⟨⟨s, hs⟩, -⟩
    · exact h
    · exact absurd (le_zero_of_unpack hs) hpos
  rw [div_eq, div_eq, ← hdivisor]
  rcases eq_or_zero_of_rank?_eq hx.rank?_eq with h | ⟨⟨s, hs⟩, t, ht⟩
  · rw [h]
    exact .inl rfl
  · rw [hs, ht]
    cases hu : y.toModel.unpack with
    | infinity u => exact alike_pack_zero _ _
    | notANumber => exact .inl rfl
    | zero u => exact absurd (le_zero_of_unpack hu) hpos
    | finite u m e hm => exact alike_pack_zero _ _

/-- **A quotient by what is not a number is not a number.** -/
theorem isNaN_div (x : Float) (h : y.isNaN = true) : (x / y).isNaN = true := by
  have hy : y.toModel.unpack = .notANumber := by
    have hnan : y.toModel.unpack.isNaN = true := h
    generalize y.toModel.unpack = u at hnan ⊢
    cases u with
    | notANumber => rfl
    | _ => exact absurd hnan Bool.false_ne_true
  have hdiv : ∀ u : UnpackedFloat, u.div .binary64 .notANumber = .notANumber := by
    intro u
    cases u <;> rfl
  rw [div_eq, hy, hdiv]
  decide +kernel

end ReplicaPolicy.Decimal
