import Mathlib
import ReplicaPolicy.Proofs.Decimal.Quotient

set_option relaxedAutoImplicit false
set_option autoImplicit false

/-!
# Signs

What is a number has a sign, a zero and an infinity too. A product with a positive number has the
sign of the other factor: however far it is rounded, down to zero or up to an infinity, it changes
sides as little as it ceases to be a number. So what is not negative stays so.

## Main definitions

* `ReplicaPolicy.Decimal.sign?` — the sign of what is a number.

## Main results

* `ReplicaPolicy.Decimal.sign?_mul`, `unpack_mul_of_zero` — products with a positive number.
* `ReplicaPolicy.Decimal.lt_zero_iff` — what is less than zero.
-/

namespace ReplicaPolicy.Decimal

open Float.Model Float.Model.UnpackedFloat

/-- The sign of what is a number; zeros and infinities have one. -/
def sign? : UnpackedFloat → Option Sign
  | .notANumber => none
  | .infinity s | .zero s | .finite s _ _ _ => some s

/-! ## Packing -/

/-- What is told with an exponent that is not the last one has the sign that is told.

**Proof sketch.** By the exponent and the mantissa: zero, a number without an exponent, or with
one. -/
lemma sign?_unpack {b : BitVec Format.binary64.numBits}
    (hexponent : unpackExponent b ≠ -BitVec.ofNat Format.binary64.exponentBits 1) :
    sign? (UnpackedFloat.unpack Format.binary64 b) = some (.ofBitVec (unpackSign b)) := by
  by_cases hzero : unpackExponent b = 0#11
  · by_cases hm : unpackMantissa b = 0#52
    · exact congrArg sign? ((if_neg hexponent).trans ((if_pos hzero).trans (dif_pos hm)))
    · exact congrArg sign? ((if_neg hexponent).trans ((if_pos hzero).trans (dif_neg hm)))
  · exact congrArg sign? ((if_neg hexponent).trans (if_neg hzero))

/-- What is put together with an exponent that is not the last one keeps its sign. -/
lemma sign?_unpack_packComponents (s : Sign) {exponent : BitVec Format.binary64.exponentBits}
    (hexponent : exponent ≠ -BitVec.ofNat Format.binary64.exponentBits 1)
    (mantissa : BitVec Format.binary64.mantissaBitsWithoutImplicit) :
    sign? (UnpackedFloat.unpack Format.binary64
      (packComponents Format.binary64 s exponent mantissa)) = some s := by
  rw [sign?_unpack (by rwa [unpackExponent_packComponents]), unpackSign_packComponents,
    Sign.ofBitVec_toBitVec]

/-- **A number keeps its sign when it is told**, and what is no number does not become one.

**Proof sketch.** By the form in which a finite number is told: as an infinity, with an exponent
below the last one, or without an exponent. -/
theorem sign?_unpack_pack (u : UnpackedFloat) : sign? (Float.Model.pack u).unpack = sign? u := by
  cases u with
  | notANumber => rfl
  | infinity s | zero s => cases s <;> rfl
  | finite s m e hm =>
    show sign? (UnpackedFloat.unpack Format.binary64 (UnpackedFloat.pack Format.binary64 _)) =
      some s
    unfold UnpackedFloat.pack
    dsimp only
    split
    · cases s <;> rfl
    · rename_i hfits
      split
      · refine sign?_unpack_packComponents s ?_ _
        intro hlast
        have hnat := congrArg BitVec.toNat hlast
        rw [BitVec.toNat_ofNat, Nat.mod_eq_of_lt (by omega)] at hnat
        change _ = 2047 at hnat
        change ¬2 ^ 11 ≤ _ at hfits
        omega
      · exact sign?_unpack_packComponents s (by decide) _

/-! ## Products -/

/-- Rounding keeps the sign. -/
lemma sign?_roundWithAccuracy (s : Sign) (m : ℕ) (e : ℤ) (accuracy : Accuracy) :
    sign? (roundWithAccuracy Format.binary64 s m e accuracy) = some s := by
  unfold roundWithAccuracy
  dsimp only
  split <;> rfl

section Product

variable {x y : Float} {m : ℕ} {e : ℤ} {hm : 0 < m}

/-- **A product with a positive number has the sign of the other factor**, if this has one.

**Proof sketch.** By the kind of the other factor. The product of finite numbers is rounded. -/
theorem sign?_mul (x : Float) (hy : y.toModel.unpack = .finite .positive m e hm) :
    sign? (x * y).toModel.unpack = sign? x.toModel.unpack := by
  have hpositive : ∀ s : Sign, s * .positive = s := by
    intro s
    cases s <;> rfl
  show sign? (Float.Model.pack
    (UnpackedFloat.mul Format.binary64 x.toModel.unpack y.toModel.unpack)).unpack = _
  rw [sign?_unpack_pack, hy]
  cases x.toModel.unpack with
  | notANumber => rfl
  | infinity s | zero s => exact congrArg some (hpositive s)
  | finite s m' e' hm' =>
    show sign? (roundWithAccuracy Format.binary64 (s * .positive) _ _ _) = some s
    rw [sign?_roundWithAccuracy, hpositive]

/-- A product of zero with a positive number is zero, with the same sign. -/
lemma unpack_mul_of_zero {s : Sign} (hx : x.toModel.unpack = .zero s)
    (hy : y.toModel.unpack = .finite .positive m e hm) : (x * y).toModel.unpack = .zero s := by
  have hmul : UnpackedFloat.mul Format.binary64 (.zero s) (.finite .positive m e hm) =
      .zero (s * .positive) := rfl
  show (Float.Model.pack
    (UnpackedFloat.mul Format.binary64 x.toModel.unpack y.toModel.unpack)).unpack = _
  rw [hx, hy, hmul]
  cases s <;> rfl

end Product

/-! ## Below zero -/

/-- What is less than zero is negative, and not zero. -/
lemma lt_zero_iff {x : Float} :
    x < 0.0 ↔ sign? x.toModel.unpack = some .negative ∧ ∀ s, x.toModel.unpack ≠ .zero s := by
  have hzero : (0.0 : Float).toModel.unpack = .zero .positive := rfl
  rw [lt_iff_compare, hzero]
  rcases x.toModel.unpack with ⟨_ | _⟩ | _ | ⟨_ | _⟩ | ⟨_ | _, m, e, hm⟩ <;>
    simp [UnpackedFloat.compare, sign?]

end ReplicaPolicy.Decimal
