import Mathlib.Algebra.Order.Ring.Int
import ReplicaPolicy.Proofs.Decimal.Order

set_option relaxedAutoImplicit false
set_option autoImplicit false

/-!
# Whole numbers

A whole number is told to the nearest binary number. However large it is, this is zero only for
zero itself: rounding a number that is not below the least positive one never gives zero.

## Main results

* `ReplicaPolicy.Decimal.exists_roundWithAccuracy_eq` — what rounding makes of a number.
* `ReplicaPolicy.Decimal.unpack_ofNat_ne_zero`, `any_equal_accepts_zero` — only zero equals zero.
-/

namespace ReplicaPolicy.Decimal

open Float.Model Float.Model.UnpackedFloat

/-! ## Rounding -/

/-- Shifting a mantissa to the right divides it by a power of two. -/
lemma mantissa_shiftRight (em : ExtendedMantissa) (k : ℕ) :
    (em >>> k).mantissa = em.mantissa / 2 ^ k := by
  induction k with
  | zero =>
    show em.mantissa = _
    rw [Nat.pow_zero, Nat.div_one]
  | succ k ih =>
    show (em >>> k).mantissa / 2 = _
    rw [ih, Nat.div_div_eq_div_mul, Nat.pow_succ]

/-- Rounding a mantissa does not make it smaller. -/
lemma le_roundedMantissa (em : ExtendedMantissa) : em.mantissa ≤ em.roundedMantissa := by
  obtain ⟨m, _ | _, _ | _⟩ := em <;>
    simp [ExtendedMantissa.roundedMantissa, ExtendedMantissa.accuracy,
      Accuracy.roundToNearestEven]

/-- How far a mantissa is shifted before it is rounded. -/
def shiftOf (m : ℕ) (e : ℤ) : ℕ :=
  (Format.binary64.targetExponent (totalExponent m e) - e).toNat

/-- A number that is not below the least positive one keeps a digit when it is shifted, and at most
53 of them.

**Proof sketch.** By the number of digits: what goes beyond 53 of them is dropped, or what lies
below the least exponent, and that is not all. -/
lemma shiftOf_bounds {m : ℕ} (hm : m ≠ 0) {e : ℤ} (he : -1074 ≤ (m.log2 : ℤ) + e) :
    0 < m / 2 ^ shiftOf m e ∧ m / 2 ^ shiftOf m e < 2 ^ 53 ∧ -1074 ≤ e + shiftOf m e := by
  have hk : shiftOf m e = (max ((m.log2 : ℤ) + 1 + e - 53) (-1074) - e).toNat := rfl
  have hdigits : shiftOf m e ≤ m.log2 ∧ m.log2 + 1 ≤ 53 + shiftOf m e ∧
      -1074 ≤ e + shiftOf m e := by omega
  obtain ⟨hfew, hmany, hleast⟩ := hdigits
  have hlow : 2 ^ shiftOf m e ≤ m :=
    (Nat.pow_le_pow_right (by decide) hfew).trans (Nat.log2_self_le hm)
  have hhigh : m < 2 ^ 53 * 2 ^ shiftOf m e := by
    rw [← Nat.pow_add]
    exact Nat.lt_log2_self.trans_le (Nat.pow_le_pow_right (by decide) hmany)
  refine ⟨Nat.div_pos hlow (Nat.two_pow_pos _), ?_, hleast⟩
  rwa [Nat.div_lt_iff_lt_mul (Nat.two_pow_pos _)]

/-- **Rounding a number that is not below the least positive one gives a positive number** with a
mantissa of at most 53 digits.

**Proof sketch.** Shifting keeps a digit, rounding does not make the mantissa smaller, and the
second shift, after a carry, keeps a digit again. -/
theorem exists_roundWithAccuracy_eq (s : Sign) {m : ℕ} (hm : m ≠ 0) {e : ℤ}
    (he : -1074 ≤ (m.log2 : ℤ) + e) :
    ∃ (m' : ℕ) (e' : ℤ) (hpos : 0 < m'),
      roundWithAccuracy Format.binary64 s m e .exact = .finite s m' e' hpos ∧
        m' < 2 ^ 53 ∧ -1074 ≤ e' := by
  obtain ⟨hfirst, -, hleast⟩ := shiftOf_bounds hm he
  have hem : ∀ n d, (shiftToTargetExponent Format.binary64 n d .exact).1.mantissa =
      n / 2 ^ shiftOf n d := fun n d => mantissa_shiftRight ⟨n, false, false⟩ _
  let first := shiftToTargetExponent Format.binary64 m e .exact
  have hexponent : first.2 = e + shiftOf m e := rfl
  have hle : m / 2 ^ shiftOf m e ≤ first.1.roundedMantissa := hem m e ▸ le_roundedMantissa first.1
  have hrounded : first.1.roundedMantissa ≠ 0 := by omega
  obtain ⟨hsecond, hdigits, hleast'⟩ := shiftOf_bounds hrounded (e := first.2) (by omega)
  have hfinal : (shiftToTargetExponent Format.binary64 first.1.roundedMantissa first.2
      .exact).1.mantissa ≠ 0 := by
    rw [hem]
    omega
  refine ⟨_, _, Nat.pos_of_ne_zero hfinal, dif_neg hfinal, ?_, hleast'⟩
  rw [hem]
  exact hdigits

/-! ## Packing -/

/-- What is told is an infinity or undefined, or it is zero and has neither an exponent nor a
mantissa, or it is a number whose exponent is not below the least one.

**Proof sketch.** By the exponent that is packed: all ones, none, or another one. -/
lemma unpack_cases (b : BitVec Format.binary64.numBits) :
    (∃ s, UnpackedFloat.unpack Format.binary64 b = .infinity s) ∨
      UnpackedFloat.unpack Format.binary64 b = .notANumber ∨
      ((∃ s, UnpackedFloat.unpack Format.binary64 b = .zero s) ∧ unpackExponent b = 0#11 ∧
        unpackMantissa b = 0#52) ∨
      ∃ s m e hm, UnpackedFloat.unpack Format.binary64 b = .finite s m e hm ∧ -1074 ≤ e := by
  have hbias : (Format.binary64.exponentBias : ℤ) + Format.binary64.mantissaBitsWithoutImplicit =
      1075 := by decide
  by_cases hones : unpackExponent b = -1#11
  · by_cases hm : unpackMantissa b = 0#52
    · exact .inl ⟨_, (if_pos hones).trans (if_pos hm)⟩
    · exact .inr (.inl ((if_pos hones).trans (if_neg hm)))
  by_cases hzero : unpackExponent b = 0#11
  · by_cases hm : unpackMantissa b = 0#52
    · exact .inr (.inr (.inl ⟨⟨_, (if_neg hones).trans ((if_pos hzero).trans (dif_pos hm))⟩,
        hzero, hm⟩))
    · refine .inr (.inr (.inr ⟨_, _, _, _,
        (if_neg hones).trans ((if_pos hzero).trans (dif_neg hm)), ?_⟩))
      omega
  · have hpos : (unpackExponent b).toNat ≠ 0 := fun h => hzero (BitVec.eq_of_toNat_eq h)
    refine .inr (.inr (.inr ⟨_, _, _, _, (if_neg hones).trans (if_neg hzero), ?_⟩))
    omega

/-- What is told as zero has neither an exponent nor a mantissa. -/
lemma unpack_eq_zero {b : BitVec Format.binary64.numBits} {s : Sign}
    (h : UnpackedFloat.unpack Format.binary64 b = .zero s) :
    unpackExponent b = 0#11 ∧ unpackMantissa b = 0#52 := by
  rcases unpack_cases b with ⟨_, hu⟩ | hu | ⟨-, hparts⟩ | ⟨_, _, _, _, hu, -⟩
  · cases hu.symm.trans h
  · cases hu.symm.trans h
  · exact hparts
  · cases hu.symm.trans h

/-- The exponent of a number is not below the least one. -/
lemma exponent_of_unpack {b : BitVec Format.binary64.numBits} {s : Sign} {m : ℕ} {e : ℤ}
    {hm : 0 < m} (h : UnpackedFloat.unpack Format.binary64 b = .finite s m e hm) : -1074 ≤ e := by
  rcases unpack_cases b with ⟨_, hu⟩ | hu | ⟨⟨_, hu⟩, -⟩ | ⟨_, _, _, _, hu, hle⟩
  · cases hu.symm.trans h
  · cases hu.symm.trans h
  · cases hu.symm.trans h
  · obtain ⟨-, -, rfl⟩ := UnpackedFloat.finite.inj (hu.symm.trans h)
    exact hle

/-- A positive number with a mantissa of at most 53 digits is not told as zero.

**Proof sketch.** By the form in which it is told: an infinity and a normal number have an exponent,
and any other number has a mantissa. -/
theorem unpack_pack_ne_zero {s s' : Sign} {m : ℕ} {e : ℤ} {hm : 0 < m} (hdigits : m < 2 ^ 53)
    (he : -1074 ≤ e) : (Float.Model.pack (.finite s m e hm)).unpack ≠ .zero s' := by
  intro h
  have hparts := unpack_eq_zero (b := UnpackedFloat.pack Format.binary64 (.finite s m e hm)) h
  have hbias : (Format.binary64.exponentBias : ℤ) + Format.binary64.mantissaBitsWithoutImplicit =
      1075 := by decide
  unfold UnpackedFloat.pack at hparts
  dsimp only at hparts
  rw [add_assoc, hbias] at hparts
  split at hparts
  · rw [packedInfinity, unpackExponent_packComponents] at hparts
    exact absurd hparts.1 (by decide)
  · rename_i hfits
    split at hparts
    · rw [unpackExponent_packComponents] at hparts
      have hexponent := congrArg BitVec.toNat hparts.1
      have hsmall : (e + 1075).toNat < 2 ^ 11 := by
        change ¬2 ^ 11 ≤ _ at hfits
        omega
      rw [BitVec.toNat_ofNat, Nat.mod_eq_of_lt hsmall] at hexponent
      change _ = 0 at hexponent
      omega
    · rename_i hsubnormal
      rw [unpackMantissa_packComponents] at hparts
      have hmantissa := congrArg BitVec.toNat hparts.2
      have hlog : m.log2 < 53 := (Nat.log2_lt hm.ne').2 hdigits
      have hsmall : m < 2 ^ 52 := by
        rw [← Nat.log2_lt hm.ne']
        change ¬m.log2 + 1 = 53 at hsubnormal
        omega
      rw [BitVec.toNat_ofNat, Nat.mod_eq_of_lt hsmall] at hmantissa
      change _ = 0 at hmantissa
      omega

/-- A number that is not below the least positive one is not rounded to zero. -/
lemma unpack_round_ne_zero (s s' : Sign) {m : ℕ} (hm : m ≠ 0) {e : ℤ}
    (he : -1074 ≤ (m.log2 : ℤ) + e) :
    (Float.Model.pack (roundWithAccuracy Format.binary64 s m e .exact)).unpack ≠ .zero s' := by
  obtain ⟨m', e', hpos, hround, hdigits, hleast⟩ := exists_roundWithAccuracy_eq s hm he
  rw [hround]
  exact unpack_pack_ne_zero hdigits hleast

/-! ## Whole numbers -/

/-- A number times one is zero only if the number is.

**Proof sketch.** By the kind of the number. The product of a finite number and one has the mantissa
of the number, with 52 digits more, and an exponent less by as much. -/
lemma unpack_mul_one_ne_zero {x : Float} (h : ∀ s, x.toModel.unpack ≠ .zero s) (s : Sign) :
    (x * Float.ofBits 0x3FF0000000000000).toModel.unpack ≠ .zero s := by
  have hone : (Float.ofBits 0x3FF0000000000000).toModel.unpack =
      .finite .positive (2 ^ 52) (-52) (by decide) := rfl
  show (Float.Model.pack (UnpackedFloat.mul Format.binary64 x.toModel.unpack
    (Float.ofBits 0x3FF0000000000000).toModel.unpack)).unpack ≠ _
  rw [hone]
  cases hx : x.toModel.unpack with
  | notANumber => exact fun h => absurd (unpack_eq_zero h).1 (by decide)
  | infinity s' =>
    intro h
    cases s' <;> exact absurd (unpack_eq_zero h).1 (by decide)
  | zero s' => exact absurd hx (h s')
  | finite s' m e hm =>
    have he : -1074 ≤ e := exponent_of_unpack hx
    have hlog : 52 ≤ (m * 2 ^ 52).log2 := by
      rw [Nat.le_log2 (by omega)]
      exact Nat.le_mul_of_pos_left _ hm
    exact unpack_round_ne_zero _ s (by omega) (by omega)

/-- A number with some binary digits behind it is none below the least positive one. -/
lemma shiftLeft_bounds {n : ℕ} (hn : n ≠ 0) (k : ℕ) :
    n <<< k ≠ 0 ∧ (0 : ℤ) ≤ ((n <<< k).log2 : ℤ) + -k := by
  have hle : 2 ^ k ≤ n <<< k := by
    rw [Nat.shiftLeft_eq]
    exact Nat.le_mul_of_pos_left _ (Nat.pos_of_ne_zero hn)
  have hne : n <<< k ≠ 0 := (Nat.two_pow_pos k |>.trans_le hle).ne'
  have hlog : k ≤ (n <<< k).log2 := (Nat.le_log2 hne).2 hle
  exact ⟨hne, by omega⟩

/-- A whole number of a machine word is not told as zero.

**Proof sketch.** It is rounded with as many binary digits behind it as make up 53. -/
lemma unpack_toFloat_ne_zero {n : ℕ} (hn : n ≠ 0) (hword : n < 2 ^ 64) (s : Sign) :
    n.toUInt64.toFloat.toModel.unpack ≠ .zero s := by
  have hnat : n.toUInt64.toNat = n := Nat.mod_eq_of_lt hword
  have hsign : compare (n : ℤ) 0 = .gt := Int.compare_eq_gt.2 (by omega)
  have hround : UnpackedFloat.normalize Format.binary64 n 0 .positive =
      UnpackedFloat.round Format.binary64 .positive n 0 := by
    rw [UnpackedFloat.normalize, hsign]
    rfl
  show (Float.Model.pack
    (UnpackedFloat.normalize Format.binary64 n.toUInt64.toNat 0 .positive)).unpack ≠ _
  rw [hnat, hround, UnpackedFloat.round]
  dsimp only [decreaseExponent]
  obtain ⟨hne, hlog⟩ := shiftLeft_bounds hn
    (0 - Format.binary64.targetExponent (totalExponent n 0)).toNat
  exact unpack_round_ne_zero .positive s hne (by omega)

/-- **Only zero is told as zero**: the number nearest to another whole number is none.

**Proof sketch.** A number of at most 53 binary digits is rounded and multiplied with one; a larger
one is rounded with 53 digits more behind it. -/
theorem unpack_ofNat_ne_zero {n : ℕ} (hn : n ≠ 0) (s : Sign) :
    (Float.ofNat n).toModel.unpack ≠ .zero s := by
  by_cases hsmall : n < 2 ^ 53
  · have heq : Float.ofNat n = n.toUInt64.toFloat * Float.ofBits 0x3FF0000000000000 :=
      dif_pos ⟨hsmall, by decide⟩
    rw [heq]
    exact unpack_mul_one_ne_zero (unpack_toFloat_ne_zero hn (by omega)) s
  · have heq : Float.ofNat n = .ofModel (Float.Model.ofScientific n 0) :=
      dif_neg fun h => hsmall h.1
    have hround : UnpackedFloat.ofScientific Format.binary64 n 0 =
        roundWithAccuracy Format.binary64 .positive (n <<< 53 * 1) (-53 + 0) .exact := by
      have hbits : (2 : ℤ) ^ Format.binary64.exponentBits = 2048 := by decide
      rw [UnpackedFloat.ofScientific, dif_neg hn, if_neg (by decide), if_neg (by omega),
        if_pos (by decide)]
      rfl
    rw [heq]
    show (Float.Model.pack (UnpackedFloat.ofScientific Format.binary64 n 0)).unpack ≠ _
    obtain ⟨hne, hlog⟩ := shiftLeft_bounds hn 53
    rw [hround, Nat.mul_one]
    exact unpack_round_ne_zero .positive s hne (le_trans (by decide) hlog)

/-- **Only zero equals zero**: a whole number is compared with zero as it is. -/
theorem any_equal_accepts_zero (n : ℕ) :
    (ordering? (Float.ofNat n) (Float.ofNat 0)).any Operator.equal.accepts = (n == 0) := by
  have hzero : (Float.ofNat 0).toModel.unpack = .zero .positive := rfl
  rw [ordering?_eq_compare, hzero]
  by_cases hn : n = 0
  · rw [hn, hzero]
    rfl
  · rw [beq_eq_false_iff_ne.2 hn]
    rcases hx : (Float.ofNat n).toModel.unpack with ⟨_ | _⟩ | _ | s | ⟨_ | _, _, _, _⟩
    case zero => exact absurd hx (unpack_ofNat_ne_zero hn s)
    all_goals rfl

end ReplicaPolicy.Decimal
