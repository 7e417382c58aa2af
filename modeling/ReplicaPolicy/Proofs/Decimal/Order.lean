import Mathlib.Algebra.Order.Ring.Int
import Mathlib.Data.Nat.Cast.Order.Ring
import Mathlib.Data.Prod.Lex
import ReplicaPolicy.Predicate

set_option relaxedAutoImplicit false
set_option autoImplicit false

/-!
# The order of numbers

Numbers are compared by sign, exponent and mantissa. So the comparison of two numbers is that of the
other way round, reversed, and nothing is told of what is not a number. Numbers stand in a row: each
has a rank, and the order of two numbers is that of their ranks.

## Main definitions

* `ReplicaPolicy.Decimal.rank?` — the rank of what is a number.

## Main results

* `ReplicaPolicy.Decimal.ordering?_eq_compare` — the order of two numbers is that of their parts.
* `ReplicaPolicy.Decimal.ordering?_swap` — the order of two numbers the other way round.
* `ReplicaPolicy.Decimal.any_greater_accepts` — one number is greater if the other is less.
* `ReplicaPolicy.Decimal.compare_eq_rank` — the comparison of two numbers is that of their ranks.
* `ReplicaPolicy.Decimal.ordering?_eq_none_iff` — numbers have an order, and nothing else has.
* `ReplicaPolicy.Decimal.le_of_le_of_le`, `lt_of_le_lt`, `le_iff_not_lt` — numbers are ordered in a
  row.
* `ReplicaPolicy.Decimal.le_self_iff` — a number is at most itself, and nothing else is.
-/

namespace ReplicaPolicy.Decimal

open Float.Model

/-- The comparison of parts the other way round is reversed.

**Proof sketch.** By the kinds of both numbers and their signs. Of two finite numbers with one sign,
exponents and mantissas are compared, and these comparisons are reversed. -/
lemma compare_swap (x y : UnpackedFloat) : y.compare x = (x.compare y).map Ordering.swap := by
  have hparts : ∀ (m n : ℕ) (d e : ℤ),
      (compare e d).then (compare n m) = ((compare d e).then (compare m n)).swap := by
    intro m n d e
    rw [Ordering.swap_then, Int.compare_swap, Nat.compare_swap]
  rcases x with ⟨_ | _⟩ | _ | ⟨_ | _⟩ | ⟨_ | _, m, d, hm⟩ <;>
    rcases y with ⟨_ | _⟩ | _ | ⟨_ | _⟩ | ⟨_ | _, n, e, hn⟩ <;>
      first
      | rfl
      | exact congrArg some (hparts m n d e)
      | exact congrArg (fun o => some (Ordering.swap o)) (hparts m n d e)

/-- One number is less than another if its parts are. -/
lemma lt_iff_compare {x y : Float} :
    x < y ↔ x.toModel.unpack.compare y.toModel.unpack = some .lt := by
  show decide ((x.toModel.unpack.compare y.toModel.unpack == some .lt) = true) = true ↔ _
  rw [decide_eq_true_iff, beq_iff_eq]

/-- One number equals another if its parts do. -/
lemma beq_iff_compare {x y : Float} :
    (x == y) = true ↔ x.toModel.unpack.compare y.toModel.unpack = some .eq := by
  show (x.toModel.unpack.compare y.toModel.unpack == some .eq) = true ↔ _
  rw [beq_iff_eq]

/-- **The order of two numbers is that of their parts.** -/
theorem ordering?_eq_compare (x y : Float) :
    ordering? x y = x.toModel.unpack.compare y.toModel.unpack := by
  unfold ordering?
  simp only [lt_iff_compare, beq_iff_compare, compare_swap x.toModel.unpack]
  rcases x.toModel.unpack.compare y.toModel.unpack with _ | _ | _ | _ <;> rfl

/-- The order of two numbers the other way round is reversed. -/
theorem ordering?_swap (x y : Float) : ordering? y x = (ordering? x y).map Ordering.swap := by
  rw [ordering?_eq_compare, ordering?_eq_compare, compare_swap]

/-- **One number is greater if the other is less**, and not if either is undefined. -/
theorem any_greater_accepts (x y : Float) :
    (ordering? x y).any Operator.greater.accepts = decide (y < x) := by
  rw [Bool.eq_iff_iff, decide_eq_true_iff, lt_iff_compare, ← ordering?_eq_compare,
    ordering?_swap x y]
  rcases ordering? x y with _ | _ | _ | _ <;> simp [Operator.accepts]

/-! ## Ranks -/

/-- The rank of a number: a band for its sign and its size, and within a band an exponent before a
mantissa. -/
abbrev Rank := ℤ ×ₗ ℤ ×ₗ ℤ

/-- The rank in a band with an exponent and a mantissa. -/
def Rank.of (band exponent mantissa : ℤ) : Rank :=
  toLex (band, toLex (exponent, mantissa))

/-- The rank of a number, if it is one. Both zeros have the same rank. Of negative numbers, one with
a greater exponent or mantissa comes earlier. -/
def rank? : UnpackedFloat → Option Rank
  | .notANumber => none
  | .infinity .negative => some (.of (-2) 0 0)
  | .finite .negative m e _ => some (.of (-1) (-e) (-m))
  | .zero _ => some (.of 0 0 0)
  | .finite .positive m e _ => some (.of 1 e m)
  | .infinity .positive => some (.of 2 0 0)

/-- Natural numbers are compared as integers. -/
lemma compare_natCast (m n : ℕ) : compare (m : ℤ) n = compare m n := by
  rw [← cmp_eq_compare, ← cmp_eq_compare]
  exact Nat.strictMono_cast.cmp_map_eq m n

/-- The comparison of opposites is reversed. -/
lemma compare_neg_neg (m n : ℤ) : compare (-m) (-n) = (compare m n).swap := by
  have hanti : StrictAnti fun k : ℤ => -k := fun _ _ => neg_lt_neg
  rw [Int.compare_swap, ← cmp_eq_compare, ← cmp_eq_compare]
  exact hanti.cmp_map_eq m n

/-- **The comparison of two numbers is that of their ranks.**

**Proof sketch.** By the kinds of both numbers and their signs: different kinds and signs lie in
different bands. Within the bands of finite numbers, ranks are compared by their other parts. -/
theorem compare_eq_rank (x y : UnpackedFloat) :
    x.compare y = (rank? x).bind fun a => (rank? y).map fun b => compare a b := by
  have hpositive : ∀ (m n : ℕ) (d e : ℤ),
      (compare d e).then (compare m n) = compare (Rank.of 1 d m) (Rank.of 1 e n) := by
    intro m n d e
    show _ = (compare d e).then (compare (m : ℤ) n)
    rw [compare_natCast]
  have hnegative : ∀ (m n : ℕ) (d e : ℤ),
      ((compare d e).then (compare m n)).swap =
        compare (Rank.of (-1) (-d) (-m)) (Rank.of (-1) (-e) (-n)) := by
    intro m n d e
    show _ = (compare (-d) (-e)).then (compare (-m : ℤ) (-n))
    rw [compare_neg_neg, compare_neg_neg, compare_natCast, Ordering.swap_then]
  rcases x with ⟨_ | _⟩ | _ | ⟨_ | _⟩ | ⟨_ | _, m, d, hm⟩ <;>
    rcases y with ⟨_ | _⟩ | _ | ⟨_ | _⟩ | ⟨_ | _, n, e, hn⟩ <;>
      first
      | rfl
      | exact congrArg some (hpositive m n d e)
      | exact congrArg some (hnegative m n d e)

/-- What is not a number has no rank. -/
lemma rank?_eq_none_iff {x : UnpackedFloat} : rank? x = none ↔ x.isNaN = true := by
  rcases x with ⟨_ | _⟩ | _ | _ | ⟨_ | _, _, _, _⟩ <;>
    first
    | exact iff_of_true rfl rfl
    | exact iff_of_false (Option.some_ne_none _) Bool.false_ne_true

/-- **Numbers have an order**, and nothing else has. -/
theorem ordering?_eq_none_iff {x y : Float} :
    ordering? x y = none ↔ x.isNaN = true ∨ y.isNaN = true := by
  have hx : rank? x.toModel.unpack = none ↔ x.isNaN = true := rank?_eq_none_iff
  have hy : rank? y.toModel.unpack = none ↔ y.isNaN = true := rank?_eq_none_iff
  rw [ordering?_eq_compare, compare_eq_rank, ← hx, ← hy]
  cases rank? x.toModel.unpack <;> simp

/-- One number is less than another if its rank is. -/
lemma lt_iff_rank {x y : Float} :
    x < y ↔ ∃ a b, rank? x.toModel.unpack = some a ∧ rank? y.toModel.unpack = some b ∧ a < b := by
  rw [lt_iff_compare, compare_eq_rank]
  simp only [Option.bind_eq_some_iff, Option.map_eq_some_iff, compare_lt_iff_lt]
  exact ⟨fun ⟨a, ha, b, hb, h⟩ => ⟨a, b, ha, hb, h⟩, fun ⟨a, b, ha, hb, h⟩ => ⟨a, ha, b, hb, h⟩⟩

/-- One number is at most another if its rank is. -/
lemma le_iff_rank {x y : Float} :
    x ≤ y ↔ ∃ a b, rank? x.toModel.unpack = some a ∧ rank? y.toModel.unpack = some b ∧ a ≤ b := by
  have hle : x ≤ y ↔ (x.toModel.unpack.compare y.toModel.unpack).any Ordering.isLE = true := by
    show decide ((x.toModel.unpack.compare y.toModel.unpack).any Ordering.isLE = true) = true ↔ _
    rw [decide_eq_true_iff]
  have hisLE : ∀ a b : Rank, (compare a b).isLE = true ↔ a ≤ b := by
    intro a b
    rw [← Ordering.ne_gt_iff_isLE]
    exact compare_le_iff_le
  rw [hle, compare_eq_rank]
  cases hx : rank? x.toModel.unpack <;> cases hy : rank? y.toModel.unpack <;> simp [hisLE]

/-- What is at most a number is at most all that this number is at most. -/
theorem le_of_le_of_le {x y z : Float} (h : x ≤ y) (h' : y ≤ z) : x ≤ z := by
  obtain ⟨a, b, ha, hb, hab⟩ := le_iff_rank.1 h
  obtain ⟨b', c, hb', hc, hbc⟩ := le_iff_rank.1 h'
  obtain rfl := Option.some.inj (hb.symm.trans hb')
  exact le_iff_rank.2 ⟨a, c, ha, hc, hab.trans hbc⟩

/-- What is at most something is a number, and so is that; a number is at most itself. -/
lemma le_self_of_le {x y : Float} (h : x ≤ y) : x ≤ x ∧ y ≤ y := by
  obtain ⟨a, b, ha, hb, -⟩ := le_iff_rank.1 h
  exact ⟨le_iff_rank.2 ⟨a, a, ha, ha, le_refl a⟩, le_iff_rank.2 ⟨b, b, hb, hb, le_refl b⟩⟩

/-- One of two numbers is at most the other unless the other is less. -/
theorem le_iff_not_lt {x y : Float} (hx : x ≤ x) (hy : y ≤ y) : x ≤ y ↔ ¬y < x := by
  obtain ⟨a, -, ha, -, -⟩ := le_iff_rank.1 hx
  obtain ⟨b, -, hb, -, -⟩ := le_iff_rank.1 hy
  rw [le_iff_rank, lt_iff_rank, ha, hb]
  simp

/-- Of two things of which one is less, the other does not equal it. -/
lemma beq_eq_false_of_lt {x y : Float} (h : x < y) : (y == x) = false := by
  rw [Bool.eq_false_iff]
  intro heq
  rw [lt_iff_compare] at h
  rw [beq_iff_compare, compare_swap x.toModel.unpack, h] at heq
  exact absurd heq (by decide)

/-- What is at most a number is less than all that this number is less than. -/
theorem lt_of_le_lt {x y z : Float} (h : x ≤ y) (h' : y < z) : x < z := by
  obtain ⟨a, b, ha, hb, hab⟩ := le_iff_rank.1 h
  obtain ⟨b', c, hb', hc, hbc⟩ := lt_iff_rank.1 h'
  obtain rfl := Option.some.inj (hb.symm.trans hb')
  exact lt_iff_rank.2 ⟨a, c, ha, hc, hab.trans_lt hbc⟩

/-- Of two things of which one is less, both are numbers. -/
lemma le_self_of_lt {x y : Float} (h : x < y) : x ≤ x ∧ y ≤ y := by
  obtain ⟨a, b, ha, hb, -⟩ := lt_iff_rank.1 h
  exact ⟨le_iff_rank.2 ⟨a, a, ha, ha, le_refl a⟩, le_iff_rank.2 ⟨b, b, hb, hb, le_refl b⟩⟩

/-- A number is at most itself, and nothing else is. -/
lemma le_self_iff {x : Float} : x ≤ x ↔ x.isNaN = false := by
  have hx : rank? x.toModel.unpack = none ↔ x.isNaN = true := rank?_eq_none_iff
  rw [le_iff_rank, ← Bool.not_eq_true, ← hx]
  cases rank? x.toModel.unpack <;> simp

end ReplicaPolicy.Decimal
