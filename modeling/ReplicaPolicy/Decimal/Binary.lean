set_option relaxedAutoImplicit false
set_option autoImplicit false

/-!
# The exact value of a binary floating-point number

A `Float` that is neither infinite nor undefined is exactly `± mantissa * 2 ^ exponent` with
natural mantissa. Printing and rounding work on that exact value, in natural numbers.

## Main definitions

* `ReplicaPolicy.Decimal.Reading` — what a `Float` stands for.
* `ReplicaPolicy.Decimal.Magnitude.fraction` — a magnitude as a quotient of natural numbers.
* `ReplicaPolicy.Decimal.ordering?` — comparison, undefined when either side is not a number.
* `ReplicaPolicy.Decimal.roundHalfEven`, `roundHalfUp` — rounding a quotient to a natural number.
-/

namespace ReplicaPolicy.Decimal

/-- The number `mantissa * 2 ^ exponent`. -/
structure Magnitude where
  /-- The whole factor. -/
  mantissa : Nat
  /-- The power of two. -/
  exponent : Int
  deriving DecidableEq, Repr

/-- What a `Float` stands for. -/
inductive Reading where
  /-- Not a number. -/
  | undefined
  /-- An infinity. -/
  | infinite (negative : Bool)
  /-- A number, with the sign that also tells the two zeros apart. -/
  | finite (negative : Bool) (magnitude : Magnitude)
  deriving DecidableEq, Repr

/-- Whether a sign is the negative one. -/
def isNegativeSign : Float.Model.UnpackedFloat.Sign → Bool
  | .positive => false
  | .negative => true

/-- What `x` stands for. -/
def read (x : Float) : Reading :=
  match x.toModel.unpack with
  | .notANumber => .undefined
  | .infinity s => .infinite (isNegativeSign s)
  | .zero s => .finite (isNegativeSign s) ⟨0, 0⟩
  | .finite s m e _ => .finite (isNegativeSign s) ⟨m, e⟩

/-- Whether `x` is a number, infinities excluded. -/
def isFinite (x : Float) : Bool :=
  match read x with
  | .finite _ _ => true
  | _ => false

/-- The order of two numbers. Nothing is less than, equal to or greater than what is not a
number. -/
def ordering? (x y : Float) : Option Ordering :=
  if x < y then some .lt
  else if x == y then some .eq
  else if y < x then some .gt
  else none

namespace Magnitude

/-- The magnitude as numerator and positive denominator. -/
def fraction (v : Magnitude) : Nat × Nat :=
  if 0 ≤ v.exponent then (v.mantissa * Nat.pow 2 v.exponent.toNat, 1)
  else (v.mantissa, Nat.pow 2 (-v.exponent).toNat)

end Magnitude

/-! ## Rounding a quotient -/

/-- The natural number nearest to `num / den`; of two equally near ones the even one. -/
def roundHalfEven (num den : Nat) : Nat :=
  let q := num / den
  let r := num % den
  if 2 * r < den then q
  else if den < 2 * r then q + 1
  else q + q % 2

/-- The natural number nearest to `num / den`; of two equally near ones the larger one. -/
def roundHalfUp (num den : Nat) : Nat :=
  (2 * num + den) / (2 * den)

end ReplicaPolicy.Decimal
