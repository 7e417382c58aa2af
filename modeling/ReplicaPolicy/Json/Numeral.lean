import ReplicaPolicy.Decimal.Literal

set_option relaxedAutoImplicit false
set_option autoImplicit false

/-!
# Numbers as written in documents

A number of a document is kept as it was written, so that a whole number can be told from one
with a fraction or a power of ten.

Its value as a binary number is computed in one pass. Digits are gathered into a whole number
below `2 ^ 64`; from the first digit that no longer fits, digits are dropped, and before the point
each dropped digit raises the power of ten. The whole number is then multiplied or divided by that
power of ten, each operation rounded.

## Main definitions

* `ReplicaPolicy.Numeral` — a number as written.
* `ReplicaPolicy.Numeral.natural?` — the natural number that it writes.
* `ReplicaPolicy.Numeral.toFloat?` — its value as a binary number, unless it is too large.
-/

namespace ReplicaPolicy

/-- A number as written: a sign, digits, digits after a point, and a power of ten. -/
structure Numeral where
  /-- A minus sign stands in front. -/
  negative : Bool
  /-- The digits before the point. -/
  whole : List Char
  /-- The digits after the point; none when no point is written. -/
  fraction : List Char
  /-- The power of ten, when one is written. -/
  exponent : Option Int
  deriving DecidableEq, Repr

namespace Numeral

open Decimal (digitsValue)

/-- Neither a point nor a power of ten is written. -/
def isWhole (n : Numeral) : Bool :=
  n.fraction.isEmpty && n.exponent.isNone

/-- The numeral of a natural number. -/
def ofNat (n : Nat) : Numeral :=
  ⟨false, Nat.toDigits 10 n, [], none⟩

/-- The numeral of an integer. -/
def ofInt (n : Int) : Numeral :=
  ⟨n < 0, Nat.toDigits 10 n.natAbs, [], none⟩

/-- The natural number that a numeral writes, if it is whole, has no sign and is below `bound`. -/
def natural? (bound : Nat) (n : Numeral) : Option Nat :=
  if n.isWhole && !n.negative && digitsValue n.whole < bound then some (digitsValue n.whole)
  else none

/-! ## The value as a binary number -/

/-- The first number that gathered digits must stay below. -/
def gatherBound : Nat := Nat.pow 2 64

/-- The largest power of ten that is used as a factor. -/
def greatestPower : Nat := 308

/-- Gathers digits after `n` while the result stays below the bound; gives the result and the
digits that are left. -/
def gather (n : Nat) : List Char → Nat × List Char
  | [] => (n, [])
  | c :: cs =>
    let next := 10 * n + (c.toNat - '0'.toNat)
    if next < gatherBound then gather next cs else (n, c :: cs)

/-- The binary number nearest to a power of ten. -/
def powerOfTen (k : Nat) : Float :=
  Decimal.nearest false 1 k

/-- The number divided by a power of ten, in steps of the largest power. -/
def divideByPower (x : Float) (k : Nat) : Float :=
  if k ≤ greatestPower then x / powerOfTen k
  else if x == 0 then x
  else divideByPower (x / powerOfTen greatestPower) (k - greatestPower)
  termination_by k
  decreasing_by simp only [greatestPower] at *; omega

/-- The gathered digits times a power of ten, unless the result is infinite. -/
def scale? (digits : Nat) (exponent : Int) : Option Float :=
  let x := Float.ofNat digits
  if exponent < 0 then some (divideByPower x exponent.natAbs)
  else if exponent ≤ greatestPower then
    let scaled := x * powerOfTen exponent.natAbs
    if Decimal.isFinite scaled then some scaled else none
  else if digits = 0 then some x
  else none

/-- The value as a binary number, unless it is too large for one. -/
def toFloat? (n : Numeral) : Option Float :=
  let (digits, dropped) := gather 0 n.whole
  let (digits, left) := gather digits n.fraction
  let places : Int := n.fraction.length - left.length
  (scale? digits (dropped.length - places + n.exponent.getD 0)).map fun x =>
    if n.negative then -x else x

end Numeral

end ReplicaPolicy
