import ReplicaPolicy.Decimal.Fixed

set_option relaxedAutoImplicit false
set_option autoImplicit false

/-!
# The shortest decimal text of a number

A binary number is written with the fewest decimal digits that still read back as that number.
The reals that round to `m * 2 ^ q` form an interval, its ends included exactly when `m` is even.
Decimal grids `10 ^ p` are tried from coarse to fine. On a grid only the two neighbours of the
value can be the nearest point of the interval, so the first grid on which one of them lies in
the interval gives the fewest digits; of two the nearer is taken, the upper one in a tie.

The text is positional throughout: no exponent, and no fraction for whole numbers.

## Main definitions

* `ReplicaPolicy.Decimal.Interval` — the reals that round to a binary number, in quarter units.
* `ReplicaPolicy.Decimal.Interval.onGrid?` — the point of a grid that stands for the number.
* `ReplicaPolicy.Decimal.shortest` — the text of a number.
-/

namespace ReplicaPolicy.Decimal

/-- The reals that round to a positive number, counted in units of `2 ^ exponent`. -/
structure Interval where
  /-- The number itself. -/
  value : Nat
  /-- The lower end. -/
  low : Nat
  /-- The upper end. -/
  high : Nat
  /-- Whether the ends round to the number too. -/
  closed : Bool
  /-- The power of two that is the unit. -/
  exponent : Int

/-- The mantissa from which on the gap below a number is half the gap above it. -/
def leastNormalMantissa : Nat := Nat.pow 2 52

/-- The exponent of the smallest numbers, which are evenly spaced. -/
def leastExponent : Int := -1074

/-- The interval of the reals that round to `v`. Half a gap reaches from a number to either end;
below a power of two the gap is half as wide, except among the smallest numbers. -/
def Interval.of (v : Magnitude) : Interval :=
  let narrow := v.mantissa == leastNormalMantissa && v.exponent != leastExponent
  { value := 4 * v.mantissa
    low := 4 * v.mantissa - (if narrow then 1 else 2)
    high := 4 * v.mantissa + 2
    closed := v.mantissa % 2 == 0
    exponent := v.exponent - 2 }

namespace Interval

/-- A step of the grid `10 ^ p` and the unit of the interval, as multiples of a common measure. -/
def measures (i : Interval) (p : Int) : Nat × Nat :=
  (Nat.pow 10 p.toNat * Nat.pow 2 (-i.exponent).toNat,
    Nat.pow 2 i.exponent.toNat * Nat.pow 10 (-p).toNat)

/-- Whether `digits * 10 ^ p` lies in the interval. -/
def holds (i : Interval) (p : Int) (digits : Nat) : Bool :=
  let (step, unit) := i.measures p
  let x := digits * step
  if i.closed then i.low * unit ≤ x && x ≤ i.high * unit
  else i.low * unit < x && x < i.high * unit

/-- The multiple of `10 ^ p` that stands for the value: of its two neighbours the one in the
interval, the nearer one if both are, the upper one in a tie. -/
def onGrid? (i : Interval) (p : Int) : Option Nat :=
  let (step, unit) := i.measures p
  let below := i.value * unit / step
  let rest := i.value * unit % step
  let above := if rest = 0 then below else below + 1
  match i.holds p below, i.holds p above with
  | true, true => some (if 2 * rest < step then below else above)
  | true, false => some below
  | false, true => some above
  | false, false => none

/-- The digits and the power of ten of the first grid, from `10 ^ p` downwards, that has a point
for the number. -/
def search (i : Interval) : Nat → Int → Option (Nat × Int)
  | 0, _ => none
  | grids + 1, p =>
    match i.onGrid? p with
    | some digits => some (digits, p)
    | none => search i grids (p - 1)

end Interval

/-- A power of ten above the magnitude: `30103 / 100000` exceeds the logarithm of 2. -/
def ceilingPower (v : Magnitude) : Int :=
  (v.mantissa.log2 + 1 + v.exponent) * 30103 / 100000 + 1

/-- Seventeen digits always suffice; the first grids may lie above the number. -/
def gridCount : Nat := 24

/-- The number `digits * 10 ^ p` without exponent. -/
def positional (digits : Nat) (p : Int) : List Char :=
  if 0 ≤ p then Nat.toDigits 10 digits ++ List.replicate p.toNat '0'
  else placed (-p).toNat digits

/-- The shortest text of a magnitude that reads back as it. -/
def Magnitude.shortest (v : Magnitude) : List Char :=
  if v.mantissa = 0 then ['0']
  else
    match (Interval.of v).search gridCount (ceilingPower v) with
    | some (digits, p) => positional digits p
    | none => ['0']

/-- The shortest text that reads back as the number. -/
def shortest (x : Float) : String :=
  String.ofList <|
    match read x with
    | .finite negative v => signText negative ++ v.shortest
    | other => (nonFinite other).getD []

end ReplicaPolicy.Decimal
