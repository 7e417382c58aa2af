import ReplicaPolicy.Decimal.Binary

set_option relaxedAutoImplicit false
set_option autoImplicit false

/-!
# Numbers with a fixed count of decimal places

The exact value is rounded to the wanted number of places, a half to the even neighbour, and
written with all of them. The sign is the sign of the number, also where it rounds to zero.

## Main definitions

* `ReplicaPolicy.Decimal.nonFinite` — the names of what is not finite.
* `ReplicaPolicy.Decimal.fixed` — the text of a number with a given count of places.

## Main results

* `ReplicaPolicy.Decimal.length_padLeft` — padding reaches the wanted length.
-/

namespace ReplicaPolicy.Decimal

/-- The digits of `n` with zeros in front up to the given length. -/
def padLeft (length n : Nat) : List Char :=
  let digits := Nat.toDigits 10 n
  List.replicate (length - digits.length) '0' ++ digits

theorem length_padLeft (length n : Nat) :
    (padLeft length n).length = max length (Nat.toDigits 10 n).length := by
  simp [padLeft]
  omega

/-- The sign in front of a number. -/
def signText (negative : Bool) : List Char :=
  if negative then ['-'] else []

/-- The name of a value that is not finite, with its sign. -/
def nonFinite : Reading → Option (List Char)
  | .undefined => some "NaN".toList
  | .infinite negative => some (signText negative ++ "inf".toList)
  | .finite _ _ => none

/-- The digits of `units / 10 ^ places` with exactly that many places. -/
def placed (places units : Nat) : List Char :=
  let digits := padLeft (places + 1) units
  let whole := digits.take (digits.length - places)
  if places = 0 then whole else whole ++ '.' :: digits.drop (digits.length - places)

/-- The number rounded to the given count of decimal places, a half to the even neighbour. -/
def fixed (places : Nat) (x : Float) : String :=
  String.ofList <|
    match read x with
    | .finite negative v =>
      let (num, den) := v.fraction
      signText negative ++ placed places (roundHalfEven (num * Nat.pow 10 places) den)
    | other => (nonFinite other).getD []

end ReplicaPolicy.Decimal
