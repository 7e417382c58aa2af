import ReplicaPolicy.Decimal.Binary

set_option relaxedAutoImplicit false
set_option autoImplicit false

/-!
# Reading decimal numbers

A decimal number is a whole number of digits times a power of ten. It denotes the binary number
nearest to it, and infinity beyond the largest one.

## Main definitions

* `ReplicaPolicy.Decimal.takeDigits`, `digitsValue` — decimal digits and what they spell.
* `ReplicaPolicy.Decimal.nearest` — the binary number nearest to a decimal one.
* `ReplicaPolicy.Decimal.literal?` — the number that a text spells, if it spells one.
-/

namespace ReplicaPolicy.Decimal

/-! ## Digits -/

/-- The digits at the start of a text, and what follows them. -/
def takeDigits (cs : List Char) : List Char × List Char :=
  (cs.takeWhile Char.isDigit, cs.dropWhile Char.isDigit)

/-- The number that decimal digits spell. -/
def digitsValue (digits : List Char) : Nat :=
  digits.foldl (fun n c => 10 * n + (c.toNat - '0'.toNat)) 0

/-! ## From decimal to binary -/

/-- The binary number nearest to `± digits * 10 ^ exponent`. -/
def nearest (negative : Bool) (digits : Nat) (exponent : Int) : Float :=
  let x := Float.ofScientific digits (exponent < 0) exponent.natAbs
  if negative then -x else x

/-- The value that is not a number. -/
def undefinedFloat : Float :=
  0.0 / 0.0

/-- An infinity. -/
def infiniteFloat (negative : Bool) : Float :=
  if negative then -1.0 / 0.0 else 1.0 / 0.0

/-! ## Spelled numbers -/

/-- The sign in front of a text: whether it is negative, and what follows it. -/
def takeSign : List Char → Bool × List Char
  | '-' :: cs => (true, cs)
  | '+' :: cs => (false, cs)
  | cs => (false, cs)

/-- The power of ten after an `e`, where the text ends in one. -/
def exponentPart? : List Char → Option Int
  | [] => some 0
  | c :: cs =>
    if c == 'e' || c == 'E' then
      let (negative, rest) := takeSign cs
      let (digits, rest) := takeDigits rest
      if digits.isEmpty || !rest.isEmpty then none
      else if negative then some (-(digitsValue digits : Int))
      else some (digitsValue digits)
    else none

/-- The value of an unsigned number: digits with or without a point among or around them, at
least one, and a power of ten or none. -/
def unsigned? (negative : Bool) (cs : List Char) : Option Float :=
  let (whole, rest) := takeDigits cs
  let (fraction, rest) :=
    match rest with
    | '.' :: rest => takeDigits rest
    | _ => ([], rest)
  if whole.isEmpty && fraction.isEmpty then none
  else
    (exponentPart? rest).map fun e =>
      nearest negative (digitsValue (whole ++ fraction)) (e - fraction.length)

/-- The number that a text spells: a sign or none, then `inf`, `infinity` or `nan` in any case,
or a decimal number. -/
def literal? (cs : List Char) : Option Float :=
  let (negative, rest) := takeSign cs
  let name := String.ofList (rest.map Char.toLower)
  if name == "inf" || name == "infinity" then some (infiniteFloat negative)
  else if name == "nan" then some undefinedFloat
  else unsigned? negative rest

end ReplicaPolicy.Decimal
