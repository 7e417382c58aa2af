import ReplicaPolicy.Calendar.Reader
import ReplicaPolicy.Decimal.Literal
import ReplicaPolicy.Toml.Text

set_option relaxedAutoImplicit false
set_option autoImplicit false

/-!
# Numbers and moments of TOML

Whole numbers are decimal, with a sign or none, or hexadecimal, octal or binary after a mark; they
must fit into 64 bits with their sign. Numbers with a point or a power of ten have digits on both
sides of the point. A single underscore may stand between two digits. A moment is a date, a time
of the day, or both with an offset or without.

Each reader gives what it read with the rest of the text.

## Main definitions

* `ReplicaPolicy.Toml.integer?` — whole numbers.
* `ReplicaPolicy.Toml.float?` — numbers with a point or a power of ten, infinities, and `nan`.
* `ReplicaPolicy.Toml.moment?` — moments.
-/

namespace ReplicaPolicy.Toml

open Decimal (digitsValue literal?)
open TimeText (number? skip?)

/-! ## Digits -/

/-- The digits at the start of a text without the underscores between them, and the rest. An
underscore must follow one digit, which `before` tells, and stand before another. -/
def takeGroupedFrom (isDigit : Char → Bool) (before : Bool) :
    List Char → List Char × List Char
  | [] => ([], [])
  | c :: cs =>
    if isDigit c then
      let (digits, rest) := takeGroupedFrom isDigit true cs
      (c :: digits, rest)
    else if before && c == '_' && cs.head?.any isDigit then takeGroupedFrom isDigit false cs
    else ([], c :: cs)

/-- The digits at the start of a text without the underscores between them, and the rest. -/
def takeGrouped (isDigit : Char → Bool) (cs : List Char) : List Char × List Char :=
  takeGroupedFrom isDigit false cs

/-- A sign at the start of a text, and the rest. -/
def takeSignChar : List Char → List Char × List Char
  | '+' :: cs => (['+'], cs)
  | '-' :: cs => (['-'], cs)
  | cs => ([], cs)

/-- The sign and the digits of a decimal number, and the rest; digits that start with zero are
just that zero. -/
def decimal? (cs : List Char) : Option (List Char × List Char) :=
  let (sign, cs) := takeSignChar cs
  match cs with
  | '0' :: cs => some (sign ++ ['0'], cs)
  | _ =>
    let (digits, rest) := takeGrouped Char.isDigit cs
    if digits.isEmpty then none else some (sign ++ digits, rest)

/-! ## Whole numbers -/

/-- Whole numbers lie between this bound and its opposite, which is one of them. -/
def integerBound : Int := Nat.pow 2 63

/-- The number, if it lies within the bounds. -/
def bounded? (n : Int) : Option Int :=
  if -integerBound ≤ n ∧ n < integerBound then some n else none

/-- A number in the notation of a base, read after its mark. -/
def based? (base : Nat) (cs : List Char) : Option (Int × List Char) := do
  let isDigit (c : Char) : Bool := (hexValue? c).any fun d => d < base
  let (digits, rest) := takeGrouped isDigit cs
  if digits.isEmpty then none
  else
    let n := digits.foldl (fun n c => base * n + (hexValue? c).getD 0) 0
    let n ← bounded? n
    some (n, rest)

/-- The number that a sign and digits spell. -/
def signedValue (cs : List Char) : Int :=
  let (sign, digits) := takeSignChar cs
  if sign = ['-'] then -(digitsValue digits : Int) else digitsValue digits

/-- A whole number. -/
def integer? : List Char → Option (Int × List Char)
  | '0' :: 'x' :: cs => based? 16 cs
  | '0' :: 'o' :: cs => based? 8 cs
  | '0' :: 'b' :: cs => based? 2 cs
  | cs => do
    let (spelled, rest) ← decimal? cs
    let n ← bounded? (signedValue spelled)
    some (n, rest)

/-! ## Numbers with a point or a power of ten -/

/-- Digits after a point, where one stands: the point with the digits, and the rest. -/
def fractionPart? : List Char → Option (List Char × List Char)
  | '.' :: cs =>
    let (digits, rest) := takeGrouped Char.isDigit cs
    if digits.isEmpty then none else some ('.' :: digits, rest)
  | cs => some ([], cs)

/-- A power of ten, where one is written: the letter with sign and digits, and the rest. -/
def powerPart? : List Char → Option (List Char × List Char)
  | [] => some ([], [])
  | c :: cs =>
    if c == 'e' || c == 'E' then
      let (sign, cs) := takeSignChar cs
      let (digits, rest) := takeGrouped Char.isDigit cs
      if digits.isEmpty then none else some ('e' :: sign ++ digits, rest)
    else some ([], c :: cs)

/-- A number with a point or a power of ten, not larger than every binary number. -/
def pointed? (cs : List Char) : Option (Float × List Char) := do
  let (whole, cs) ← decimal? cs
  let (fraction, cs) ← fractionPart? cs
  let (power, cs) ← powerPart? cs
  if fraction.isEmpty && power.isEmpty then none
  else
    let x ← literal? (whole ++ fraction ++ power)
    if x == Decimal.infiniteFloat false then none else some (x, cs)

/-- An infinity, or what is no number. -/
def named? (cs : List Char) : Option (Float × List Char) :=
  let (sign, cs) := takeSignChar cs
  match cs with
  | 'i' :: 'n' :: 'f' :: rest => some (Decimal.infiniteFloat (sign = ['-']), rest)
  | 'n' :: 'a' :: 'n' :: rest => some (Decimal.undefinedFloat, rest)
  | _ => none

/-- A number that is not written as a whole number. -/
def float? (cs : List Char) : Option (Float × List Char) :=
  pointed? cs <|> named? cs

/-! ## Moments -/

/-- A date: the rest after it. -/
def date? (cs : List Char) : Option (List Char) := do
  let (year, cs) ← number? 4 4 cs
  let cs ← skip? '-' cs
  let (month, cs) ← number? 2 2 cs
  let cs ← skip? '-' cs
  let (day, cs) ← number? 2 2 cs
  let _ ← Date.ofCivil? year month day
  some cs

/-- Digits after a point, where they follow: the rest after them. -/
def secondFraction (cs : List Char) : List Char :=
  match cs with
  | '.' :: rest => if rest.head?.any Char.isDigit then rest.dropWhile Char.isDigit else cs
  | _ => cs

/-- Hours and minutes: the rest after them. -/
def hourMinute? (cs : List Char) : Option (List Char) := do
  let (hour, cs) ← number? 2 2 cs
  let cs ← skip? ':' cs
  let (minute, cs) ← number? 2 2 cs
  if hour < 24 ∧ minute < 60 then some cs else none

/-- A time of the day: the rest after it. -/
def timeOfDay? (cs : List Char) : Option (List Char) := do
  let cs ← hourMinute? cs
  let cs ← skip? ':' cs
  let (second, cs) ← number? 2 2 cs
  if second ≤ 60 then some (secondFraction cs) else none

/-- An offset, where one follows: the rest after it. -/
def offset? (cs : List Char) : Option (List Char) :=
  match cs with
  | [] => some cs
  | c :: rest =>
    if c == 'Z' || c == 'z' then some rest
    else if c == '+' || c == '-' then hourMinute? rest
    else some cs

/-- What may follow a date within a moment: the letter or the blank and the time. -/
def timeAfterDate? : List Char → Option (List Char)
  | c :: cs => if c == 'T' || c == 't' || c == ' ' then timeOfDay? cs else none
  | [] => none

/-- A moment as written. -/
def moment? (cs : List Char) : Option (List Char × List Char) := do
  let rest ←
    match date? cs with
    | none => timeOfDay? cs
    | some rest =>
      match timeAfterDate? rest with
      | none => some rest
      | some rest => offset? rest
  some (cs.take (cs.length - rest.length), rest)

end ReplicaPolicy.Toml
