import ReplicaPolicy.Calendar.Instant
import ReplicaPolicy.Decimal.Literal
import ReplicaPolicy.Text.Blank

set_option relaxedAutoImplicit false
set_option autoImplicit false

/-!
# Reading dates and instants

Three forms of a time are read as people write them: a complete timestamp with an offset, a date
and a time of the day, and a date alone; the last two are in Universal Time. Timestamps of data
are read in a form of their own, which allows blanks and numbers without leading zeros but asks
for an offset.

## Main definitions

* `ReplicaPolicy.Instant.read?` — a time as people write it.
* `ReplicaPolicy.Instant.readStamp?` — a timestamp of data.
* `ReplicaPolicy.Date.read?` — a date of data.

## Main results

* `ReplicaPolicy.Instant.read?_of_readStrict?` — a complete timestamp is read as such.
-/

namespace ReplicaPolicy

namespace TimeText

open Decimal (digitsValue takeSign)

/-! ## Parts

Each part reads from the start of a text and gives what it read with the rest of the text. -/

/-- A number of at least `least` and at most `most` digits; further digits belong to the rest. -/
def number? (least most : Nat) (cs : List Char) : Option (Nat × List Char) :=
  let digits := (cs.takeWhile Char.isDigit).take most
  if digits.length < least then none else some (digitsValue digits, cs.drop digits.length)

/-- The rest of a text that starts with `c`. -/
def skip? (c : Char) : List Char → Option (List Char)
  | d :: cs => if d == c then some cs else none
  | [] => none

/-- A number of at most two digits, blanks before it. -/
def field? (cs : List Char) : Option (Nat × List Char) :=
  number? 1 2 (Text.trimLeft cs)

/-- A year, blanks before it: at most four digits, or a sign and any number of digits. -/
def year? (cs : List Char) : Option (Int × List Char) :=
  let cs := Text.trimLeft cs
  match cs with
  | '-' :: rest => (number? 1 rest.length rest).map fun (n, rest) => (-(n : Int), rest)
  | '+' :: rest => (number? 1 rest.length rest).map fun (n, rest) => ((n : Int), rest)
  | _ => (number? 1 4 cs).map fun (n, rest) => ((n : Int), rest)

/-- A date, its parts given by `gap` as what may stand before a hyphen. -/
def date? (gap : List Char → List Char) (cs : List Char) : Option (Date × List Char) := do
  let (year, cs) ← year? cs
  let cs ← skip? '-' (gap cs)
  let (month, cs) ← field? cs
  let cs ← skip? '-' (gap cs)
  let (day, cs) ← field? cs
  let date ← Date.ofCivil? year month day
  some (date, cs)

/-- Hour, minute and second, with `gap` for what may stand before a colon. -/
def clock? (gap : List Char → List Char) (cs : List Char) :
    Option (Instant.Clock × List Char) := do
  let (hour, cs) ← field? cs
  let cs ← skip? ':' (gap cs)
  let (minute, cs) ← field? cs
  let cs ← skip? ':' (gap cs)
  let (second, cs) ← field? cs
  some (⟨hour, minute, second, 0⟩, cs)

/-- The nanoseconds after a point, where one follows. Digits after the ninth are passed over. -/
def fraction? : List Char → Option (Nat × List Char)
  | '.' :: cs =>
    (number? 1 9 cs).map fun (n, rest) =>
      (n * Nat.pow 10 (9 - (cs.length - rest.length)), rest.dropWhile Char.isDigit)
  | cs => some (0, cs)

/-- An offset from Universal Time in seconds: the letter `Z`, or a sign, two digits of hours, what
`separator` passes over, and two digits of minutes. -/
def offset? (separator : List Char → Option (List Char)) : List Char → Option (Int × List Char)
  | [] => none
  | c :: cs =>
    if c == 'Z' || c == 'z' then some (0, cs)
    else if c == '+' || c == '-' || c == '\u2212' then do
      let (hours, cs) ← number? 2 2 cs
      let cs ← separator cs
      let (minutes, cs) ← number? 2 2 cs
      if 60 ≤ minutes then none
      else
        let seconds : Int := 3600 * hours + 60 * minutes
        some (if c == '+' then seconds else -seconds, cs)
    else none

/-- What follows the letter or the space between date and time. -/
def betweenDateAndTime? : List Char → Option (List Char)
  | c :: cs => if c == 'T' || c == 't' || c == ' ' then some cs else none
  | [] => none

/-- Whether an offset is less than a day either way. -/
def isOffset (seconds : Int) : Bool :=
  -Instant.secondsPerDay < seconds && seconds < Instant.secondsPerDay

end TimeText

open TimeText

namespace Date

/-- A date of data: `year-month-day`, blanks before each part and at the end. -/
def read? (text : String) : Option Date := do
  let (date, rest) ← date? Text.trimLeft text.toList
  if (Text.trimLeft rest).isEmpty then some date else none

end Date

namespace Instant

/-- A complete timestamp: four digits of the year and two of each other part, a fraction or none,
and an offset. -/
def readStrict? (text : String) : Option Instant := do
  let (year, cs) ← number? 4 4 text.toList
  let cs ← skip? '-' cs
  let (month, cs) ← number? 2 2 cs
  let cs ← skip? '-' cs
  let (day, cs) ← number? 2 2 cs
  let cs ← betweenDateAndTime? cs
  let (hour, cs) ← number? 2 2 cs
  let cs ← skip? ':' cs
  let (minute, cs) ← number? 2 2 cs
  let cs ← skip? ':' cs
  let (second, cs) ← number? 2 2 cs
  let (nanos, cs) ← fraction? cs
  let (offset, cs) ← offset? (skip? ':') cs
  let date ← Date.ofCivil? year month day
  if cs.isEmpty && isOffset offset then ofCivil? date ⟨hour, minute, second, nanos⟩ offset
  else none

/-- A date and a time of the day. Any blanks may stand between them, and before each number. -/
def readDateTime? (text : String) : Option Instant := do
  let (date, cs) ← date? id text.toList
  let (clock, cs) ← clock? id cs
  if cs.isEmpty then ofCivil? date clock 0 else none

/-- A date, for the instant at which it starts. -/
def readDate? (text : String) : Option Instant := do
  let (date, cs) ← date? id text.toList
  if cs.isEmpty then some (ofDate date) else none

/-- A time as people write it: a complete timestamp, a date and a time of the day, or a date. -/
def read? (text : String) : Option Instant :=
  readStrict? text <|> readDateTime? text <|> readDate? text

theorem read?_of_readStrict? {text : String} {t : Instant} (h : readStrict? text = some t) :
    read? text = some t := by
  simp [read?, h]

/-- A timestamp of data: a date and a time of the day with blanks before each part, a fraction or
none, and an offset or the letters `UTC`. -/
def readStamp? (text : String) : Option Instant := do
  let (date, cs) ← date? Text.trimLeft text.toList
  let cs ← betweenDateAndTime? cs
  let (clock, cs) ← clock? Text.trimLeft cs
  let (nanos, cs) ← fraction? cs
  let cs := Text.trimLeft cs
  let isUniversal := (cs.take 3).map Char.toUpper == ['U', 'T', 'C']
  let (offset, cs) ←
    if isUniversal then some (0, cs.drop 3)
    else offset? (fun cs => some (cs.dropWhile fun c => c == ':' || Text.isBlank c)) cs
  if (Text.trimLeft cs).isEmpty && isOffset offset then
    ofCivil? date { clock with nanos } offset
  else none

end Instant

end ReplicaPolicy
