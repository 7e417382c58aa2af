import ReplicaPolicy.Json.Value

set_option relaxedAutoImplicit false
set_option autoImplicit false

/-!
# Reading documents

The text of a document is read from its start. Each reader gives what it read with the rest of
the text. A value within a list or an object is read after a bracket, a brace or a comma, so the
length of the text bounds the number of readers that are under way at once.

## Main definitions

* `ReplicaPolicy.Json.read?` — the document that a text writes.
-/

namespace ReplicaPolicy.Json

open Decimal (takeDigits takeSign digitsValue)

/-- The blanks between the parts of a document. -/
def isGap (c : Char) : Bool :=
  c == ' ' || c == '\n' || c == '\t' || c == '\r'

/-- The text after the blanks it starts with. -/
def skipGap (cs : List Char) : List Char :=
  cs.dropWhile isGap

/-! ## Texts -/

/-- A part of a text as written: a character, or half of a surrogate pair given by an escape. -/
inductive Part where
  /-- A character. -/
  | char (c : Char)
  /-- A high surrogate. -/
  | high (unit : Nat)
  /-- A low surrogate. -/
  | low (unit : Nat)

/-- The part that an escape by number gives. -/
def Part.ofUnit (unit : Nat) : Part :=
  if 0xD800 ≤ unit && unit < 0xDC00 then .high unit
  else if 0xDC00 ≤ unit && unit < 0xE000 then .low unit
  else .char (Char.ofNat unit)

/-- The characters of a text, surrogate pairs joined, if no half is alone. -/
def joinParts? : List Part → Option (List Char)
  | [] => some []
  | .char c :: parts => (joinParts? parts).map (c :: ·)
  | .high h :: .low l :: parts =>
    (joinParts? parts).map (Char.ofNat (0x10000 + (h - 0xD800) * 0x400 + (l - 0xDC00)) :: ·)
  | _ => none

/-- The value of a hexadecimal digit. -/
def hexValue? (c : Char) : Option Nat :=
  if c.isDigit then some (c.toNat - '0'.toNat)
  else if 'a' ≤ c ∧ c ≤ 'f' then some (c.toNat - 'a'.toNat + 10)
  else if 'A' ≤ c ∧ c ≤ 'F' then some (c.toNat - 'A'.toNat + 10)
  else none

/-- The number that hexadecimal digits spell. -/
def hexNumber? (cs : List Char) : Option Nat := do
  let digits ← cs.mapM hexValue?
  some (digits.foldl (fun n d => 16 * n + d) 0)

/-- The character that a one-letter escape stands for. -/
def escaped? : Char → Option Char
  | '"' => some '"'
  | '\\' => some '\\'
  | '/' => some '/'
  | 'b' => some '\x08'
  | 'f' => some '\x0c'
  | 'n' => some '\n'
  | 'r' => some '\r'
  | 't' => some '\t'
  | _ => none

/-- The parts of a text up to its closing quote, in reverse order after those before. -/
def parts? (before : List Part) : List Char → Option (List Part × List Char)
  | [] => none
  | '"' :: cs => some (before, cs)
  | '\\' :: 'u' :: a :: b :: c :: d :: cs => do
    let unit ← hexNumber? [a, b, c, d]
    parts? (Part.ofUnit unit :: before) cs
  | '\\' :: c :: cs => do
    let c ← escaped? c
    parts? (.char c :: before) cs
  | c :: cs => if c.toNat < 0x20 then none else parts? (.char c :: before) cs

/-- A text after its opening quote. -/
def text? (cs : List Char) : Option (Option String × List Char) :=
  (parts? [] cs).map fun (parts, rest) => ((joinParts? parts.reverse).map String.ofList, rest)

/-! ## Numbers -/

/-- The power of ten of a number, where one is written. -/
def exponent? : List Char → Option (Option Int × List Char)
  | [] => some (none, [])
  | c :: cs =>
    if c == 'e' || c == 'E' then
      let (negative, rest) := takeSign cs
      let (digits, rest) := takeDigits rest
      if digits.isEmpty then none
      else
        let n : Int := digitsValue digits
        some (some (if negative then -n else n), rest)
    else some (none, c :: cs)

/-- A number: a sign or none, digits that start with zero only if they are zero, a point and
digits or none, and a power of ten or none. -/
def numeral? (cs : List Char) : Option (Numeral × List Char) :=
  let (negative, cs) :=
    match cs with
    | '-' :: cs => (true, cs)
    | _ => (false, cs)
  let (whole, cs) := takeDigits cs
  if whole.isEmpty || (whole.head? == some '0' && whole.length != 1) then none
  else
    match cs with
    | '.' :: cs =>
      let (fraction, cs) := takeDigits cs
      if fraction.isEmpty then none
      else (exponent? cs).map fun (e, cs) => (⟨negative, whole, fraction, e⟩, cs)
    | _ => (exponent? cs).map fun (e, cs) => (⟨negative, whole, [], e⟩, cs)

/-! ## Values -/

/-- The rest of a text after the given characters. -/
def skipWord? (word : List Char) (cs : List Char) : Option (List Char) :=
  if word.isPrefixOf cs then some (cs.drop word.length) else none

mutual

/-- A value at the start of a text, read by at most `depth` readers one within another. -/
def value? (depth : Nat) (cs : List Char) : Option (Json × List Char) :=
  match depth with
  | 0 => none
  | depth + 1 =>
    match cs with
    | '"' :: cs => (text? cs).map fun (t, cs) => (.text t, cs)
    | '[' :: cs =>
      match skipGap cs with
      | ']' :: cs => some (.list [], cs)
      | cs => (items? depth [] cs).map fun (items, cs) => (.list items, cs)
    | '{' :: cs =>
      match skipGap cs with
      | '}' :: cs => some (.object [], cs)
      | cs => (fields? depth [] cs).map fun (fields, cs) => (.object fields, cs)
    | 't' :: cs => (skipWord? ['r', 'u', 'e'] cs).map fun cs => (.bool true, cs)
    | 'f' :: cs => (skipWord? ['a', 'l', 's', 'e'] cs).map fun cs => (.bool false, cs)
    | 'n' :: cs => (skipWord? ['u', 'l', 'l'] cs).map fun cs => (.null, cs)
    | cs => (numeral? cs).map fun (n, cs) => (.number n, cs)

/-- The items of a list up to its closing bracket, after those in `before`. -/
def items? (depth : Nat) (before : List Json) (cs : List Char) :
    Option (List Json × List Char) :=
  match depth with
  | 0 => none
  | depth + 1 => do
    let (item, cs) ← value? depth (skipGap cs)
    match skipGap cs with
    | ',' :: cs => items? depth (item :: before) cs
    | ']' :: cs => some ((item :: before).reverse, cs)
    | _ => none

/-- The fields of an object up to its closing brace, after those in `before`. -/
def fields? (depth : Nat) (before : List (Option String × Json)) (cs : List Char) :
    Option (List (Option String × Json) × List Char) :=
  match depth with
  | 0 => none
  | depth + 1 =>
    match skipGap cs with
    | '"' :: cs => do
      let (name, cs) ← text? cs
      match skipGap cs with
      | ':' :: cs =>
        let (value, cs) ← value? depth (skipGap cs)
        match skipGap cs with
        | ',' :: cs => fields? depth ((name, value) :: before) cs
        | '}' :: cs => some (((name, value) :: before).reverse, cs)
        | _ => none
      | _ => none
    | _ => none

end

/-- The document that a text writes, blanks around it. -/
def read? (text : String) : Option Json := do
  let cs := text.toList
  let (value, rest) ← value? (2 * cs.length + 2) (skipGap cs)
  if (skipGap rest).isEmpty then some value else none

end ReplicaPolicy.Json
