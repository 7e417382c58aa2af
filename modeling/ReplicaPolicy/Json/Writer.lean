import ReplicaPolicy.Json.Value
import ReplicaPolicy.Decimal.Fixed

set_option relaxedAutoImplicit false
set_option autoImplicit false

/-!
# Writing documents

A document is written on one line without blanks. In a text the quote, the backslash and the
controls are escaped, so that no written document holds a line break. A document with a text that is
no sequence of characters cannot be written.

## Main definitions

* `ReplicaPolicy.Json.write` — the text of a document.
* `ReplicaPolicy.Json.write?` — the text of a document that can be written.

## Main results

* `ReplicaPolicy.Json.newline_notMem_escape` — no escaped character is a line break.
* `ReplicaPolicy.Json.isWritable_ofFields` — which records can be written.
-/

namespace ReplicaPolicy.Json

/-- The written form of a character within a text. -/
def escape (c : Char) : List Char :=
  if c == '"' then ['\\', '"']
  else if c == '\\' then ['\\', '\\']
  else if c == '\x08' then ['\\', 'b']
  else if c == '\x0c' then ['\\', 'f']
  else if c == '\n' then ['\\', 'n']
  else if c == '\r' then ['\\', 'r']
  else if c == '\t' then ['\\', 't']
  else if c.toNat < 0x10 then ['\\', 'u', '0', '0', '0', Nat.digitChar c.toNat]
  else if c.toNat < 0x20 then ['\\', 'u', '0', '0', '1', Nat.digitChar (c.toNat - 0x10)]
  else [c]

theorem newline_ne_digitChar (n : Nat) : '\n' ≠ Nat.digitChar n := by
  by_cases h : n < 16
  · revert n
    decide
  · have hs : Nat.digitChar n = '*' := by
      unfold Nat.digitChar
      repeat rw [if_neg (by omega)]
    rw [hs]
    decide

theorem newline_notMem_escape (c : Char) : '\n' ∉ escape c := by
  unfold escape
  repeat' split
  all_goals simp_all [newline_ne_digitChar]
  exact fun h => absurd h.symm ‹¬c = '\n'›

/-- The written form of a text. -/
def writeText (text : String) : List Char :=
  '"' :: text.toList.flatMap escape ++ ['"']

/-- The written form of a number. -/
def writeNumeral (n : Numeral) : List Char :=
  Decimal.signText n.negative ++ n.whole ++
    (if n.fraction.isEmpty then [] else '.' :: n.fraction) ++
    match n.exponent with
    | none => []
    | some e => 'e' :: (toString e).toList

mutual

/-- The characters of a document. -/
def chars : Json → List Char
  | .null => ['n', 'u', 'l', 'l']
  | .bool true => ['t', 'r', 'u', 'e']
  | .bool false => ['f', 'a', 'l', 's', 'e']
  | .number n => writeNumeral n
  | .text t => writeText (t.getD "")
  | .list items => '[' :: itemChars items ++ [']']
  | .object fields => '\x7b' :: fieldChars fields ++ ['\x7d']

/-- The characters of the items of a list, commas between them. -/
def itemChars : List Json → List Char
  | [] => []
  | [item] => chars item
  | item :: items => chars item ++ ',' :: itemChars items

/-- The characters of the fields of an object, commas between them. -/
def fieldChars : List (Option String × Json) → List Char
  | [] => []
  | [(name, value)] => writeText (name.getD "") ++ ':' :: chars value
  | (name, value) :: fields =>
    writeText (name.getD "") ++ ':' :: chars value ++ ',' :: fieldChars fields

end

/-- The text of a document. -/
def write (value : Json) : String :=
  String.ofList value.chars

/-! ## What can be written -/

mutual

/-- Whether the texts and the names in a document are sequences of characters. -/
def isWritable : Json → Bool
  | .null | .bool _ | .number _ => true
  | .text t => t.isSome
  | .list items => areItemsWritable items
  | .object fields => areFieldsWritable fields

/-- Whether those in the items of a list are. -/
def areItemsWritable : List Json → Bool
  | [] => true
  | item :: items => isWritable item && areItemsWritable items

/-- Whether those in the fields of an object are. -/
def areFieldsWritable : List (Option String × Json) → Bool
  | [] => true
  | (name, value) :: fields => name.isSome && isWritable value && areFieldsWritable fields

end

/-- The text of a document that can be written. -/
def write? (value : Json) : Option String :=
  if value.isWritable then some value.write else none

@[simp]
theorem isWritable_ofText (text : String) : (ofText text).isWritable = true := rfl

/-- A record can be written if the values of its fields can. -/
theorem isWritable_ofFields (fields : List (String × Json)) :
    (ofFields fields).isWritable = fields.all fun field => field.2.isWritable := by
  induction fields with
  | nil => rfl
  | cons field fields ih =>
    rw [List.all_cons, ← ih]
    rfl

end ReplicaPolicy.Json
