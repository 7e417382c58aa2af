import ReplicaPolicy.Json.Numeral

set_option relaxedAutoImplicit false
set_option autoImplicit false

/-!
# Documents

A document is a tree of values. Its objects keep their fields in the order and as often as they
are written. A text may hold an escape for one half of a surrogate pair without the other half;
it is then no sequence of characters, which matters only to who reads the text.

## Main definitions

* `ReplicaPolicy.Json` — a document.
* `ReplicaPolicy.Json.asText?`, `asBool?`, `asFloat?`, `asNatural?`, `asList?` — views of a value.
* `ReplicaPolicy.Json.record?` — the fields of a record, written as an object or as a list.
-/

namespace ReplicaPolicy

/-- A document. A text that is no sequence of characters is `none`. -/
inductive Json where
  /-- The null value. -/
  | null
  /-- A truth value. -/
  | bool (value : Bool)
  /-- A number as written. -/
  | number (value : Numeral)
  /-- A text. -/
  | text (value : Option String)
  /-- A list. -/
  | list (items : List Json)
  /-- An object. -/
  | object (fields : List (Option String × Json))

namespace Json

/-- The value of a text. -/
def ofText (value : String) : Json := .text (some value)

/-- The value of a natural number. -/
def ofNat (n : Nat) : Json := .number (.ofNat n)

/-- The object with the given fields. -/
def ofFields (fields : List (String × Json)) : Json :=
  .object (fields.map fun (name, value) => (some name, value))

/-! ## Views -/

/-- The characters of a text. -/
def asText? : Json → Option String
  | .text value => value
  | _ => none

/-- A truth value. -/
def asBool? : Json → Option Bool
  | .bool value => some value
  | _ => none

/-- A number as a binary number. -/
def asFloat? : Json → Option Float
  | .number value => value.toFloat?
  | _ => none

/-- A natural number below the bound. -/
def asNatural? (bound : Nat) : Json → Option Nat
  | .number value => value.natural? bound
  | _ => none

/-- A list, each item read by `read`. -/
def asList? {α : Type} (read : Json → Option α) : Json → Option (List α)
  | .list items => items.mapM read
  | _ => none

/-- A value that may be null. -/
def asOptional? {α : Type} (read : Json → Option α) : Json → Option (Option α)
  | .null => some none
  | value => (read value).map some

/-- One of some words: the word itself, or an object that gives it a null. -/
def asWord? : Json → Option String
  | .text value => value
  | .object [(name, .null)] => name
  | _ => none

/-- The fields of an object, each name read as a text and each value by `read`. -/
def asFields? {α : Type} (read : String → Json → Option α) : Json → Option (List α)
  | .object fields =>
    fields.mapM fun (name, value) => do
      let name ← name
      read name value
  | _ => none

/-! ## Records -/

/-- A record: what is written for some of its fields. -/
abbrev Record := List (String × Json)

/-- The record with the named fields. An object gives each named field at most once, and fields
of other names are passed over; a list gives the first fields in order. -/
def record? (names : List String) : Json → Option Record
  | .object fields => do
    let fields ← fields.mapM fun (name, value) => name.map fun name => (name, value)
    let known := fields.filter fun (name, _) => names.contains name
    if (known.map Prod.fst).Nodup then some known else none
  | .list items => if items.length ≤ names.length then some (names.zip items) else none
  | _ => none

namespace Record

/-- A field that must be written. -/
def required? {α : Type} (r : Record) (name : String) (read : Json → Option α) : Option α := do
  read (← r.lookup name)

/-- A field with a value of its own when it is not written. -/
def optional? {α : Type} (r : Record) (name : String) (default : α) (read : Json → Option α) :
    Option α :=
  match r.lookup name with
  | none => some default
  | some value => read value

end Record

end Json

end ReplicaPolicy
