import ReplicaPolicy.Json.Value
import ReplicaPolicy.Toml.Value

set_option relaxedAutoImplicit false
set_option autoImplicit false

/-!
# Nodes of definitions

A definition can be written in TOML or given as a JSON document. Both are turned into one kind of
tree, from which definitions are read. Of fields of one name in an object the last one counts.

## Main definitions

* `ReplicaPolicy.Node` — a node of a definition.
* `ReplicaPolicy.Node.ofToml`, `Node.ofJson?` — the nodes of documents.
* `ReplicaPolicy.Node.asText?`, `asFloat?`, `asNatural?`, `asList?` — views of a node.
* `ReplicaPolicy.Node.record?` — the fields of a record, written as a table or as a list.
-/

namespace ReplicaPolicy

/-- A node of a definition. -/
inductive Node where
  /-- Nothing. -/
  | null
  /-- A truth value. -/
  | bool (value : Bool)
  /-- A whole number. -/
  | integer (value : Int)
  /-- Any other number. -/
  | float (value : Float)
  /-- A text. -/
  | text (value : String)
  /-- A list. -/
  | list (items : List Node)
  /-- A table. -/
  | table (fields : List (String × Node))

namespace Node

/-! ## From documents -/

/-- The name of the only field of a moment. -/
def momentField : String := "moment"

mutual

/-- The node of a value. A moment is a table with a field that nothing asks for. -/
def ofToml : Toml → Node
  | .text t => .text t
  | .integer n => .integer n
  | .float x => .float x
  | .bool b => .bool b
  | .moment t => .table [(momentField, .text t)]
  | .list items => .list (ofTomlItems items)
  | .table entries => .table (ofTomlEntries entries)

/-- The nodes of the items of a list. -/
def ofTomlItems : List Toml → List Node
  | [] => []
  | item :: items => ofToml item :: ofTomlItems items

/-- The fields of a table. -/
def ofTomlEntries : List (String × Toml) → List (String × Node)
  | [] => []
  | (name, value) :: entries => (name, ofToml value) :: ofTomlEntries entries

end

/-- The node of a number. A whole number that fits into 64 bits, signed or not, is one; a negative
zero is not. -/
def ofNumeral? (n : Numeral) : Option Node :=
  let size := Decimal.digitsValue n.whole
  if n.isWhole && !n.negative && size < Nat.pow 2 64 then some (.integer size)
  else if n.isWhole && n.negative && 0 < size && size ≤ Nat.pow 2 63 then some (.integer (-size))
  else n.toFloat?.map .float

/-- The fields without those that have a later one of the same name. -/
def lastFields (fields : List (String × Node)) : List (String × Node) :=
  fields.foldr (fun field later => if (later.lookup field.1).isSome then later else field :: later)
    []

mutual

/-- The node of a document, unless it holds a number that is too large or a text that is no
sequence of characters. -/
def ofJson? : Json → Option Node
  | .null => some .null
  | .bool b => some (.bool b)
  | .number n => ofNumeral? n
  | .text t => t.map .text
  | .list items => (ofJsonItems? items).map .list
  | .object fields => (ofJsonFields? fields).map fun fields => .table (lastFields fields)

/-- The nodes of the items of a list. -/
def ofJsonItems? : List Json → Option (List Node)
  | [] => some []
  | item :: items => do
    let item ← ofJson? item
    let items ← ofJsonItems? items
    some (item :: items)

/-- The fields of an object. -/
def ofJsonFields? : List (Option String × Json) → Option (List (String × Node))
  | [] => some []
  | (name, value) :: fields => do
    let name ← name
    let value ← ofJson? value
    let fields ← ofJsonFields? fields
    some ((name, value) :: fields)

end

/-! ## Views -/

/-- A text. -/
def asText? : Node → Option String
  | .text value => some value
  | _ => none

/-- A truth value. -/
def asBool? : Node → Option Bool
  | .bool value => some value
  | _ => none

/-- A number as a binary number. -/
def asFloat? : Node → Option Float
  | .float value => some value
  | .integer value => some (Float.ofInt value)
  | _ => none

/-- A natural number below the bound. -/
def asNatural? (bound : Nat) : Node → Option Nat
  | .integer value => if 0 ≤ value ∧ value < bound then some value.toNat else none
  | _ => none

/-- A list, each item read by `read`. -/
def asList? {α : Type} (read : Node → Option α) : Node → Option (List α)
  | .list items => items.mapM read
  | _ => none

/-- A node that may be nothing. -/
def asOptional? {α : Type} (read : Node → Option α) : Node → Option (Option α)
  | .null => some none
  | node => (read node).map some

/-- A node that holds nothing: no value, or a table without fields. -/
def isEmptyTable : Node → Bool
  | .null | .table [] => true
  | _ => false

/-- One of some words: the word itself, or a table that gives it a node without content. -/
def asWord? (isBare : Node → Bool) : Node → Option String
  | .text word => some word
  | .table [(word, node)] => if isBare node then some word else none
  | _ => none

/-! ## Records -/

/-- What is written for some fields of a record. -/
abbrev Record := List (String × Node)

/-- The record with the named fields. Fields of a table with other names are passed over; a list
gives the first fields in order, and no more than there are names. -/
def record? (names : List String) : Node → Option Record
  | .table fields => some (fields.filter fun field => names.contains field.1)
  | .list items => if items.length ≤ names.length then some (names.zip items) else none
  | _ => none

namespace Record

/-- A field that must be written. -/
def required? {α : Type} (r : Record) (name : String) (read : Node → Option α) : Option α := do
  read (← r.lookup name)

/-- A field with a value of its own when it is not written. -/
def optional? {α : Type} (r : Record) (name : String) (default : α) (read : Node → Option α) :
    Option α :=
  match r.lookup name with
  | none => some default
  | some node => read node

end Record

end Node

end ReplicaPolicy
