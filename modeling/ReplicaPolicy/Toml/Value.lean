set_option relaxedAutoImplicit false
set_option autoImplicit false

/-!
# Values of TOML

## Main definitions

* `ReplicaPolicy.Toml` — a value.
* `ReplicaPolicy.Toml.Item`, `Toml.Entries` — a table while it is put together.
* `ReplicaPolicy.Toml.ofEntries` — the table that is put together.
-/

namespace ReplicaPolicy

/-- A value. -/
inductive Toml where
  /-- A text. -/
  | text (value : String)
  /-- A whole number. -/
  | integer (value : Int)
  /-- Any other number. -/
  | float (value : Float)
  /-- A truth value. -/
  | bool (value : Bool)
  /-- A moment as written. -/
  | moment (text : String)
  /-- A list. -/
  | list (items : List Toml)
  /-- A table. -/
  | table (entries : List (String × Toml))

namespace Toml

/-! ## Tables under construction -/

/-- How a table came about. -/
inductive Origin where
  /-- By a header of its own. -/
  | header
  /-- By the header of a table within it. -/
  | nestedHeader
  /-- By a key with points. -/
  | dottedKey
  deriving DecidableEq, Repr

/-- What a name stands for in a table under construction. -/
inductive Item where
  /-- A value, complete as it is written. -/
  | value (v : Toml)
  /-- A table, to which more may be added. -/
  | table (origin : Origin) (entries : List (String × Item))
  /-- Tables in order, to the last of which more may be added. -/
  | tables (elements : List (List (String × Item)))

/-- The names in a table under construction with what they stand for. -/
abbrev Entries := List (String × Item)

/-- The entries with the first one of a name changed. -/
def set (name : String) (item : Item) : Entries → Entries
  | [] => [(name, item)]
  | (other, old) :: entries =>
    if name == other then (name, item) :: entries else (other, old) :: set name item entries

/-! ## Completing tables -/

mutual

/-- The value of an item. -/
def ofItem : Item → Toml
  | .value v => v
  | .table _ entries => .table (ofEntries entries)
  | .tables elements => .list (ofElements elements)

/-- The completed entries of a table. -/
def ofEntries : List (String × Item) → List (String × Toml)
  | [] => []
  | (name, item) :: entries => (name, ofItem item) :: ofEntries entries

/-- The completed tables of a list. -/
def ofElements : List (List (String × Item)) → List Toml
  | [] => []
  | entries :: elements => .table (ofEntries entries) :: ofElements elements

end

end Toml

end ReplicaPolicy
