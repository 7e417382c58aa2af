import ReplicaPolicy.Toml.Value

set_option relaxedAutoImplicit false
set_option autoImplicit false

/-!
# Putting tables together

A document is a sequence of headers and of keys with values. A header opens a table, or the next
one of a list of tables; keys add to the table opened last. A name that is given twice in a table
is refused, and so is adding to a table that was completed in another way.

## Main definitions

* `ReplicaPolicy.Toml.descend` — changes the table to which the names of a header lead.
* `ReplicaPolicy.Toml.assign` — adds a value under a key with points.
* `ReplicaPolicy.Toml.openTable`, `openElement` — what headers do.
* `ReplicaPolicy.Toml.Statement`, `Toml.assemble` — documents.
-/

namespace ReplicaPolicy.Toml

/-- Changes the table to which names lead. Tables on the way that are not there yet come about;
of a list of tables the last one is followed, and values are never entered. -/
def descend (change : Entries → Option Entries) : List String → Entries → Option Entries
  | [], entries => change entries
  | name :: path, entries =>
    match entries.lookup name with
    | none =>
      (descend change path []).map fun sub => entries ++ [(name, .table .nestedHeader sub)]
    | some (.value _) => none
    | some (.table origin sub) =>
      (descend change path sub).map fun sub => set name (.table origin sub) entries
    | some (.tables elements) =>
      elements.getLast?.bind fun last =>
        (descend change path last).map fun last =>
          set name (.tables (elements.dropLast ++ [last])) entries

/-- Adds a value under a name after the names of a key with points before it. Tables on the way
come about by such keys only; a table with a header of its own is not entered. The table that the
value is added to must be the one at hand, or have come about by such keys: `takesKey` tells
whether it is. -/
def assign (name : String) (v : Toml) : Bool → List String → Entries → Option Entries
  | takesKey, [], entries =>
    if takesKey && (entries.lookup name).isNone then some (entries ++ [(name, .value v)]) else none
  | _, part :: path, entries =>
    match entries.lookup part with
    | none => (assign name v true path []).map fun sub => entries ++ [(part, .table .dottedKey sub)]
    | some (.value _) | some (.table .header _) => none
    | some (.table origin sub) =>
      (assign name v (origin = .dottedKey) path sub).map fun sub =>
        set part (.table origin sub) entries
    | some (.tables elements) =>
      elements.getLast?.bind fun last =>
        (assign name v false path last).map fun last =>
          set part (.tables (elements.dropLast ++ [last])) entries

/-- Opens the table of a name: a new one, or one that so far only came about by the headers of
tables within it. -/
def openTable (name : String) (entries : Entries) : Option Entries :=
  match entries.lookup name with
  | none => some (entries ++ [(name, .table .header [])])
  | some (.table .nestedHeader sub) => some (set name (.table .header sub) entries)
  | some _ => none

/-- Opens the next table of a list. -/
def openElement (name : String) (entries : Entries) : Option Entries :=
  match entries.lookup name with
  | none => some (entries ++ [(name, .tables [[]])])
  | some (.tables elements) => some (set name (.tables (elements ++ [[]])) entries)
  | some _ => none

/-! ## Documents -/

/-- A key: the names with points between them, the last one apart. -/
structure Key where
  /-- The names before the last one. -/
  path : List String
  /-- The last name. -/
  name : String
  deriving DecidableEq, Repr

/-- All names of a key. -/
def Key.names (k : Key) : List String :=
  k.path ++ [k.name]

/-- A part of a document. -/
inductive Statement where
  /-- The header of a table. -/
  | table (key : Key)
  /-- The header of the next table of a list. -/
  | element (key : Key)
  /-- A key with a value. -/
  | assignment (key : Key) (value : Toml)

/-- The table of some keys with values, in the order in which they are written. -/
def inlineEntries? (pairs : List (Key × Toml)) : Option Entries :=
  pairs.foldlM (fun entries (key, value) => assign key.name value true key.path entries) []

/-- A document under construction: its tables, and the names of the one opened last. -/
structure Draft where
  /-- The tables. -/
  root : Entries
  /-- The names that lead to the table opened last. -/
  current : List String

/-- A document without anything in it. -/
def Draft.empty : Draft :=
  ⟨[], []⟩

/-- The document with one more statement. -/
def Draft.extend (d : Draft) : Statement → Option Draft
  | .table key =>
    (descend (openTable key.name) key.path d.root).map fun root => ⟨root, key.names⟩
  | .element key =>
    (descend (openElement key.name) key.path d.root).map fun root => ⟨root, key.names⟩
  | .assignment key value =>
    (descend (assign key.name value true key.path) d.current d.root).map fun root =>
      { d with root }

/-- The table that the statements of a document make up. -/
def assemble (statements : List Statement) : Option Toml :=
  (statements.foldlM Draft.extend Draft.empty).map fun d => .table (ofEntries d.root)

end ReplicaPolicy.Toml
