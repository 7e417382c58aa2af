set_option relaxedAutoImplicit false
set_option autoImplicit false

/-!
# States of datasets and sites

The state of a dataset, of its tape copy, and of a site are each one of a few words. Conditions
compare them by number: the number of a word is its place in the list of words.

## Main definitions

* `ReplicaPolicy.Coded` — a type whose members are told by words and numbers.
* `ReplicaPolicy.DatasetStatus`, `TapeCopy`, `SiteStatus`, `SiteActivity`.
-/

namespace ReplicaPolicy

/-- A type with a list of members, each told by a word. -/
class Coded (α : Type) extends BEq α where
  /-- The members in order. -/
  members : List α
  /-- The word for a member, in capitals. -/
  word : α → String

namespace Coded

variable {α : Type} [Coded α]

/-- The member of a word. -/
def ofWord? (text : String) : Option α :=
  members.find? fun a => word a == text

/-- The member of a word in any case. -/
def ofSymbol? (text : String) : Option α :=
  ofWord? (String.ofList (text.toList.map Char.toUpper))

/-- The place of a member in the list. -/
def index (a : α) : Nat :=
  members.idxOf a

/-- The number by which conditions compare a member. -/
def code (a : α) : Float :=
  Float.ofNat (index a)

end Coded

/-- The state of a dataset. -/
inductive DatasetStatus where
  /-- Still being produced. -/
  | production
  /-- In use. -/
  | valid
  /-- Found to be wrong. -/
  | invalid
  /-- Superseded. -/
  | deprecated
  /-- Removed. -/
  | deleted
  /-- Not known. -/
  | unknown
  deriving DecidableEq, Repr

instance : Coded DatasetStatus where
  members := [.production, .valid, .invalid, .deprecated, .deleted, .unknown]
  word
    | .production => "PRODUCTION"
    | .valid => "VALID"
    | .invalid => "INVALID"
    | .deprecated => "DEPRECATED"
    | .deleted => "DELETED"
    | .unknown => "UNKNOWN"

/-- How much of a dataset is on tape. -/
inductive TapeCopy where
  /-- No copy is requested. -/
  | absent
  /-- A copy is requested and not finished. -/
  | unfinished
  /-- All of it. -/
  | full
  deriving DecidableEq, Repr

instance : Coded TapeCopy where
  members := [.absent, .unfinished, .full]
  word
    | .absent => "NONE"
    | .unfinished => "PARTIAL"
    | .full => "FULL"

/-- The state of a site. -/
inductive SiteStatus where
  /-- In service. -/
  | ready
  /-- Waiting to return to service. -/
  | waitroom
  /-- Out of service. -/
  | morgue
  /-- Not known. -/
  | unknown
  deriving DecidableEq, Repr

instance : Coded SiteStatus where
  members := [.ready, .waitroom, .morgue, .unknown]
  word
    | .ready => "READY"
    | .waitroom => "WAITROOM"
    | .morgue => "MORGUE"
    | .unknown => "UNKNOWN"

/-- Whether a site takes part in data placement. -/
inductive SiteActivity where
  /-- It does. -/
  | available
  /-- It does not. -/
  | ignore
  deriving DecidableEq, Repr

instance : Coded SiteActivity where
  members := [.available, .ignore]
  word
    | .available => "AVAILABLE"
    | .ignore => "IGNORE"

end ReplicaPolicy
