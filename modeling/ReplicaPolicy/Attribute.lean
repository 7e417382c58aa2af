import ReplicaPolicy.Inventory.Basic

set_option relaxedAutoImplicit false
set_option autoImplicit false

/-!
# Attributes

Conditions speak of replicas through named attributes. An attribute has a type, and a value for
each replica under the demand for its dataset. Three attributes are about one partition of the
site; they have values once a partition is given. Attributes that stand for a state have symbols.

## Main definitions

* `ReplicaPolicy.ValueType`, `Value` — types and values.
* `ReplicaPolicy.Attribute`, `Attribute.all`, `Attribute.name`, `Attribute.valueType`.
* `ReplicaPolicy.Attribute.lookup` — the attribute of a name.
* `ReplicaPolicy.Attribute.bind` — an attribute together with its partition, if it needs one.
* `ReplicaPolicy.BoundAttribute.value` — its value.
* `ReplicaPolicy.BoundAttribute.symbols?` — what its symbols stand for.

## Main results

* `ReplicaPolicy.Attribute.mem_all`, `names_sorted` — every attribute is listed, by name.
* `ReplicaPolicy.Attribute.ofName?_name` — the name of an attribute names it.
* `ReplicaPolicy.BoundAttribute.type_value` — values have the type of their attribute.
-/

namespace ReplicaPolicy

/-! ## Values -/

/-- The type of a value. -/
inductive ValueType where
  /-- Truth values. -/
  | bool
  /-- Numbers. -/
  | numeric
  /-- Texts. -/
  | text
  /-- Instants. -/
  | time
  deriving DecidableEq, Repr

/-- The word for a type. -/
def ValueType.word : ValueType → String
  | .bool => "bool"
  | .numeric => "numeric"
  | .text => "text"
  | .time => "time"

/-- The value of an attribute. -/
inductive Value where
  /-- A truth value. -/
  | bool (value : Bool)
  /-- A number. -/
  | number (value : Float)
  /-- A text. -/
  | text (value : String)
  /-- An instant. -/
  | time (value : Instant)

/-- The type of a value. -/
def Value.type : Value → ValueType
  | .bool _ => .bool
  | .number _ => .numeric
  | .text _ => .text
  | .time _ => .time

/-! ## Attributes -/

/-- An attribute that needs no partition. -/
inductive GlobalAttribute where
  /-- The dataset has no more full copies than must stay. -/
  | hasNoExtraCopies
  /-- When the dataset was last updated. -/
  | lastUpdate
  /-- The name of the dataset. -/
  | datasetName
  /-- The number of full copies of the dataset. -/
  | fullCopies
  /-- How much of the dataset is on tape. -/
  | onTape
  /-- The state of the dataset. -/
  | datasetStatus
  /-- The rank of the dataset by use. -/
  | usageRank
  /-- The replica holds a locked block. -/
  | hasLockedBlock
  /-- The replica is incomplete. -/
  | isIncomplete
  /-- The site is responsible for the data. -/
  | isCustodial
  /-- The replica holds fewer blocks than the dataset. -/
  | isPartial
  /-- When the newest block of the replica was created. -/
  | lastBlockCreated
  /-- The number of access records. -/
  | accessCount
  /-- The group that owns the replica; the empty text if none does. -/
  | owner
  /-- Whether the site takes part in data placement. -/
  | siteActivity
  /-- The name of the site. -/
  | siteName
  /-- The state of the site. -/
  | siteStatus
  deriving DecidableEq, Repr

/-- An attribute of one partition of the site. -/
inductive PartitionAttribute where
  /-- The used fraction of the quota. -/
  | occupancy
  /-- The quota. -/
  | quota
  /-- What is used of it. -/
  | used
  deriving DecidableEq, Repr

/-- An attribute of replicas. -/
inductive Attribute where
  /-- One that needs no partition. -/
  | global (a : GlobalAttribute)
  /-- One that is about a partition. -/
  | ofPartition (a : PartitionAttribute)
  deriving DecidableEq, Repr

namespace GlobalAttribute

/-- The name of the attribute. -/
def name : GlobalAttribute → String
  | .hasNoExtraCopies => "dataset.has_no_extra_copies"
  | .lastUpdate => "dataset.last_update"
  | .datasetName => "dataset.name"
  | .fullCopies => "dataset.num_full_copies"
  | .onTape => "dataset.on_tape"
  | .datasetStatus => "dataset.status"
  | .usageRank => "dataset.usage_rank"
  | .hasLockedBlock => "replica.has_locked_block"
  | .isIncomplete => "replica.incomplete"
  | .isCustodial => "replica.is_custodial"
  | .isPartial => "replica.is_partial"
  | .lastBlockCreated => "replica.last_block_created"
  | .accessCount => "replica.num_access"
  | .owner => "replica.owner"
  | .siteActivity => "site.active"
  | .siteName => "site.name"
  | .siteStatus => "site.status"

/-- The type of its values. -/
def valueType : GlobalAttribute → ValueType
  | .hasNoExtraCopies | .hasLockedBlock | .isIncomplete | .isCustodial | .isPartial => .bool
  | .lastUpdate | .lastBlockCreated => .time
  | .datasetName | .owner | .siteName => .text
  | .fullCopies | .onTape | .datasetStatus | .usageRank | .accessCount | .siteActivity
  | .siteStatus => .numeric

/-- Its value for a replica under the demand for the dataset. -/
def value (a : GlobalAttribute) (v : View) (demand : Demand) : Value :=
  match a with
  | .hasNoExtraCopies => .bool (v.hasNoExtraCopies demand)
  | .lastUpdate => .time v.dataset.lastUpdate
  | .datasetName => .text v.dataset.name
  | .fullCopies => .number (Float.ofNat v.dataset.fullCopies)
  | .onTape => .number (Coded.code v.dataset.onTape)
  | .datasetStatus => .number (Coded.code v.dataset.status)
  | .usageRank => .number demand.usageRank
  | .hasLockedBlock => .bool (v.hasLockedBlock demand)
  | .isIncomplete => .bool v.isIncomplete
  | .isCustodial => .bool v.replica.isCustodial
  | .isPartial => .bool v.isPartial
  | .lastBlockCreated => .time v.replica.lastBlockCreated
  | .accessCount => .number (Float.ofNat v.replica.accessCount)
  | .owner => .text (v.replica.group.getD "")
  | .siteActivity => .number (Coded.code v.site.activity)
  | .siteName => .text v.site.name
  | .siteStatus => .number (Coded.code v.site.status)

/-- The value that a symbol of a coded type stands for. -/
def symbolOf? (α : Type) [Coded α] (symbol : String) : Option Value :=
  (Coded.ofSymbol? symbol : Option α).map fun a => .number (Coded.code a)

/-- What the symbols of the attribute stand for, if it has symbols. -/
def symbols? : GlobalAttribute → Option (String → Option Value)
  | .datasetStatus => some (symbolOf? DatasetStatus)
  | .onTape => some (symbolOf? TapeCopy)
  | .siteStatus => some (symbolOf? SiteStatus)
  | .siteActivity => some (symbolOf? SiteActivity)
  | _ => none

theorem type_value (a : GlobalAttribute) (v : View) (demand : Demand) :
    (a.value v demand).type = a.valueType := by
  cases a <;> rfl

end GlobalAttribute

namespace PartitionAttribute

/-- The name of the attribute. -/
def name : PartitionAttribute → String
  | .occupancy => "site.occupancy"
  | .quota => "site.quota"
  | .used => "site.used"

/-- Its value at a site. -/
def value (a : PartitionAttribute) (partition : String) (s : Site) : Value :=
  match a with
  | .occupancy => .number (s.occupancy partition)
  | .quota => .number (s.quota partition)
  | .used => .number (s.used partition)

end PartitionAttribute

/-- An attribute whose value can be taken: one that needs no partition, or one with its
partition. -/
inductive BoundAttribute where
  /-- One that needs no partition. -/
  | global (a : GlobalAttribute)
  /-- One with its partition. -/
  | ofPartition (a : PartitionAttribute) (partition : String)
  deriving DecidableEq, Repr

namespace Attribute

/-- All attributes in the order of their names. -/
def all : List Attribute := [
  .global .hasNoExtraCopies, .global .lastUpdate, .global .datasetName, .global .fullCopies,
  .global .onTape, .global .datasetStatus, .global .usageRank, .global .hasLockedBlock,
  .global .isIncomplete, .global .isCustodial, .global .isPartial, .global .lastBlockCreated,
  .global .accessCount, .global .owner, .global .siteActivity, .global .siteName,
  .ofPartition .occupancy, .ofPartition .quota, .global .siteStatus, .ofPartition .used]

/-- The name of the attribute. -/
def name : Attribute → String
  | .global a => a.name
  | .ofPartition a => a.name

/-- The type of its values. -/
def valueType : Attribute → ValueType
  | .global a => a.valueType
  | .ofPartition _ => .numeric

/-- Whether it is about a partition. -/
def isPartitioned : Attribute → Bool
  | .global _ => false
  | .ofPartition _ => true

/-- What its symbols stand for, if it has symbols. -/
def symbols? : Attribute → Option (String → Option Value)
  | .global a => a.symbols?
  | .ofPartition _ => none

/-- The names of all attributes. -/
def names : List String :=
  all.map name

/-- The attribute of a name. -/
def ofName? (text : String) : Option Attribute :=
  all.find? fun a => a.name == text

/-- The attribute of a name, or the complaint that there is none. -/
def lookup (text : String) : Except Fault Attribute :=
  match ofName? text with
  | some a => .ok a
  | none => .error (.unknownExpression text)

/-- The attribute with the partition that it is about. -/
def bind (a : Attribute) (partition : Option String) : Except Fault BoundAttribute :=
  match a, partition with
  | .global a, _ => .ok (.global a)
  | .ofPartition a, some p => .ok (.ofPartition a p)
  | .ofPartition a, none => .error (.missingPartition a.name)

theorem mem_all (a : Attribute) : a ∈ all := by
  cases a with
  | global a => cases a <;> simp [all]
  | ofPartition a => cases a <;> simp [all]

theorem names_sorted : names.Pairwise (· < ·) := by
  decide

theorem ofName?_name (a : Attribute) : ofName? a.name = some a := by
  cases a with
  | global a => cases a <;> decide
  | ofPartition a => cases a <;> decide

theorem name_of_ofName? {text : String} {a : Attribute} (h : ofName? text = some a) :
    a.name = text := by
  simpa using List.find?_some h

end Attribute

namespace BoundAttribute

/-- The attribute, its partition forgotten. -/
def unbound : BoundAttribute → Attribute
  | .global a => .global a
  | .ofPartition a _ => .ofPartition a

/-- The name of the attribute. -/
def name (b : BoundAttribute) : String :=
  b.unbound.name

/-- The type of its values. -/
def valueType (b : BoundAttribute) : ValueType :=
  b.unbound.valueType

/-- What its symbols stand for, if it has symbols. -/
def symbols? (b : BoundAttribute) : Option (String → Option Value) :=
  b.unbound.symbols?

/-- Its value for a replica under the demand for the dataset. -/
def value (b : BoundAttribute) (v : View) (demand : Demand) : Value :=
  match b with
  | .global a => a.value v demand
  | .ofPartition a partition => a.value partition v.site

theorem type_value (b : BoundAttribute) (v : View) (demand : Demand) :
    (b.value v demand).type = b.valueType := by
  cases b with
  | global a => exact a.type_value v demand
  | ofPartition a p => cases a <;> rfl

end BoundAttribute

end ReplicaPolicy
