import ReplicaPolicy.Calendar.Instant
import ReplicaPolicy.Decision
import ReplicaPolicy.Inventory.Status
import Std.Data.TreeMap
import Std.Data.TreeSet

set_option relaxedAutoImplicit false
set_option autoImplicit false

/-!
# Sites, datasets and replicas

An inventory lists sites, datasets with their replicas, and the demand for datasets. Rules look at
one replica at a time, together with its dataset and its site.

## Main definitions

* `ReplicaPolicy.Site`, `Dataset`, `Replica`, `Demand` — what an inventory holds.
* `ReplicaPolicy.View` — a replica with its dataset and its site.
* `ReplicaPolicy.Dataset.isFull`, `fullCopies` — full copies of a dataset.
* `ReplicaPolicy.Site.occupancy` — the used fraction of a quota.
* `ReplicaPolicy.Inventory` — the whole, with `Inventory.site?` and `Inventory.demandFor`.

## Main results

* `ReplicaPolicy.Site.occupancy_of_quota_le` — a site without quota is not occupied.
-/

namespace ReplicaPolicy

/-! ## Sites -/

/-- Quota and use of one partition of a site, in the same unit. -/
structure PartitionUsage where
  /-- What may be used. -/
  quota : Float
  /-- What is used. -/
  used : Float

/-- A site that holds replicas. -/
structure Site where
  /-- Its name. -/
  name : String
  /-- Its state. -/
  status : SiteStatus
  /-- Whether it takes part in data placement. -/
  activity : SiteActivity
  /-- Its partitions by name. -/
  partitions : Std.TreeMap String PartitionUsage

namespace Site

/-- A site in service, without partitions. -/
def ofName (name : String) : Site :=
  ⟨name, .ready, .available, ∅⟩

/-- The quota of a partition; none is zero. -/
def quota (s : Site) (partition : String) : Float :=
  (s.partitions.get? partition).elim 0.0 PartitionUsage.quota

/-- The use of a partition; none is zero. -/
def used (s : Site) (partition : String) : Float :=
  (s.partitions.get? partition).elim 0.0 PartitionUsage.used

/-- The used fraction of a quota; zero where the quota is not positive. -/
def occupancy (s : Site) (partition : String) : Float :=
  if s.quota partition ≤ 0.0 then 0.0 else s.used partition / s.quota partition

theorem occupancy_of_quota_le {s : Site} {partition : String} (h : s.quota partition ≤ 0.0) :
    s.occupancy partition = 0.0 := by
  simp [occupancy, h]

end Site

/-! ## Datasets and replicas -/

/-- What a replica holds of one block. -/
structure BlockReplica where
  /-- The name of the block. -/
  block : String
  /-- All of the block is there. -/
  isComplete : Bool
  deriving DecidableEq, Repr

/-- How a replica is accessed. -/
inductive AccessChannel where
  /-- From its own site. -/
  | localAccess
  /-- From elsewhere. -/
  | remoteAccess
  deriving DecidableEq, Repr, Ord

namespace AccessChannel

/-- The channels. -/
def all : List AccessChannel := [.localAccess, .remoteAccess]

/-- The word for a channel in documents. -/
def word : AccessChannel → String
  | .localAccess => "local"
  | .remoteAccess => "remote"

/-- The channel of a word. -/
def ofWord? (text : String) : Option AccessChannel :=
  all.find? fun channel => channel.word == text

theorem mem_all (channel : AccessChannel) : channel ∈ all := by
  cases channel <;> simp [all]

end AccessChannel

instance : Ord Date := ⟨fun a b => compare a.day b.day⟩

instance : Std.TransOrd Date where
  eq_swap {a b} := Std.OrientedOrd.eq_swap (a := a.day) (b := b.day)
  isLE_trans {a b c} := Std.TransOrd.isLE_trans (a := a.day) (b := b.day) (c := c.day)

/-- How often a replica was accessed on each day that has a record. -/
abbrev AccessRecords := Std.TreeMap Date Nat

/-- A copy of a dataset, or of a part of it, at a site. -/
structure Replica where
  /-- The name of the site. -/
  site : String
  /-- It is flagged as complete. -/
  isComplete : Bool
  /-- The site is responsible for the data. -/
  isCustodial : Bool
  /-- The group that owns all of it, if one does. -/
  group : Option String
  /-- When its newest block was created. -/
  lastBlockCreated : Instant
  /-- What it holds. -/
  blocks : List BlockReplica
  /-- Its access records by channel. -/
  accesses : Std.TreeMap AccessChannel AccessRecords

namespace Replica

/-- A complete replica without blocks that was never accessed. -/
def ofSite (site : String) (lastBlockCreated : Instant) : Replica :=
  ⟨site, true, false, none, lastBlockCreated, [], ∅⟩

/-- The last day with an access record on a channel. -/
def lastAccess? (r : Replica) (channel : AccessChannel) : Option Date :=
  (r.accesses.get? channel).bind fun records => records.maxKey?

/-- The number of access records on all channels. -/
def accessCount (r : Replica) : Nat :=
  (r.accesses.values.map fun records => records.size).foldl (· + ·) 0

end Replica

/-- A named collection of blocks. -/
structure Dataset where
  /-- Its name. -/
  name : String
  /-- Its state. -/
  status : DatasetStatus
  /-- How much of it is on tape. -/
  onTape : TapeCopy
  /-- When it was last updated. -/
  lastUpdate : Instant
  /-- The names of its blocks. -/
  blocks : List String
  /-- Its replicas. -/
  replicas : List Replica

namespace Dataset

/-- A valid dataset without blocks and without replicas. -/
def ofName (name : String) (lastUpdate : Instant) : Dataset :=
  ⟨name, .valid, .absent, lastUpdate, [], []⟩

/-- A replica is full when it is flagged as complete and holds as many blocks as the dataset. -/
def isFull (d : Dataset) (r : Replica) : Bool :=
  r.isComplete && d.blocks.length ≤ r.blocks.length

/-- The number of full replicas. -/
def fullCopies (d : Dataset) : Nat :=
  d.replicas.countP d.isFull

end Dataset

/-- What is asked of a dataset. -/
structure Demand where
  /-- The number of full copies that must stay. -/
  requiredCopies : Nat
  /-- The blocks that must not be removed. -/
  lockedBlocks : Std.TreeSet String
  /-- The rank of the dataset by use; a high rank is little used. -/
  usageRank : Float

/-- The demand for a dataset of which nothing is asked: one copy. -/
def Demand.default : Demand :=
  ⟨1, ∅, 0.0⟩

/-- A replica with its dataset and its site. -/
structure View where
  /-- The dataset. -/
  dataset : Dataset
  /-- The replica. -/
  replica : Replica
  /-- The site. -/
  site : Site

namespace View

/-- The names that tell the replica. -/
def id (v : View) : ReplicaId :=
  ⟨v.site.name, v.dataset.name⟩

/-- The replica is full. -/
def isFull (v : View) : Bool :=
  v.dataset.isFull v.replica

/-- The replica holds fewer blocks than the dataset. -/
def isPartial (v : View) : Bool :=
  v.replica.blocks.length < v.dataset.blocks.length

/-- The replica is flagged as incomplete and one of its own blocks is. A replica may be flagged
only because of blocks that are not looked at. -/
def isIncomplete (v : View) : Bool :=
  !v.replica.isComplete && v.replica.blocks.any fun b => !b.isComplete

/-- The replica holds a block that must not be removed. -/
def hasLockedBlock (v : View) (demand : Demand) : Bool :=
  v.replica.blocks.any fun b => demand.lockedBlocks.contains b.block

/-- The dataset has no more full copies than must stay. -/
def hasNoExtraCopies (v : View) (demand : Demand) : Bool :=
  v.dataset.fullCopies ≤ demand.requiredCopies

end View

/-! ## The whole -/

/-- Sites, datasets with their replicas, and demands by the name of the dataset. -/
structure Inventory where
  /-- The sites. -/
  sites : List Site
  /-- The datasets. -/
  datasets : List Dataset
  /-- What is asked of datasets. -/
  demands : Std.TreeMap String Demand

namespace Inventory

/-- An inventory without anything in it. -/
def empty : Inventory :=
  ⟨[], [], ∅⟩

/-- The first site of a name. -/
def site? (inv : Inventory) (name : String) : Option Site :=
  inv.sites.find? fun s => s.name == name

/-- The site that holds the replicas at a name: the last site of that name. -/
def holder? (inv : Inventory) (name : String) : Option Site :=
  inv.sites.reverse.find? fun s => s.name == name

/-- What is asked of a dataset. -/
def demandFor (inv : Inventory) (dataset : String) : Demand :=
  (inv.demands.get? dataset).getD Demand.default

/-- The replicas of a dataset at known sites, in order. -/
def views (inv : Inventory) (d : Dataset) : List View :=
  d.replicas.filterMap fun r => (inv.holder? r.site).map fun s => ⟨d, r, s⟩

/-- All replicas at known sites in the order of the datasets, each with what is asked of its
dataset. -/
def replicas (inv : Inventory) : List (View × Demand) :=
  inv.datasets.flatMap fun d => (inv.views d).map fun v => (v, inv.demandFor d.name)

/-- The replicas at unknown sites, by dataset and site. -/
def strays (inv : Inventory) : List ReplicaId :=
  inv.datasets.flatMap fun d =>
    (d.replicas.filter fun r => (inv.holder? r.site).isNone).map fun r => ⟨r.site, d.name⟩

end Inventory

end ReplicaPolicy
