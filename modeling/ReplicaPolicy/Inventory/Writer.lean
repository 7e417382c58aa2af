import ReplicaPolicy.Calendar.Writer
import ReplicaPolicy.Inventory.Basic
import ReplicaPolicy.Json.Value

set_option relaxedAutoImplicit false
set_option autoImplicit false

/-!
# Inventories as documents

An inventory is told with all of its fields. How its binary numbers are told is left to who asks
for the document.

## Main definitions

* `ReplicaPolicy.Inventory.toJson` — the document of an inventory.
-/

namespace ReplicaPolicy

/-- The document of a list. -/
def listToJson {α : Type} (item : α → Json) (items : List α) : Json :=
  .list (items.map item)

/-- The document of a table by name. -/
def namedToJson {α : Type} (item : α → Json) (entries : Std.TreeMap String α) : Json :=
  Json.ofFields (entries.toList.map fun (name, a) => (name, item a))

/-- The word of a coded type. -/
def Coded.toJson {α : Type} [Coded α] (a : α) : Json :=
  Json.ofText (Coded.word a)

section

variable (number : Float → Json)

/-- The document of the use of a partition. -/
def PartitionUsage.toJson (u : PartitionUsage) : Json :=
  Json.ofFields [("quota", number u.quota), ("used", number u.used)]

/-- The document of a site. -/
def Site.toJson (s : Site) : Json :=
  Json.ofFields [
    ("name", Json.ofText s.name),
    ("status", Coded.toJson s.status),
    ("activity", Coded.toJson s.activity),
    ("partitions", namedToJson (PartitionUsage.toJson number) s.partitions)]

/-- The document of what a replica holds of a block. -/
def BlockReplica.toJson (b : BlockReplica) : Json :=
  Json.ofFields [("block", Json.ofText b.block), ("is_complete", .bool b.isComplete)]

/-- The document of access counts by day. -/
def accessRecordsToJson (records : AccessRecords) : Json :=
  Json.ofFields (records.toList.map fun (date, count) => (date.text, Json.ofNat count))

/-- The document of access records by channel. -/
def accessesToJson (accesses : Std.TreeMap AccessChannel AccessRecords) : Json :=
  Json.ofFields (accesses.toList.map fun (channel, records) =>
    (channel.word, accessRecordsToJson records))

/-- The document of a replica. -/
def Replica.toJson (r : Replica) : Json :=
  Json.ofFields [
    ("site", Json.ofText r.site),
    ("is_complete", .bool r.isComplete),
    ("is_custodial", .bool r.isCustodial),
    ("group", r.group.elim .null Json.ofText),
    ("last_block_created", Json.ofText r.lastBlockCreated.text),
    ("block_replicas", listToJson BlockReplica.toJson r.blocks),
    ("accesses", accessesToJson r.accesses)]

/-- The document of a dataset. -/
def Dataset.toJson (d : Dataset) : Json :=
  Json.ofFields [
    ("name", Json.ofText d.name),
    ("status", Coded.toJson d.status),
    ("on_tape", Coded.toJson d.onTape),
    ("last_update", Json.ofText d.lastUpdate.text),
    ("blocks", listToJson Json.ofText d.blocks),
    ("replicas", listToJson Replica.toJson d.replicas)]

/-- The document of a demand. -/
def Demand.toJson (d : Demand) : Json :=
  Json.ofFields [
    ("required_copies", Json.ofNat d.requiredCopies),
    ("locked_blocks", listToJson Json.ofText d.lockedBlocks.toList),
    ("global_usage_rank", number d.usageRank)]

/-- The document of an inventory. -/
def Inventory.toJson (inv : Inventory) : Json :=
  Json.ofFields [
    ("sites", listToJson (Site.toJson number) inv.sites),
    ("datasets", listToJson Dataset.toJson inv.datasets),
    ("demands", namedToJson (Demand.toJson number) inv.demands)]

end

end ReplicaPolicy
