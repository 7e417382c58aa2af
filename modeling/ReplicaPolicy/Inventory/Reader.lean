import ReplicaPolicy.Calendar.Reader
import ReplicaPolicy.Files.Path
import ReplicaPolicy.Inventory.Basic
import ReplicaPolicy.Json.Reader

set_option relaxedAutoImplicit false
set_option autoImplicit false

/-!
# Reading inventories

An inventory is read from a document. Each kind of thing is a record; the fields that may be left
out have the values given here.

## Main definitions

* `ReplicaPolicy.Inventory.ofJson?` — the inventory that a document tells.
* `ReplicaPolicy.Inventory.ofText`, `ofFile` — the inventory that a text or a file writes.
-/

namespace ReplicaPolicy

open Json (record?)

/-- Natural numbers of documents are below this bound. -/
def naturalBound : Nat := Nat.pow 2 32

/-- A word of a coded type, in capitals. -/
def Coded.ofJson? {α : Type} [Coded α] (value : Json) : Option α := do
  Coded.ofWord? (← value.asWord?)

/-- A timestamp. -/
def Instant.ofJson? (value : Json) : Option Instant := do
  Instant.readStamp? (← value.asText?)

/-- The entries of an object by name; of entries of one name the last one counts. -/
def namedEntries? {α : Type} (read : Json → Option α) (value : Json) :
    Option (Std.TreeMap String α) := do
  let entries ← value.asFields? fun name value => (read value).map fun a => (name, a)
  some (entries.foldl (fun m (name, a) => m.insert name a) ∅)

/-- The quota and the use of a partition. -/
def PartitionUsage.ofJson? (value : Json) : Option PartitionUsage := do
  let r ← record? ["quota", "used"] value
  some
    { quota := ← r.required? "quota" Json.asFloat?
      used := ← r.required? "used" Json.asFloat? }

/-- A site. It is available unless it says otherwise. -/
def Site.ofJson? (value : Json) : Option Site := do
  let r ← record? ["name", "status", "activity", "partitions"] value
  some
    { name := ← r.required? "name" Json.asText?
      status := ← r.required? "status" Coded.ofJson?
      activity := ← r.optional? "activity" .available Coded.ofJson?
      partitions := ← r.optional? "partitions" ∅ (namedEntries? PartitionUsage.ofJson?) }

/-- What a replica holds of a block: all of it unless it says otherwise. -/
def BlockReplica.ofJson? (value : Json) : Option BlockReplica := do
  let r ← record? ["block", "is_complete"] value
  some
    { block := ← r.required? "block" Json.asText?
      isComplete := ← r.optional? "is_complete" true Json.asBool? }

/-- Access counts by day; of counts of one day the last one counts. -/
def accessRecords? (value : Json) : Option AccessRecords := do
  let entries ← value.asFields? fun name value => do
    let date ← Date.read? name
    let count ← value.asNatural? naturalBound
    some (date, count)
  some (entries.foldl (fun m (date, count) => m.insert date count) ∅)

/-- Access records by channel. -/
def accesses? (value : Json) : Option (Std.TreeMap AccessChannel AccessRecords) := do
  let entries ← value.asFields? fun name value => do
    let channel ← AccessChannel.ofWord? name
    let records ← accessRecords? value
    some (channel, records)
  some (entries.foldl (fun m (channel, records) => m.insert channel records) ∅)

/-- A replica: complete, not custodial, owned by no group, empty and never accessed unless it says
otherwise. -/
def Replica.ofJson? (value : Json) : Option Replica := do
  let r ← record?
    ["site", "is_complete", "is_custodial", "group", "last_block_created", "block_replicas",
      "accesses"] value
  some
    { site := ← r.required? "site" Json.asText?
      isComplete := ← r.optional? "is_complete" true Json.asBool?
      isCustodial := ← r.optional? "is_custodial" false Json.asBool?
      group := ← r.optional? "group" none (Json.asOptional? Json.asText?)
      lastBlockCreated := ← r.required? "last_block_created" Instant.ofJson?
      blocks := ← r.optional? "block_replicas" [] (Json.asList? BlockReplica.ofJson?)
      accesses := ← r.optional? "accesses" ∅ accesses? }

/-- A dataset: without blocks and replicas unless it says otherwise. -/
def Dataset.ofJson? (value : Json) : Option Dataset := do
  let r ← record? ["name", "status", "on_tape", "last_update", "blocks", "replicas"] value
  some
    { name := ← r.required? "name" Json.asText?
      status := ← r.required? "status" Coded.ofJson?
      onTape := ← r.required? "on_tape" Coded.ofJson?
      lastUpdate := ← r.required? "last_update" Instant.ofJson?
      blocks := ← r.optional? "blocks" [] (Json.asList? Json.asText?)
      replicas := ← r.optional? "replicas" [] (Json.asList? Replica.ofJson?) }

/-- What is asked of a dataset: what nothing asks unless it says otherwise. -/
def Demand.ofJson? (value : Json) : Option Demand := do
  let r ← record? ["required_copies", "locked_blocks", "global_usage_rank"] value
  let locked ← r.optional? "locked_blocks" [] (Json.asList? Json.asText?)
  some
    { requiredCopies := ← r.optional? "required_copies" Demand.default.requiredCopies
        (Json.asNatural? naturalBound)
      lockedBlocks := locked.foldl (fun s block => s.insert block) ∅
      usageRank := ← r.optional? "global_usage_rank" Demand.default.usageRank Json.asFloat? }

namespace Inventory

/-- The inventory that a document tells. -/
def ofJson? (value : Json) : Option Inventory := do
  let r ← record? ["sites", "datasets", "demands"] value
  some
    { sites := ← r.optional? "sites" [] (Json.asList? Site.ofJson?)
      datasets := ← r.optional? "datasets" [] (Json.asList? Dataset.ofJson?)
      demands := ← r.optional? "demands" ∅ (namedEntries? Demand.ofJson?) }

/-- The inventory that a text writes. -/
def ofText (text : String) : Except Fault Inventory :=
  match (Json.read? text).bind ofJson? with
  | some inv => .ok inv
  | none => .error .malformedDocument

/-- The inventory in a file. -/
def ofFile (files : Files) (path : String) : Except Fault Inventory :=
  match files path with
  | none => .error .unreadableFile
  | some text => ofText text

end Inventory

end ReplicaPolicy
