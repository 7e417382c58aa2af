import ReplicaPolicy.Age.Cutoff
import ReplicaPolicy.Calendar.Writer
import ReplicaPolicy.Glob.Syntax
import ReplicaPolicy.Inventory.Basic

set_option relaxedAutoImplicit false
set_option autoImplicit false

/-!
# Rules that can only delete

A deletion looks at a replica and either gives a reason to remove it or takes no position.

## Main definitions

* `ReplicaPolicy.Deletion` — the rules of this kind.
* `ReplicaPolicy.Deletion.name` — the name of a rule.
* `ReplicaPolicy.Deletion.reason?` — why a replica may be removed, if it may.
* `ReplicaPolicy.Deletion.ofNameAndAge`, `ofIdleAge`, `ofAges` — rules made from ages.

## Main results

* `ReplicaPolicy.Deletion.ofIdleAge_ok_iff` — what the deletion of idle replicas is made from.
-/

namespace ReplicaPolicy

/-- Which time tells when a replica was updated. -/
inductive UpdateTime where
  /-- The last update of its dataset. -/
  | ofDataset
  /-- The creation of its newest block. -/
  | ofReplica
  deriving DecidableEq, Repr

/-- The time of the last update. -/
def UpdateTime.of (u : UpdateTime) (v : View) : Instant :=
  match u with
  | .ofDataset => v.dataset.lastUpdate
  | .ofReplica => v.replica.lastBlockCreated

/-- A rule that can only delete. -/
inductive Deletion where
  /-- Replicas with fewer blocks than their dataset. -/
  | isPartial
  /-- Superseded datasets. -/
  | deprecated
  /-- Datasets that a glob selects and that were updated before a date. -/
  | olderThan (cutoff : AgeCutoff) (pattern : Glob) (update : UpdateTime)
  /-- Replicas that are no younger than a date and were not accessed after it. -/
  | notAccessedFor (cutoff : AgeCutoff)
  /-- Datasets whose rank by use is above a threshold. -/
  | unused (threshold : Float)
  /-- Replicas never accessed, where the dataset and the replica are old enough. -/
  | oldUnused (dataset : Instant) (replica : Instant)

namespace Deletion

/-- The name of the rule. -/
def name : Deletion → String
  | .isPartial => "DeletePartial"
  | .deprecated => "DeleteDeprecated"
  | .olderThan _ _ _ => "DeleteByNameOlderThan"
  | .notAccessedFor _ => "DeleteNotAccessedFor"
  | .unused _ => "DeleteUnused"
  | .oldUnused _ _ => "DeleteOldUnused"

/-- The last access on any channel is after a date. -/
def accessedAfter (r : Replica) (date : Date) : Bool :=
  AccessChannel.all.any fun channel => (r.lastAccess? channel).any fun last => date < last

/-- Whether the rule marks a replica for removal. -/
def applies (d : Deletion) (v : View) (demand : Demand) : Bool :=
  match d with
  | .isPartial => v.isPartial
  | .deprecated => v.dataset.status == .deprecated
  | .olderThan cutoff pattern update =>
    pattern.selects v.dataset.name && (update.of v).date < cutoff.date
  | .notAccessedFor cutoff =>
    v.replica.lastBlockCreated.date ≤ cutoff.date &&
      (v.replica.accessCount == 0 || !accessedAfter v.replica cutoff.date)
  | .unused threshold => threshold < demand.usageRank
  | .oldUnused dataset replica =>
    v.dataset.lastUpdate ≤ dataset && v.replica.lastBlockCreated ≤ replica &&
      v.replica.accessCount == 0

/-- What the rule says of a replica that it marks. -/
def reason (d : Deletion) (v : View) : String :=
  match d with
  | .isPartial => "Replica is partial."
  | .deprecated => "Dataset is deprecated."
  | .olderThan cutoff _ _ => s!"Replica was updated more than {cutoff.text} ago."
  | .notAccessedFor cutoff =>
    if v.replica.accessCount = 0 then
      s!"Replica was created on {v.replica.lastBlockCreated.date.text} but is never accessed."
    else s!"Last access is older than {cutoff.text}."
  | .unused threshold =>
    let bound := Decimal.fixed 6 threshold
    s!"Global usage rank is above {bound}."
  | .oldUnused _ _ => "Dataset is old and replica is never accessed."

/-- Why a replica may be removed, if it may. -/
def reason? (d : Deletion) (v : View) (demand : Demand) : Option String :=
  if d.applies v demand then some (d.reason v) else none

/-! ## Making rules from ages -/

/-- The deletion of datasets that a glob selects and that are older than an age. -/
def ofNameAndAge (age : Age) (pattern : String) (update : UpdateTime) (now : Instant) :
    Except Fault Deletion := do
  let cutoff ← age.cutoff now
  let pattern ← Glob.compile pattern
  .ok (.olderThan cutoff pattern update)

/-- The deletion of replicas not accessed for an age. -/
def ofIdleAge (age : Age) (now : Instant) : Except Fault Deletion :=
  (age.cutoff now).map notAccessedFor

/-- The deletion of old replicas that were never accessed, by two ages in days. -/
def ofAges (datasetDays replicaDays : Float) (now : Instant) : Except Fault Deletion := do
  let dataset ← Age.before ⟨datasetDays, .days⟩ now
  let replica ← Age.before ⟨replicaDays, .days⟩ now
  .ok (.oldUnused dataset replica)

theorem ofIdleAge_ok_iff {age : Age} {now : Instant} {d : Deletion} :
    ofIdleAge age now = .ok d ↔
      ∃ cutoff, age.cutoff now = .ok cutoff ∧ notAccessedFor cutoff = d := by
  unfold ofIdleAge
  cases age.cutoff now <;> simp [Except.map]

end Deletion

end ReplicaPolicy
