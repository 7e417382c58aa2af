import ReplicaPolicy.Age.Cutoff
import ReplicaPolicy.Calendar.Writer
import ReplicaPolicy.Glob.Syntax
import ReplicaPolicy.Inventory.Basic

set_option relaxedAutoImplicit false
set_option autoImplicit false

/-!
# Rules that can only protect

A protection looks at a replica and either gives a reason to keep it or takes no position.

## Main definitions

* `ReplicaPolicy.Protection` — the rules of this kind.
* `ReplicaPolicy.Protection.name` — the name of a rule.
* `ReplicaPolicy.Protection.reason?` — why a replica is protected, if it is.
* `ReplicaPolicy.requiredCopies` — the number of full copies that a dataset must keep.

## Main results

* `ReplicaPolicy.requiredCopies_append` — the first exception for a dataset counts.
-/

namespace ReplicaPolicy

/-- An exception to the demand: datasets that a glob selects, and the copies they must keep. -/
abbrev CopyException := Glob × Nat

/-- The number of full copies that a dataset must keep: that of the first exception that selects
it, and else what the demand asks. -/
def requiredCopies (exceptions : List CopyException) (dataset : String) (demand : Demand) : Nat :=
  match exceptions.find? fun e => e.1.selects dataset with
  | some e => e.2
  | none => demand.requiredCopies

theorem requiredCopies_append {exceptions : List CopyException} {dataset : String}
    (h : ∃ e ∈ exceptions, e.1.selects dataset = true) (others : List CopyException)
    (demand : Demand) :
    requiredCopies (exceptions ++ others) dataset demand =
      requiredCopies exceptions dataset demand := by
  obtain ⟨e, he, hs⟩ := h
  have hf : (exceptions.find? fun e => e.1.selects dataset).isSome = true :=
    List.find?_isSome.2 ⟨e, he, hs⟩
  unfold requiredCopies
  rw [List.find?_append]
  cases hc : exceptions.find? fun e => e.1.selects dataset with
  | none => simp [hc] at hf
  | some e => rfl

/-- A rule that can only protect. -/
inductive Protection where
  /-- Replicas with an incomplete block of their own. -/
  | incomplete
  /-- Replicas with a locked block. -/
  | locked
  /-- Replicas for which the site is responsible. -/
  | custodial
  /-- Datasets without a complete tape copy. -/
  | diskOnly
  /-- Datasets without a complete tape copy that a glob selects, or does not select. -/
  | diskOnlyByName (pattern : Glob) (protectMatch : Bool)
  /-- Sites out of service. -/
  | nonreadySite
  /-- Datasets with no more full copies than they must keep. -/
  | minimumCopies (exceptions : List CopyException)
  /-- Replicas that a group does not own as a whole. -/
  | notOwnedBy (group : String)
  /-- Datasets without a complete tape copy at sites with a block newer than an instant. -/
  | newDiskOnly (threshold : Instant)
  /-- Datasets whose tape copy is not finished. -/
  | incompleteTapeCopy

namespace Protection

/-- The name of the rule. -/
def name : Protection → String
  | .incomplete => "ProtectIncomplete"
  | .locked => "ProtectLocked"
  | .custodial => "ProtectCustodial"
  | .diskOnly => "ProtectDiskOnly"
  | .diskOnlyByName _ _ => "ProtectByNameDiskOnly"
  | .nonreadySite => "ProtectNonreadySite"
  | .minimumCopies _ => "ProtectMinimumCopies"
  | .notOwnedBy _ => "ProtectNotOwnedBy"
  | .newDiskOnly _ => "ProtectNewDiskOnly"
  | .incompleteTapeCopy => "ProtectIncompleteTapeCopy"

/-- Whether the rule protects a replica. -/
def applies (p : Protection) (v : View) (demand : Demand) : Bool :=
  match p with
  | .incomplete => v.isIncomplete
  | .locked => v.hasLockedBlock demand
  | .custodial => v.replica.isCustodial
  | .diskOnly => v.dataset.onTape != .full
  | .diskOnlyByName pattern protectMatch =>
    v.dataset.onTape != .full && pattern.selects v.dataset.name == protectMatch
  | .nonreadySite => v.site.status != .ready || v.site.activity == .ignore
  | .minimumCopies exceptions =>
    v.dataset.fullCopies ≤ requiredCopies exceptions v.dataset.name demand
  | .notOwnedBy group => v.replica.group != some group
  | .newDiskOnly threshold => v.dataset.onTape != .full && threshold < v.replica.lastBlockCreated
  | .incompleteTapeCopy => v.dataset.onTape == .unfinished

/-- What the rule says of a replica that it protects. -/
def reason (p : Protection) (v : View) (demand : Demand) : String :=
  match p with
  | .incomplete => "Replica is not complete."
  | .locked => "Locked block exists."
  | .custodial => "Replica is custodial."
  | .diskOnly | .diskOnlyByName _ _ => "Dataset has no complete tape copy."
  | .nonreadySite => "Site is not in ready state."
  | .minimumCopies exceptions =>
    s!"Dataset has <= {requiredCopies exceptions v.dataset.name demand} copies."
  | .notOwnedBy group => s!"Not all parts of replica are owned by {group}"
  | .newDiskOnly threshold =>
    s!"Replica has no full tape copy and has a block newer than {threshold.date.text}."
  | .incompleteTapeCopy => "A tape copy is requested but is not completed."

/-- Why a replica is protected, if it is. -/
def reason? (p : Protection) (v : View) (demand : Demand) : Option String :=
  if p.applies v demand then some (p.reason v demand) else none

/-- The protection of disk-only replicas with a block younger than an age. -/
def newerThan (age : Age) (now : Instant) : Except Fault Protection :=
  (age.before now).map newDiskOnly

end Protection

end ReplicaPolicy
