import ReplicaPolicy.ActionList.Basic
import ReplicaPolicy.Occupancy
import ReplicaPolicy.Rule.Basic

set_option relaxedAutoImplicit false
set_option autoImplicit false

/-!
# Stack definitions

A stack definition tells the rules of a stack before they are compiled: globs, conditions and
units are texts, and list files are paths. A definition is checked before it is built.

## Main definitions

* `ReplicaPolicy.RuleConfig` — the definition of a rule.
* `ReplicaPolicy.RuleConfig.ages` — the ages that it gives.
* `ReplicaPolicy.StackConfig`, `StackConfig.check` — the definition of a stack.

## Main results

* `ReplicaPolicy.StackConfig.check_eq_ok_iff` — what a sound definition is.
-/

namespace ReplicaPolicy

/-- The definition of a rule. -/
inductive RuleConfig where
  /-- An action list: the entries of files, and entries of its own after them. A strict list
  refuses files with lines that are neither entries nor remarks. -/
  | actionList (name : Option String) (files : List String) (entries : List ActionLine)
      (strict : Bool)
  /-- A condition with its decision, and a reason to give for it. -/
  | condition (text : String) (decision : Decision) (reason : Option String)
  /-- Protects replicas with an incomplete block. -/
  | protectIncomplete
  /-- Protects replicas with a locked block. -/
  | protectLocked
  /-- Protects replicas for which the site is responsible. -/
  | protectCustodial
  /-- Protects datasets without a complete tape copy. -/
  | protectDiskOnly
  /-- Protects datasets without a complete tape copy by name. -/
  | protectByNameDiskOnly (pattern : String) (protectMatch : Bool)
  /-- Protects replicas at sites out of service. -/
  | protectNonreadySite
  /-- Protects datasets with too few full copies. -/
  | protectMinimumCopies (exceptions : List (String × Nat))
  /-- Protects replicas that a group does not own. -/
  | protectNotOwnedBy (group : String)
  /-- Protects disk-only replicas with a young block. -/
  | protectNewDiskOnly (age : Age)
  /-- Protects datasets whose tape copy is not finished. -/
  | protectIncompleteTapeCopy
  /-- Deletes partial replicas. -/
  | deletePartial
  /-- Deletes superseded datasets. -/
  | deleteDeprecated
  /-- Deletes old datasets by name. -/
  | deleteByNameOlderThan (age : Age) (pattern : String) (update : UpdateTime)
  /-- Deletes replicas not accessed for some time. -/
  | deleteNotAccessedFor (age : Age)
  /-- Deletes little used datasets. -/
  | deleteUnused (threshold : Float)
  /-- Deletes old replicas that were never accessed; the ages are in days. -/
  | deleteOldUnused (datasetDays : Float) (replicaDays : Float)

/-- The amounts of the ages that a rule gives. -/
def RuleConfig.ages : RuleConfig → List Float
  | .protectNewDiskOnly age | .deleteByNameOlderThan age _ _ | .deleteNotAccessedFor age =>
    [age.amount]
  | .deleteOldUnused datasetDays replicaDays => [datasetDays, replicaDays]
  | _ => []

/-- The definition of a stack. -/
structure StackConfig where
  /-- The name of the stack. -/
  name : String
  /-- The default decision. -/
  default : Decision
  /-- The partition that conditions and the requirement are about, if they are about one. -/
  partition : Option String
  /-- The settings of the occupancy requirement, if there is one. -/
  occupancy : Option OccupancySettings
  /-- The rules. -/
  rules : List RuleConfig
  /-- The directory from which the paths of list files are taken. -/
  directory : String

namespace StackConfig

/-- The paths of the list files. -/
def listPaths (c : StackConfig) : List String :=
  c.rules.flatMap fun r =>
    match r with
    | .actionList _ paths _ _ => paths.map (Path.join c.directory)
    | _ => []

/-- The first age that cannot be counted back. -/
def improperAge? (c : StackConfig) : Option Float :=
  (c.rules.flatMap RuleConfig.ages).find? fun amount => !Age.isProperAmount amount

/-- The name must not be blank, the settings of the requirement must be sound, and so must all
ages. -/
def check (c : StackConfig) : Except SettingFault Unit := do
  if (Text.trim c.name.toList).isEmpty then .error .blankName
  match c.occupancy with
  | none => .ok ()
  | some settings => settings.check
  match c.improperAge? with
  | none => .ok ()
  | some amount => .error (.invalidAge amount)

theorem check_eq_ok_iff {c : StackConfig} :
    c.check = .ok () ↔
      Text.trim c.name.toList ≠ [] ∧ (∀ settings ∈ c.occupancy, settings.check = .ok ()) ∧
        ∀ r ∈ c.rules, ∀ amount ∈ r.ages, Age.isProperAmount amount = true := by
  have hages : c.improperAge? = none ↔
      ∀ r ∈ c.rules, ∀ amount ∈ r.ages, Age.isProperAmount amount = true := by
    simp only [improperAge?, List.find?_eq_none, List.mem_flatMap, Bool.not_eq_true',
      Bool.not_eq_false]
    exact ⟨fun h r hr a ha => h a ⟨r, hr, ha⟩, fun h a ⟨r, hr, ha⟩ => h r hr a ha⟩
  rw [← hages]
  unfold check
  by_cases hn : Text.trim c.name.toList = []
  · simp [hn, bind, Except.bind]
  · cases ho : c.occupancy with
    | none => cases hi : c.improperAge? <;> simp [hn, bind, Except.bind]
    | some settings =>
      cases hs : settings.check <;> cases hi : c.improperAge? <;>
        simp [hn, hs, bind, Except.bind]

end StackConfig

end ReplicaPolicy
