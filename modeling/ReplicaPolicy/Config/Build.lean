import ReplicaPolicy.Config.Basic
import ReplicaPolicy.Files.Path
import ReplicaPolicy.Stack

set_option relaxedAutoImplicit false
set_option autoImplicit false

/-!
# Building stacks

A definition is built into a stack rule by rule, with ages counted back from a reference time and
with list files read on the way. The first complaint ends the work.

## Main definitions

* `ReplicaPolicy.RuleConfig.build` — the rule of a definition.
* `ReplicaPolicy.StackConfig.build` — the stack of a definition.
* `ReplicaPolicy.StackConfig.siteRequirement` — its occupancy requirement.
* `ReplicaPolicy.StackConfig.evaluate` — the decisions about an inventory.
-/

namespace ReplicaPolicy

/-- The exception that a glob and a number of copies make. -/
def exceptionOf (e : String × Nat) : Except Fault CopyException :=
  (Glob.compile e.1).map fun g => (g, e.2)

/-- The protection of datasets with too few copies, with some exceptions. -/
def Protection.ofExceptions (exceptions : List (String × Nat)) : Except Fault Protection :=
  (exceptions.mapM exceptionOf).map .minimumCopies

/-- The protection of disk-only datasets that a glob selects, or does not select. -/
def Protection.ofName (pattern : String) (protectMatch : Bool) : Except Fault Protection :=
  (Glob.compile pattern).map fun g => .diskOnlyByName g protectMatch

namespace RuleConfig

/-- The list of some files and of some entries after them. -/
def buildList (files : Files) (directory : String) (name : Option String) (paths : List String)
    (entries : List ActionLine) (strict : Bool) : Except Fault ActionList := do
  let list := ActionList.named (name.getD ActionList.defaultName)
  let paths := paths.map (Path.join directory)
  let (list, result) :=
    if strict then list.loadFilesStrict files paths else list.loadFiles files paths
  let _ ← result
  entries.foldlM ActionList.add list

/-- The rule of a definition. -/
def build (files : Files) (directory : String) (partition : Option String) (now : Instant) :
    RuleConfig → Except Fault Rule
  | .actionList name paths entries strict =>
    (buildList files directory name paths entries strict).map .actionList
  | .condition text decision reason =>
    (Condition.compile partition text).map fun c =>
      .condition (.ofCondition c decision reason)
  | .protectIncomplete => .ok (.protection .incomplete)
  | .protectLocked => .ok (.protection .locked)
  | .protectCustodial => .ok (.protection .custodial)
  | .protectDiskOnly => .ok (.protection .diskOnly)
  | .protectByNameDiskOnly pattern protectMatch =>
    (Protection.ofName pattern protectMatch).map .protection
  | .protectNonreadySite => .ok (.protection .nonreadySite)
  | .protectMinimumCopies exceptions => (Protection.ofExceptions exceptions).map .protection
  | .protectNotOwnedBy group => .ok (.protection (.notOwnedBy group))
  | .protectNewDiskOnly age => (Protection.newerThan age now).map .protection
  | .protectIncompleteTapeCopy => .ok (.protection .incompleteTapeCopy)
  | .deletePartial => .ok (.deletion .isPartial)
  | .deleteDeprecated => .ok (.deletion .deprecated)
  | .deleteByNameOlderThan age pattern update =>
    (Deletion.ofNameAndAge age pattern update now).map .deletion
  | .deleteNotAccessedFor age => (Deletion.ofIdleAge age now).map .deletion
  | .deleteUnused threshold => .ok (.deletion (.unused threshold))
  | .deleteOldUnused datasetDays replicaDays =>
    (Deletion.ofAges datasetDays replicaDays now).map .deletion

/-- What is noted while a rule is built. -/
def buildEvents (files : Files) (directory : String) : RuleConfig → List Event
  | .actionList name paths _ false =>
    (ActionList.named (name.getD ActionList.defaultName)).loadFilesEvents files
      (paths.map (Path.join directory))
  | _ => []

end RuleConfig

namespace StackConfig

/-- The rule of a definition within a stack. -/
def buildRule (files : Files) (now : Instant) (c : StackConfig) (r : RuleConfig) :
    Except Fault Rule :=
  r.build files c.directory c.partition now

/-- The stack of a definition. -/
def build (files : Files) (now : Instant) (c : StackConfig) : Except Fault PolicyStack :=
  match c.check with
  | .error reason => .error (.invalidSetting reason)
  | .ok () =>
    (c.rules.mapM (c.buildRule files now)).map fun rules => ⟨c.name, rules, c.default⟩

/-- The occupancy requirement of a definition, if it has one. -/
def siteRequirement (c : StackConfig) : Except Fault (Option SiteRequirement) :=
  match c.occupancy with
  | none => .ok none
  | some settings => (SiteRequirement.ofSettings settings).map some

/-! ## Decisions about an inventory -/

/-- The replicas at sites that need cleaning, where a definition asks for that. -/
def selected (requirement : SiteRequirement) (partition : String) (inv : Inventory) :
    List (View × Demand) :=
  inv.replicas.filter fun (v, _) => requirement.needsCleanup v.site partition .initial

/-- The decisions about an inventory: about all replicas, or, where there is an occupancy
requirement, about those at sites that need cleaning. -/
def evaluate (files : Files) (now : Instant) (c : StackConfig) (inv : Inventory) :
    Except Fault (List ReplicaDecision) := do
  let stack ← c.build files now
  match ← c.siteRequirement with
  | none => .ok (stack.decideAll inv)
  | some requirement =>
    match c.partition with
    | none => .error (.invalidSetting .missingPartition)
    | some partition =>
      .ok ((selected requirement partition inv).map fun (v, demand) => stack.decide v demand)

/-! ## Events -/

/-- What is noted while some rules are built. -/
def rulesEvents (files : Files) (now : Instant) (c : StackConfig) : List RuleConfig → List Event
  | [] => []
  | r :: rules =>
    r.buildEvents files c.directory ++
      match c.buildRule files now r with
      | .ok _ => c.rulesEvents files now rules
      | .error _ => []

/-- What is noted while a stack is built. -/
def buildEvents (files : Files) (now : Instant) (c : StackConfig) : List Event :=
  match c.check with
  | .error _ => []
  | .ok () =>
    c.rulesEvents files now c.rules ++
      match c.build files now with
      | .ok stack => [stack.builtEvent]
      | .error _ => []

/-- What is noted while the replicas at sites that need cleaning are decided. -/
def selectedEvents (stack : PolicyStack) (requirement : SiteRequirement) (partition : String)
    (inv : Inventory) : List Event :=
  inv.strays.map .strayReplica ++ inv.replicas.flatMap fun (v, demand) =>
    requirement.cleanupEvents v.site partition .initial ++
      if requirement.needsCleanup v.site partition .initial then [stack.decidedEvent v demand]
      else []

/-- What is noted while an inventory is decided. -/
def evaluateEvents (files : Files) (now : Instant) (c : StackConfig) (inv : Inventory) :
    List Event :=
  c.buildEvents files now ++
    match c.build files now, c.siteRequirement, c.partition with
    | .ok stack, .ok none, _ => stack.decideAllEvents inv
    | .ok stack, .ok (some requirement), some partition =>
      selectedEvents stack requirement partition inv
    | _, _, _ => []

end StackConfig

end ReplicaPolicy
