import ReplicaPolicy.Config.Basic
import ReplicaPolicy.Config.Node
import ReplicaPolicy.Files.Path
import ReplicaPolicy.Toml.Reader

set_option relaxedAutoImplicit false
set_option autoImplicit false

/-!
# Reading stack definitions

A definition is a record. Each of its rules is a record too: its kind, and the fields of that
kind. Written as a list, a rule starts with its kind, and the fields follow in order.

TOML and JSON differ in two points. A decision may be written as a table whose only field is named
for it: in TOML that field holds an empty table or list, in JSON nothing. A record of occupancy
settings that is written as a list may go on after its last field in TOML, but not in JSON.

## Main definitions

* `ReplicaPolicy.Dialect` — how TOML and JSON differ.
* `ReplicaPolicy.RuleConfig.ofNode?` — the definition of a rule.
* `ReplicaPolicy.StackConfig.ofNode?` — the definition of a stack.
* `ReplicaPolicy.StackConfig.ofText`, `ofFile`, `ofJson` — definitions from documents.
-/

namespace ReplicaPolicy

open Node (record?)

/-! ## Dialects -/

/-- How documents of a form are read where forms differ. -/
structure Dialect where
  /-- The nodes that may stand beside the name of a decision. -/
  isBare : Node → Bool
  /-- Whether a list that writes occupancy settings may go on after the last field. -/
  allowsSurplus : Bool

namespace Dialect

/-- How TOML is read. -/
def toml : Dialect where
  isBare
    | .table [] | .list [] => true
    | _ => false
  allowsSurplus := true

/-- How JSON is read. -/
def json : Dialect where
  isBare
    | .null => true
    | _ => false
  allowsSurplus := false

end Dialect

/-! ## Parts -/

/-- A decision. -/
def Decision.ofNode? (isBare : Node → Bool) (node : Node) : Option Decision := do
  Decision.ofWord? (← node.asWord? isBare)

/-- A unit of age. -/
def AgeUnit.ofNode? (node : Node) : Option AgeUnit := do
  AgeUnit.ofSuffix? (← node.asText?)

/-- An entry of an action list: three texts. -/
def ActionLine.ofNode? (node : Node) : Option ActionLine := do
  match ← node.asList? Node.asText? with
  | [action, site, dataset] => some ⟨action, site, dataset⟩
  | _ => none

/-- An exception to the demand: a glob and a number of copies. -/
def exceptionOfNode? : Node → Option (String × Nat)
  | .list [pattern, copies] => do
    some (← pattern.asText?, ← copies.asNatural? (Nat.pow 2 32))
  | _ => none

/-- An optional text. -/
def optionalText? : Node → Option (Option String) :=
  Node.asOptional? Node.asText?

/-- Occupancy settings; what is not written is as in the default settings. -/
def OccupancySettings.ofNode? (dialect : Dialect) (node : Node) : Option OccupancySettings := do
  let names := ["included_sites", "threshold_occupancy", "target_occupancy"]
  let node :=
    match node with
    | .list items => .list (if dialect.allowsSurplus then items.take names.length else items)
    | node => node
  let r ← record? names node
  some
    { includedSites := ← r.optional? "included_sites" default.includedSites optionalText?
      threshold := ← r.optional? "threshold_occupancy" default.threshold Node.asFloat?
      target := ← r.optional? "target_occupancy" default.target Node.asFloat? }

/-! ## Rules -/

namespace RuleConfig

/-- The age that the fields `amount` and `unit` of a record give. -/
def age? (r : Node.Record) : Option Age := do
  some
    { amount := ← r.required? "amount" Node.asFloat?
      unit := ← r.required? "unit" AgeUnit.ofNode? }

/-- The definition of a rule of a kind without fields. A list must not go on after the kind. -/
def plain? (rule : RuleConfig) (fields : Node) : Option RuleConfig :=
  (record? [] fields).map fun _ => rule

/-- An action list. -/
def actionList? (fields : Node) : Option RuleConfig := do
  let r ← record? ["name", "files", "entries", "strict"] fields
  some <| .actionList
    (← r.optional? "name" none optionalText?)
    (← r.optional? "files" [] (Node.asList? Node.asText?))
    (← r.optional? "entries" [] (Node.asList? ActionLine.ofNode?))
    (← r.optional? "strict" false Node.asBool?)

/-- A condition. -/
def condition? (fields : Node) : Option RuleConfig := do
  let r ← record? ["expr", "decision", "reason"] fields
  some <| .condition
    (← r.required? "expr" Node.asText?)
    (← r.required? "decision" (Decision.ofNode? Node.isEmptyTable))
    (← r.optional? "reason" none optionalText?)

/-- The protection of disk-only datasets by name: of those that the glob selects, unless it says
otherwise. -/
def protectByNameDiskOnly? (fields : Node) : Option RuleConfig := do
  let r ← record? ["pattern", "protect_match"] fields
  some <| .protectByNameDiskOnly
    (← r.required? "pattern" Node.asText?)
    (← r.optional? "protect_match" true Node.asBool?)

/-- The protection of datasets with too few copies. -/
def protectMinimumCopies? (fields : Node) : Option RuleConfig := do
  let r ← record? ["exceptions"] fields
  some <| .protectMinimumCopies (← r.optional? "exceptions" [] (Node.asList? exceptionOfNode?))

/-- The protection of what a group does not own. -/
def protectNotOwnedBy? (fields : Node) : Option RuleConfig := do
  let r ← record? ["group"] fields
  some <| .protectNotOwnedBy (← r.required? "group" Node.asText?)

/-- The protection of young disk-only replicas. -/
def protectNewDiskOnly? (fields : Node) : Option RuleConfig := do
  let r ← record? ["amount", "unit"] fields
  some <| .protectNewDiskOnly (← age? r)

/-- The deletion of old datasets by name. They are dated by their replica unless the definition
says otherwise. -/
def deleteByNameOlderThan? (fields : Node) : Option RuleConfig := do
  let r ← record? ["amount", "unit", "pattern", "use_dataset_time"] fields
  let byDataset ← r.optional? "use_dataset_time" false Node.asBool?
  some <| .deleteByNameOlderThan (← age? r) (← r.required? "pattern" Node.asText?)
    (if byDataset then .ofDataset else .ofReplica)

/-- The deletion of replicas not accessed for some time. -/
def deleteNotAccessedFor? (fields : Node) : Option RuleConfig := do
  let r ← record? ["amount", "unit"] fields
  some <| .deleteNotAccessedFor (← age? r)

/-- The deletion of little used datasets. -/
def deleteUnused? (fields : Node) : Option RuleConfig := do
  let r ← record? ["threshold"] fields
  some <| .deleteUnused (← r.required? "threshold" Node.asFloat?)

/-- The deletion of old replicas that were never accessed. -/
def deleteOldUnused? (fields : Node) : Option RuleConfig := do
  let r ← record? ["dataset_age_days", "replica_age_days"] fields
  some <| .deleteOldUnused
    (← r.required? "dataset_age_days" Node.asFloat?)
    (← r.required? "replica_age_days" Node.asFloat?)

/-- The kinds of rules, and how the fields of each are read. -/
def kinds : List (String × (Node → Option RuleConfig)) := [
  ("action_list", actionList?),
  ("condition", condition?),
  ("protect_incomplete", plain? .protectIncomplete),
  ("protect_locked", plain? .protectLocked),
  ("protect_custodial", plain? .protectCustodial),
  ("protect_disk_only", plain? .protectDiskOnly),
  ("protect_by_name_disk_only", protectByNameDiskOnly?),
  ("protect_nonready_site", plain? .protectNonreadySite),
  ("protect_minimum_copies", protectMinimumCopies?),
  ("protect_not_owned_by", protectNotOwnedBy?),
  ("protect_new_disk_only", protectNewDiskOnly?),
  ("protect_incomplete_tape_copy", plain? .protectIncompleteTapeCopy),
  ("delete_partial", plain? .deletePartial),
  ("delete_deprecated", plain? .deleteDeprecated),
  ("delete_by_name_older_than", deleteByNameOlderThan?),
  ("delete_not_accessed_for", deleteNotAccessedFor?),
  ("delete_unused", deleteUnused?),
  ("delete_old_unused", deleteOldUnused?)]

/-- The field that tells the kind of a rule. -/
def kindField : String := "kind"

/-- The definition of a rule. -/
def ofNode? (node : Node) : Option RuleConfig := do
  let (kind, fields) ←
    match node with
    | .table fields =>
      (fields.lookup kindField).map fun kind =>
        (kind, Node.table (fields.filter fun field => field.1 != kindField))
    | .list (kind :: fields) => some (kind, Node.list fields)
    | _ => none
  let read ← kinds.lookup (← kind.asText?)
  read fields

end RuleConfig

/-! ## Stacks -/

namespace StackConfig

/-- The definition of a stack: about no partition, without requirement and without rules unless
it says otherwise. Paths of list files are taken from nowhere. -/
def ofNode? (dialect : Dialect) (node : Node) : Option StackConfig := do
  let r ← record? ["name", "default", "partition", "occupancy", "rules"] node
  some
    { name := ← r.required? "name" Node.asText?
      default := ← r.required? "default" (Decision.ofNode? dialect.isBare)
      partition := ← r.optional? "partition" none optionalText?
      occupancy := ← r.optional? "occupancy" none
        (Node.asOptional? (OccupancySettings.ofNode? dialect))
      rules := ← r.optional? "rules" [] (Node.asList? RuleConfig.ofNode?)
      directory := "" }

/-- The sound definition that a TOML text writes. -/
def ofText (text : String) : Except Fault StackConfig :=
  match (Toml.read? text).bind fun t => ofNode? .toml (.ofToml t) with
  | none => .error .malformedStack
  | some c =>
    match c.check with
    | .error reason => .error (.invalidSetting reason)
    | .ok () => .ok c

/-- The sound definition in a TOML file. Paths of list files are taken from its directory. -/
def ofFile (files : Files) (path : String) : Except Fault StackConfig :=
  match files path with
  | none => .error .unreadableFile
  | some text => (ofText text).map fun c => { c with directory := Path.parent path }

/-- The definition that a JSON document gives, sound or not. -/
def ofJson (value : Json) : Except Fault StackConfig :=
  match (Node.ofJson? value).bind (ofNode? .json) with
  | none => .error .malformedDocument
  | some c => .ok c

end StackConfig

end ReplicaPolicy
