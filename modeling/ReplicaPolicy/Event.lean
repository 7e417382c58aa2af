import ReplicaPolicy.Decimal.Fixed
import ReplicaPolicy.Decision
import ReplicaPolicy.Text.Quoted

set_option relaxedAutoImplicit false
set_option autoImplicit false

/-!
# Events

What is worth noting while action lists are loaded, stacks are built and replicas are decided. An
event carries what its message tells; the wording is in `Event.message` alone. Events never bear
on an answer: each module tells them in functions of their own.

## Main definitions

* `ReplicaPolicy.Level` — how much an event matters.
* `ReplicaPolicy.Event`, `Event.level`, `Event.message`.
-/

namespace ReplicaPolicy

/-- How much an event matters. -/
inductive Level where
  /-- A detail of the work. -/
  | debug
  /-- A step that was completed. -/
  | info
  /-- Something that may be wrong. -/
  | warn
  deriving DecidableEq, Repr

/-- The word for a level. -/
def Level.word : Level → String
  | .debug => "DEBUG"
  | .info => "INFO"
  | .warn => "WARN"

/-- Something worth noting. -/
inductive Event where
  /-- A line of a list is no entry and is passed over. -/
  | ignoredLine (list : String) (number : Nat) (line : String)
  /-- The entries of a file were added to a list. -/
  | loadedActions (count : Nat) (path : String)
  /-- A stack was built. -/
  | builtStack (name : String) (rules : Nat) (default : Decision)
  /-- A rule of a stack decided a replica. -/
  | decidedByRule (stack : String) (replica : ReplicaId) (decision : Decision) (rule : String)
      (reason : String)
  /-- No rule of a stack decided a replica. -/
  | decidedByDefault (stack : String) (replica : ReplicaId) (decision : Decision)
  /-- A replica is at no known site. -/
  | strayReplica (replica : ReplicaId)
  /-- The occupancy of a site was compared with a limit. -/
  | comparedOccupancy (site : String) (partition : String) (occupancy : Float) (limit : Float)
  deriving Repr

namespace Event

/-- How much the event matters. -/
def level : Event → Level
  | .ignoredLine _ _ _ | .decidedByRule _ _ _ _ _ | .decidedByDefault _ _ _
  | .comparedOccupancy _ _ _ _ => .debug
  | .loadedActions _ _ | .builtStack _ _ _ => .info
  | .strayReplica _ => .warn

/-- The wording of the event. -/
def message : Event → String
  | .ignoredLine list number line => s!"{list}: ignoring line {number}: {Text.quote line}"
  | .loadedActions count path => s!"Loaded {count} actions from {path}"
  | .builtStack name rules default =>
    s!"Built policy stack {name} with {rules} rules, default {default.text}"
  | .decidedByRule stack replica decision rule reason =>
    s!"{stack}: {replica.text} -> {decision.text} by {rule} ({reason})"
  | .decidedByDefault stack replica decision =>
    s!"{stack}: {replica.text} -> {decision.text} by default"
  | .strayReplica replica =>
    s!"Skipping replica of {replica.dataset} at unknown site {replica.site}"
  | .comparedOccupancy site partition occupancy limit =>
    let value := Decimal.fixed 3 occupancy
    let bound := Decimal.fixed 3 limit
    s!"{site} {partition}: occupancy {value}, limit {bound}"

end Event

end ReplicaPolicy
