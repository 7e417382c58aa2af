import ReplicaPolicy.ActionList.Basic
import ReplicaPolicy.Condition
import ReplicaPolicy.Rule.Deletion
import ReplicaPolicy.Rule.Protection

set_option relaxedAutoImplicit false
set_option autoImplicit false

/-!
# Rules

A rule takes a position on a replica, with a reason, or takes none. Besides the protections and
the deletions, conditions with a decision and action lists are rules.

## Main definitions

* `ReplicaPolicy.Rule` — a rule, with its `Rule.name`.
* `ReplicaPolicy.Rule.evaluate` — its position on a replica.
-/

namespace ReplicaPolicy

/-- A rule. -/
inductive Rule where
  /-- A rule that can only protect. -/
  | protection (p : Protection)
  /-- A rule that can only delete. -/
  | deletion (d : Deletion)
  /-- A condition with a decision. -/
  | condition (c : ConditionRule)
  /-- A list of decisions by site and dataset. -/
  | actionList (l : ActionList)

namespace Rule

/-- The name under which the decisions of the rule are reported. -/
def name : Rule → String
  | .protection p => p.name
  | .deletion d => d.name
  | .condition c => c.name
  | .actionList l => l.name

/-- The verdict of the rule on a replica, if it takes a position. It names no rule: that is done
where rules are put together. -/
def evaluate (r : Rule) (v : View) (demand : Demand) : Option Verdict :=
  match r with
  | .protection p => (p.reason? v demand).map fun reason => ⟨.protect, reason, none⟩
  | .deletion d => (d.reason? v demand).map fun reason => ⟨.delete, reason, none⟩
  | .condition c => c.evaluate v demand
  | .actionList l => l.evaluate v

end Rule

end ReplicaPolicy
