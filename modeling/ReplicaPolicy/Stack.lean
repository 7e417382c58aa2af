import ReplicaPolicy.Event
import ReplicaPolicy.Rule.Basic

set_option relaxedAutoImplicit false
set_option autoImplicit false

/-!
# Policy stacks

A stack is a list of rules with a default decision. The rules are asked in order, and the first
one that takes a position decides; where none does, the default decision applies.

## Main definitions

* `ReplicaPolicy.PolicyStack` — a stack.
* `ReplicaPolicy.PolicyStack.evaluate` — its verdict on a replica.
* `ReplicaPolicy.PolicyStack.decide`, `decideAll` — what is reported about replicas.

## Main results

* `ReplicaPolicy.PolicyStack.firstVerdict?_append` — earlier rules come first.
* `ReplicaPolicy.PolicyStack.evaluate_of_forall_none` — the default applies where no rule does.
-/

namespace ReplicaPolicy

/-- Rules in order, with a decision for the replicas on which none takes a position. -/
structure PolicyStack where
  /-- The name of the stack. -/
  name : String
  /-- The rules. -/
  rules : List Rule
  /-- The default decision. -/
  default : Decision

namespace PolicyStack

/-- The name of a stack that is given none. -/
def defaultName : String := "policy"

/-- The reason given for the default decision. -/
def defaultReason : String := "No rule matched; default decision applies."

/-- The verdict of a rule, with its name. -/
def signed? (r : Rule) (v : View) (demand : Demand) : Option Verdict :=
  (r.evaluate v demand).map fun w => { w with rule := some r.name }

/-- The verdict of the first of some rules that takes a position. -/
def firstVerdict? (rules : List Rule) (v : View) (demand : Demand) : Option Verdict :=
  rules.findSome? fun r => signed? r v demand

/-- The verdict of a stack on a replica under the demand for its dataset. -/
def evaluate (s : PolicyStack) (v : View) (demand : Demand) : Verdict :=
  (firstVerdict? s.rules v demand).getD ⟨s.default, defaultReason, none⟩

/-- What a stack reports about a replica. -/
def decide (s : PolicyStack) (v : View) (demand : Demand) : ReplicaDecision :=
  let verdict := s.evaluate v demand
  ⟨v.id, verdict.decision, verdict.reason⟩

/-- What a stack reports about the replicas of an inventory. -/
def decideAll (s : PolicyStack) (inv : Inventory) : List ReplicaDecision :=
  inv.replicas.map fun (v, demand) => s.decide v demand

theorem firstVerdict?_append (rules others : List Rule) (v : View) (demand : Demand) :
    firstVerdict? (rules ++ others) v demand =
      (firstVerdict? rules v demand).or (firstVerdict? others v demand) := by
  simp [firstVerdict?, List.findSome?_append]

theorem evaluate_of_forall_none {s : PolicyStack} {v : View} {demand : Demand}
    (h : ∀ r ∈ s.rules, r.evaluate v demand = none) :
    s.evaluate v demand = ⟨s.default, defaultReason, none⟩ := by
  have hn : firstVerdict? s.rules v demand = none := by
    refine List.findSome?_eq_none_iff.2 fun r hr => ?_
    simp [signed?, h r hr]
  simp [evaluate, hn]

/-! ## Events -/

/-- What is noted when a stack is built. -/
def builtEvent (s : PolicyStack) : Event :=
  .builtStack s.name s.rules.length s.default

/-- What is noted when a stack decides a replica. -/
def decidedEvent (s : PolicyStack) (v : View) (demand : Demand) : Event :=
  let verdict := s.evaluate v demand
  match verdict.rule with
  | some rule => .decidedByRule s.name v.id verdict.decision rule verdict.reason
  | none => .decidedByDefault s.name v.id verdict.decision

/-- What is noted when a stack decides the replicas of an inventory. -/
def decideAllEvents (s : PolicyStack) (inv : Inventory) : List Event :=
  inv.strays.map .strayReplica ++ inv.replicas.map fun (v, demand) => s.decidedEvent v demand

end PolicyStack

end ReplicaPolicy
