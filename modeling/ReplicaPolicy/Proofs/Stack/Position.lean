import Mathlib.Tactic.Lemma
import ReplicaPolicy.Stack

set_option relaxedAutoImplicit false
set_option autoImplicit false

/-!
# Positions of rules and decisions of stacks

What a stack decides depends on its rules only through the positions that they take: the first
position that is taken decides, and else the default. The reason and the name that come with a
position play no part in it. Rules of most kinds can go one way only.

## Main definitions

* `ReplicaPolicy.Rule.position?` — the decision of a rule on a replica, if it takes one.
* `ReplicaPolicy.PolicyStack.firstPosition?` — the first position that some rules take.
* `ReplicaPolicy.Rule.Only` — a rule that by its kind can only take one decision.
* `ReplicaPolicy.Rule.IsExchangeable` — some rules can stand in the place of a rule.

## Main results

* `ReplicaPolicy.PolicyStack.decision_evaluate` — the first position decides.
* `ReplicaPolicy.Rule.Only.eq_of_position?` — a rule goes the way of its kind.
* `ReplicaPolicy.PolicyStack.silent_of_only` — rules in front that can only go one way are silent
  where a stack goes the other.
* `ReplicaPolicy.PolicyStack.evaluate_cases` — a verdict is the default, or that of the first rule
  that takes a position, with its name.
* `ReplicaPolicy.Rule.isExchangeable_iff` — rules can stand in the place of a rule exactly when they
  take the same position as it does.
-/

namespace ReplicaPolicy

/-! ## Positions -/

namespace Rule

/-- The decision that a rule takes on a replica, if it takes a position. -/
def position? (r : Rule) (v : View) (demand : Demand) : Option Decision :=
  (r.evaluate v demand).map Verdict.decision

/-- A protection takes the position to protect where it applies. -/
lemma position?_protection (p : Protection) (v : View) (demand : Demand) :
    (protection p).position? v demand = if p.applies v demand then some .protect else none := by
  show ((p.reason? v demand).map fun reason => (⟨.protect, reason, none⟩ : Verdict)).map
    Verdict.decision = _
  rw [Protection.reason?]
  split <;> rfl

/-- A deletion takes the position to delete where it applies. -/
lemma position?_deletion (d : Deletion) (v : View) (demand : Demand) :
    (deletion d).position? v demand = if d.applies v demand then some .delete else none := by
  show ((d.reason? v demand).map fun reason => (⟨.delete, reason, none⟩ : Verdict)).map
    Verdict.decision = _
  rw [Deletion.reason?]
  split <;> rfl

/-- A deletion decides to delete just where it applies. -/
lemma position?_deletion_eq_delete_iff {d : Deletion} {v : View} {demand : Demand} :
    (deletion d).position? v demand = some .delete ↔ d.applies v demand = true := by
  rw [position?_deletion]
  split <;> simp [*]

/-- A condition takes its decision where it holds. -/
lemma position?_condition (c : ConditionRule) (v : View) (demand : Demand) :
    (condition c).position? v demand =
      if c.condition.holds v demand then some c.decision else none := by
  show (c.evaluate v demand).map Verdict.decision = _
  rw [ConditionRule.evaluate]
  split <;> rfl

/-- An action list takes the decision of its first entry that selects the replica. -/
lemma position?_actionList (l : ActionList) (v : View) (demand : Demand) :
    (actionList l).position? v demand =
      (l.entries.find? fun e => e.selects v).map ActionEntry.decision := by
  unfold position? evaluate ActionList.evaluate
  rw [Option.map_map]
  rfl

/-- A rule takes no position exactly where it gives no verdict. -/
lemma position?_eq_none_iff (r : Rule) (v : View) (demand : Demand) :
    r.position? v demand = none ↔ r.evaluate v demand = none :=
  Option.map_eq_none_iff

/-! ## Rules that can only go one way -/

/-- A rule that by its kind can only take one decision: a protection, a deletion, a condition with
that decision, or an action list all of whose entries have a word for it. -/
inductive Only : Decision → Rule → Prop
  /-- Protections only protect. -/
  | protection (p : Protection) : Only .protect (.protection p)
  /-- Deletions only delete. -/
  | deletion (d : Deletion) : Only .delete (.deletion d)
  /-- A condition only takes its own decision. -/
  | condition (c : ConditionRule) : Only c.decision (.condition c)
  /-- An action list takes the decisions of the words of its entries. -/
  | actionList {decision : Decision} {l : ActionList}
      (words : ∀ e ∈ l.entries, ActionEntry.decisionOf e.action = decision) :
      Only decision (.actionList l)

/-- A rule that can only go one way goes that way. -/
theorem Only.eq_of_position? {decision decision' : Decision} {r : Rule} {v : View}
    {demand : Demand} (h : Only decision r) (hp : r.position? v demand = some decision') :
    decision' = decision := by
  cases h with
  | protection p =>
    rw [position?_protection] at hp
    obtain ⟨-, htaken⟩ := Option.ite_none_right_eq_some.1 hp
    exact (Option.some.inj htaken).symm
  | deletion d =>
    rw [position?_deletion] at hp
    obtain ⟨-, htaken⟩ := Option.ite_none_right_eq_some.1 hp
    exact (Option.some.inj htaken).symm
  | condition c =>
    rw [position?_condition] at hp
    obtain ⟨-, htaken⟩ := Option.ite_none_right_eq_some.1 hp
    exact (Option.some.inj htaken).symm
  | actionList words =>
    rw [position?_actionList] at hp
    obtain ⟨e, he, rfl⟩ := Option.map_eq_some_iff.1 hp
    rw [e.decision_eq]
    exact words e (List.mem_of_find?_eq_some he)

end Rule

/-! ## Decisions of stacks -/

namespace PolicyStack

/-- The first position that some rules take. -/
def firstPosition? (rules : List Rule) (v : View) (demand : Demand) : Option Decision :=
  rules.findSome? fun r => r.position? v demand

/-- A rule that takes no position leaves the decision to the rules after it. -/
lemma firstPosition?_cons_of_none {r : Rule} {v : View} {demand : Demand}
    (h : r.position? v demand = none) (rules : List Rule) :
    firstPosition? (r :: rules) v demand = firstPosition? rules v demand := by
  rw [firstPosition?, List.findSome?_cons, h]
  rfl

/-- A rule that takes a position decides before the rules after it. -/
lemma firstPosition?_cons_of_some {r : Rule} {v : View} {demand : Demand} {decision : Decision}
    (h : r.position? v demand = some decision) (rules : List Rule) :
    firstPosition? (r :: rules) v demand = some decision := by
  rw [firstPosition?, List.findSome?_cons, h]

/-- Alone, a rule comes first. -/
lemma firstPosition?_singleton (r : Rule) (v : View) (demand : Demand) :
    firstPosition? [r] v demand = r.position? v demand := by
  cases h : r.position? v demand with
  | none => exact firstPosition?_cons_of_none h []
  | some decision => exact firstPosition?_cons_of_some h []

/-- Earlier rules come first. -/
lemma firstPosition?_append (rules others : List Rule) (v : View) (demand : Demand) :
    firstPosition? (rules ++ others) v demand =
      (firstPosition? rules v demand).or (firstPosition? others v demand) := by
  rw [firstPosition?, List.findSome?_append]
  rfl

/-- The decision of the first verdict is the first position. -/
lemma map_decision_firstVerdict? (rules : List Rule) (v : View) (demand : Demand) :
    (firstVerdict? rules v demand).map Verdict.decision = firstPosition? rules v demand := by
  induction rules with
  | nil => rfl
  | cons r rules ih =>
    rw [firstVerdict?, List.findSome?_cons]
    cases hr : r.evaluate v demand with
    | none =>
      have hp : r.position? v demand = none := (r.position?_eq_none_iff v demand).2 hr
      rw [firstPosition?_cons_of_none hp, ← ih, signed?, hr]
      rfl
    | some w =>
      have hp : r.position? v demand = some w.decision := by rw [Rule.position?, hr]; rfl
      rw [firstPosition?_cons_of_some hp, signed?, hr]
      rfl

/-- **The first position decides**, and the default where no rule takes one. -/
theorem decision_evaluate (s : PolicyStack) (v : View) (demand : Demand) :
    (s.evaluate v demand).decision = (firstPosition? s.rules v demand).getD s.default := by
  rw [← map_decision_firstVerdict?, evaluate]
  cases firstVerdict? s.rules v demand <;> rfl

/-- Rules that can only take one decision take it first, or take none. -/
lemma firstPosition?_of_only {rules : List Rule} {decision decision' : Decision} {v : View}
    {demand : Demand} (h : ∀ r ∈ rules, Rule.Only decision r)
    (hp : firstPosition? rules v demand = some decision') : decision' = decision := by
  obtain ⟨before, r, after, rfl, hr, -⟩ := List.findSome?_eq_some_iff.1 hp
  exact (h r (by simp)).eq_of_position? hr

/-- Where a stack goes the other way, rules in front that can only take one decision take no
position. -/
theorem silent_of_only {s : PolicyStack} {rules others : List Rule} {decision : Decision}
    {v : View} {demand : Demand} (hrules : s.rules = rules ++ others)
    (honly : ∀ r ∈ rules, Rule.Only decision r)
    (hother : (s.evaluate v demand).decision ≠ decision) :
    ∀ r ∈ rules, r.position? v demand = none := by
  rw [decision_evaluate, hrules, firstPosition?_append] at hother
  have hnone : firstPosition? rules v demand = none := by
    cases hf : firstPosition? rules v demand with
    | none => rfl
    | some decision' =>
      rw [hf, firstPosition?_of_only honly hf] at hother
      exact absurd rfl hother
  exact List.findSome?_eq_none_iff.1 hnone

/-- A signed verdict is that of the rule with the name of the rule. -/
lemma signed?_eq_some_iff {r : Rule} {v : View} {demand : Demand} {w : Verdict} :
    signed? r v demand = some w ↔
      ∃ w', r.evaluate v demand = some w' ∧ { w' with rule := some r.name } = w :=
  Option.map_eq_some_iff

/-- **A verdict is the default, or that of the first rule that takes a position**, with the name
of that rule.

**Proof sketch.** By whether a first signed verdict is found; the rules before it are unsigned
because they take no position. -/
theorem evaluate_cases (s : PolicyStack) (v : View) (demand : Demand) :
    (s.evaluate v demand = ⟨s.default, defaultReason, none⟩ ∧
        ∀ r ∈ s.rules, r.evaluate v demand = none) ∨
      ∃ before r after w, s.rules = before ++ r :: after ∧
        (∀ r' ∈ before, r'.evaluate v demand = none) ∧ r.evaluate v demand = some w ∧
        s.evaluate v demand = { w with rule := some r.name } := by
  have hnone : ∀ r, signed? r v demand = none → r.evaluate v demand = none :=
    fun r h => Option.map_eq_none_iff.1 h
  cases hf : firstVerdict? s.rules v demand with
  | none =>
    have hr : ∀ r ∈ s.rules, r.evaluate v demand = none :=
      fun r hr => hnone r (List.findSome?_eq_none_iff.1 hf r hr)
    exact .inl ⟨evaluate_of_forall_none hr, hr⟩
  | some w =>
    obtain ⟨before, r, after, hrules, hw, hbefore⟩ := List.findSome?_eq_some_iff.1 hf
    obtain ⟨w', hw', rfl⟩ := signed?_eq_some_iff.1 hw
    refine .inr ⟨before, r, after, w', hrules, fun r' hr' => hnone r' (hbefore r' hr'), hw', ?_⟩
    rw [evaluate, hf]
    rfl

end PolicyStack

/-! ## Exchanging rules -/

namespace Rule

/-- Some rules can stand in the place of a rule: in any stack, wherever the rule stands in it, they
leave every decision as it is. -/
def IsExchangeable (r : Rule) (rules : List Rule) : Prop :=
  ∀ (name : String) (default : Decision) (before after : List Rule) (v : View) (demand : Demand),
    (PolicyStack.evaluate ⟨name, before ++ r :: after, default⟩ v demand).decision =
      (PolicyStack.evaluate ⟨name, before ++ rules ++ after, default⟩ v demand).decision

/-- Two positions are the same if they decide alike under both defaults. -/
lemma eq_of_getD {p q : Option Decision}
    (h : ∀ default : Decision, p.getD default = q.getD default) : p = q := by
  cases p with
  | none =>
    cases q with
    | none => rfl
    | some d => exact absurd ((h .protect).trans (h .delete).symm) (by decide)
  | some d =>
    cases q with
    | none => exact absurd ((h .protect).symm.trans (h .delete)) (by decide)
    | some d' => exact congrArg some (h .protect)

/-- **Rules can stand in the place of a rule exactly when they take the same position as it does.**

**Proof sketch.** A stack decides by its first position, so that a part of it counts only by the
first position of its own. Conversely, stacks of nothing but these rules decide alike under both
defaults. -/
theorem isExchangeable_iff {r : Rule} {rules : List Rule} :
    r.IsExchangeable rules ↔
      ∀ v demand, r.position? v demand = PolicyStack.firstPosition? rules v demand := by
  constructor
  · intro h v demand
    have hdefault : ∀ default : Decision, (r.position? v demand).getD default =
        (PolicyStack.firstPosition? rules v demand).getD default := by
      intro default
      have hstacks := h "" default [] [] v demand
      rw [PolicyStack.decision_evaluate, PolicyStack.decision_evaluate] at hstacks
      simpa [PolicyStack.firstPosition?_singleton] using hstacks
    exact eq_of_getD hdefault
  · intro h name default before after v demand
    have hsplit : before ++ r :: after = before ++ [r] ++ after := by simp
    rw [PolicyStack.decision_evaluate, PolicyStack.decision_evaluate]
    dsimp only
    rw [hsplit, PolicyStack.firstPosition?_append, PolicyStack.firstPosition?_append,
      PolicyStack.firstPosition?_append, PolicyStack.firstPosition?_append,
      PolicyStack.firstPosition?_singleton, h]

end Rule

end ReplicaPolicy
