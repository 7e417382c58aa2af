import ReplicaPolicy.Proofs.Config.Build

set_option relaxedAutoImplicit false
set_option autoImplicit false

/-!
# Stacks of joined rules

The rules of a definition are compiled one by one, and a stack asks its rules in order. So a
definition with the rules of two lists, one list after the other, can be built exactly when it can
be built with either list alone, and its stack gives the verdict of the first part wherever a rule
of that part takes a position.

## Main definitions

* `ReplicaPolicy.StackConfig.withRules` — a definition with other rules.

## Main results

* `ReplicaPolicy.PolicyStack.evaluate_of_rules_append` — the first part of a stack decides where it
  names a rule, and the second part elsewhere.
* `ReplicaPolicy.StackConfig.check_withRules_append` — joined rules are sound when both parts are.
* `ReplicaPolicy.StackConfig.build_withRules_append` — joined rules are built part by part.
* `ReplicaPolicy.StackConfig.build_and_evaluate_joined` — both together, with the default where no
  rule takes a position.
-/

namespace ReplicaPolicy

/-! ## Verdicts -/

namespace PolicyStack

/-- A verdict names a rule exactly when a rule takes a position. -/
lemma isSome_rule_evaluate (s : PolicyStack) (v : View) (demand : Demand) :
    (s.evaluate v demand).rule.isSome = (firstVerdict? s.rules v demand).isSome := by
  cases hf : firstVerdict? s.rules v demand with
  | none => simp [evaluate, hf]
  | some w =>
    obtain ⟨r, -, hw⟩ := List.exists_of_findSome?_eq_some hf
    obtain ⟨w', -, rfl⟩ := signed?_eq_some_iff.1 hw
    simp [evaluate, hf]

/-- **The first part of a stack decides where it names a rule**, and the second part elsewhere. The
default is that of the second part. -/
theorem evaluate_of_rules_append {s a b : PolicyStack} (hrules : s.rules = a.rules ++ b.rules)
    (hdefault : s.default = b.default) (v : View) (demand : Demand) :
    s.evaluate v demand =
      if (a.evaluate v demand).rule.isSome then a.evaluate v demand else b.evaluate v demand := by
  rw [isSome_rule_evaluate, evaluate, hrules, hdefault, firstVerdict?_append]
  cases hf : firstVerdict? a.rules v demand with
  | none => rfl
  | some w => simp [evaluate, hf]

end PolicyStack

/-! ## Definitions -/

namespace StackConfig

variable {files : Files} {now : Instant} {c : StackConfig} {rules others : List RuleConfig}

/-- The definition with other rules. -/
def withRules (c : StackConfig) (rules : List RuleConfig) : StackConfig :=
  { c with rules := rules }

/-- Joined rules are sound when both parts are: the name and the requirement are looked at both
times, and each rule is looked at alone. -/
theorem check_withRules_append :
    (c.withRules (rules ++ others)).check = .ok () ↔
      (c.withRules rules).check = .ok () ∧ (c.withRules others).check = .ok () := by
  simp only [check_eq_ok_iff, withRules, List.forall_mem_append]
  tauto

/-- **Joined rules are built part by part**: a definition with joined rules is built into a stack
exactly when it is built with either part, and then the stack has the rules of both stacks.

**Proof sketch.** A stack is built when its definition is sound and its rules are compiled one by
one. Neither looks at a rule and at its neighbours together, and how a rule is compiled does not
depend on the other rules. -/
theorem build_withRules_append {s : PolicyStack} :
    (c.withRules (rules ++ others)).build files now = .ok s ↔
      ∃ a b, (c.withRules rules).build files now = .ok a ∧
        (c.withRules others).build files now = .ok b ∧
        s = ⟨c.name, a.rules ++ b.rules, c.default⟩ := by
  simp only [build_eq_ok_iff, ← mapM_eq_ok_iff, check_withRules_append]
  constructor
  · rintro ⟨⟨hcheck, hcheck'⟩, hname, hdefault, hrules⟩
    obtain ⟨front, back, hfront, hback, hs⟩ := mapM_append_eq_ok_iff.1 hrules
    refine ⟨⟨c.name, front, c.default⟩, ⟨c.name, back, c.default⟩, ⟨hcheck, rfl, rfl, hfront⟩,
      ⟨hcheck', rfl, rfl, hback⟩, ?_⟩
    obtain ⟨name, srules, default⟩ := s
    obtain rfl : name = c.name := hname
    obtain rfl : default = c.default := hdefault
    exact congrArg (PolicyStack.mk c.name · c.default) hs.symm
  · rintro ⟨a, b, ⟨hcheck, -, -, ha⟩, ⟨hcheck', -, -, hb⟩, rfl⟩
    exact ⟨⟨hcheck, hcheck'⟩, rfl, rfl, mapM_append_eq_ok_iff.2 ⟨a.rules, b.rules, ha, hb, rfl⟩⟩

/-- **Rules compile independently and decide by their place.** A definition with joined rules can
be built exactly when it can be built with either part. Its stack has one rule for each rule of the
definition, in order, compiled as that rule is alone. Of every replica it gives the verdict of the
stack of the first part where that names a rule, and else the verdict of the stack of the second
part. -/
theorem build_and_evaluate_joined (files : Files) (now : Instant) (c : StackConfig)
    (rules others : List RuleConfig) :
    ((∃ s, (c.withRules (rules ++ others)).build files now = .ok s) ↔
      (∃ a, (c.withRules rules).build files now = .ok a) ∧
        ∃ b, (c.withRules others).build files now = .ok b) ∧
    ∀ s, (c.withRules (rules ++ others)).build files now = .ok s →
      List.Forall₂ (fun cfg r => c.buildRule files now cfg = .ok r) (rules ++ others) s.rules ∧
      ∃ a b, (c.withRules rules).build files now = .ok a ∧
        (c.withRules others).build files now = .ok b ∧
        ∀ v demand, s.evaluate v demand =
          if (a.evaluate v demand).rule.isSome then a.evaluate v demand
          else b.evaluate v demand := by
  constructor
  · constructor
    · rintro ⟨s, hs⟩
      obtain ⟨a, b, ha, hb, -⟩ := build_withRules_append.1 hs
      exact ⟨⟨a, ha⟩, b, hb⟩
    · rintro ⟨⟨a, ha⟩, b, hb⟩
      exact ⟨_, build_withRules_append.2 ⟨a, b, ha, hb, rfl⟩⟩
  · intro s hs
    obtain ⟨-, -, -, hcompiled⟩ := build_eq_ok_iff.1 hs
    obtain ⟨a, b, ha, hb, rfl⟩ := build_withRules_append.1 hs
    obtain ⟨-, -, hdefault, -⟩ := build_eq_ok_iff.1 hb
    exact ⟨hcompiled, a, b, ha, hb, PolicyStack.evaluate_of_rules_append rfl hdefault.symm⟩

/-- A protection of custodial replicas in front of a deletion of deprecated datasets: both parts
can be built, and so can the whole. -/
theorem build_and_evaluate_joined_custodial_deprecated :
    ∃ s, ((ofRules .protect []).withRules ([.protectCustodial] ++ [.deleteDeprecated])).build
        (fun _ => none) ⟨0, 0⟩ = .ok s ∧
      List.Forall₂
        (fun cfg r => (ofRules .protect []).buildRule (fun _ => none) ⟨0, 0⟩ cfg = .ok r)
        [.protectCustodial, .deleteDeprecated] s.rules ∧
      ∃ a b, ((ofRules .protect []).withRules [.protectCustodial]).build
          (fun _ => none) ⟨0, 0⟩ = .ok a ∧
        ((ofRules .protect []).withRules [.deleteDeprecated]).build
          (fun _ => none) ⟨0, 0⟩ = .ok b ∧
        ∀ v demand, s.evaluate v demand =
          if (a.evaluate v demand).rule.isSome then a.evaluate v demand
          else b.evaluate v demand := by
  have hbuild :
      (((ofRules .protect []).withRules ([.protectCustodial] ++ [.deleteDeprecated])).build
        (fun _ => none) ⟨0, 0⟩).isOk = true := by
    decide +kernel
  obtain ⟨s, hs⟩ := exists_of_isOk hbuild
  exact ⟨s, hs, (build_and_evaluate_joined _ _ _ _ _).2 s hs⟩

end StackConfig

end ReplicaPolicy
