import ReplicaPolicy.Config.Build
import ReplicaPolicy.Proofs.Results
import ReplicaPolicy.Proofs.Stack.Position

set_option relaxedAutoImplicit false
set_option autoImplicit false

/-!
# What is built from a definition

A definition is built into a stack rule by rule. This file says so without the monad: a stack is
built exactly when the definition is sound and its rules are built one for one. It also says which
way the rule of each kind of definition goes.

## Main definitions

* `ReplicaPolicy.StackConfig.ofRules` — the definition of a stack by its rules alone.
* `ReplicaPolicy.RuleConfig.decision?` — the decision that the definition of a rule names.

## Main results

* `ReplicaPolicy.StackConfig.build_eq_ok_iff` — the stacks that are built.
* `ReplicaPolicy.RuleConfig.only_of_build` — a rule can only take the decision that its definition
  names.
* `ReplicaPolicy.RuleConfig.actionList_of_build` — the definition of a list is built into a list.
-/

namespace ReplicaPolicy

/-! ## Stacks -/

namespace StackConfig

/-- The definition of a stack of some rules, with neither a partition nor a requirement. -/
def ofRules (default : Decision) (rules : List RuleConfig) : StackConfig :=
  ⟨PolicyStack.defaultName, default, none, none, rules, ""⟩

/-- **Stacks are built rule by rule**: a definition is built into a stack exactly when it is sound,
the stack has its name and its default, and the rules of the stack are those of the definition one
for one. -/
theorem build_eq_ok_iff {files : Files} {now : Instant} {c : StackConfig} {s : PolicyStack} :
    c.build files now = .ok s ↔
      c.check = .ok () ∧ s.name = c.name ∧ s.default = c.default ∧
        List.Forall₂ (fun cfg r => c.buildRule files now cfg = .ok r) c.rules s.rules := by
  obtain ⟨name, rules, default⟩ := s
  rw [← mapM_eq_ok_iff, build]
  cases hc : c.check with
  | error reason => simp
  | ok u =>
    rw [except_map_eq_ok_iff]
    constructor
    · rintro ⟨rules', hr, h⟩
      obtain ⟨rfl, rfl, rfl⟩ := PolicyStack.mk.inj h
      exact ⟨rfl, rfl, rfl, hr⟩
    · rintro ⟨-, rfl, rfl, hr⟩
      exact ⟨rules, hr, rfl⟩

/-- Each rule of a stack that was built has its definition at the same place. -/
lemma exists_config_of_build {files : Files} {now : Instant} {c : StackConfig} {s : PolicyStack}
    (h : c.build files now = .ok s) {i : ℕ} {r : Rule} (hr : s.rules[i]? = some r) :
    ∃ cfg, c.rules[i]? = some cfg ∧ c.buildRule files now cfg = .ok r := by
  obtain ⟨-, -, -, hrules⟩ := build_eq_ok_iff.1 h
  obtain ⟨hi, rfl⟩ := List.getElem?_eq_some_iff.1 hr
  have hi' : i < c.rules.length := by rw [hrules.length_eq]; exact hi
  exact ⟨c.rules[i], List.getElem?_eq_getElem hi', hrules.get hi' hi⟩

end StackConfig

/-! ## Rules -/

namespace RuleConfig

/-- The decision that the definition of a rule names: kinds are named for theirs, and a condition
gives its own. An action list leaves it to its entries. -/
def decision? : RuleConfig → Option Decision
  | .protectIncomplete | .protectLocked | .protectCustodial | .protectDiskOnly
  | .protectByNameDiskOnly _ _ | .protectNonreadySite | .protectMinimumCopies _
  | .protectNotOwnedBy _ | .protectNewDiskOnly _ | .protectIncompleteTapeCopy => some .protect
  | .deletePartial | .deleteDeprecated | .deleteByNameOlderThan _ _ _ | .deleteNotAccessedFor _
  | .deleteUnused _ | .deleteOldUnused _ _ => some .delete
  | .condition _ decision _ => some decision
  | .actionList _ _ _ _ => none

variable {files : Files} {directory : String} {partition : Option String} {now : Instant}

/-- A rule can only take the decision that its definition names.

**Proof sketch.** By the kind of the definition. A kind named for protection is built, if at all,
into a protection, and one named for deletion into a deletion. -/
theorem only_of_build {cfg : RuleConfig} {decision : Decision} {r : Rule}
    (hd : cfg.decision? = some decision)
    (h : cfg.build files directory partition now = .ok r) : Rule.Only decision r := by
  cases cfg with
  | actionList name paths entries strict => exact absurd hd (by simp [decision?])
  | condition text decision' reason =>
    obtain ⟨c, -, rfl⟩ := except_map_eq_ok_iff.1 h
    obtain rfl := Option.some.inj hd
    exact .condition (.ofCondition c decision' reason)
  | protectIncomplete | protectLocked | protectCustodial | protectDiskOnly | protectNonreadySite
  | protectNotOwnedBy _ | protectIncompleteTapeCopy =>
    obtain rfl := Option.some.inj hd
    obtain rfl := Except.ok.inj h
    exact .protection _
  | protectByNameDiskOnly _ _ | protectMinimumCopies _ | protectNewDiskOnly _ =>
    obtain rfl := Option.some.inj hd
    obtain ⟨p, -, rfl⟩ := except_map_eq_ok_iff.1 h
    exact .protection p
  | deletePartial | deleteDeprecated | deleteUnused _ =>
    obtain rfl := Option.some.inj hd
    obtain rfl := Except.ok.inj h
    exact .deletion _
  | deleteByNameOlderThan _ _ _ | deleteNotAccessedFor _ | deleteOldUnused _ _ =>
    obtain rfl := Option.some.inj hd
    obtain ⟨d, -, rfl⟩ := except_map_eq_ok_iff.1 h
    exact .deletion d

/-- A definition that names no decision is that of an action list, and is built into one. -/
theorem actionList_of_build {cfg : RuleConfig} {r : Rule} (hd : cfg.decision? = none)
    (h : cfg.build files directory partition now = .ok r) :
    ∃ name paths entries strict l, cfg = .actionList name paths entries strict ∧
      r = .actionList l := by
  cases cfg with
  | actionList name paths entries strict =>
    obtain ⟨l, -, rfl⟩ := except_map_eq_ok_iff.1 h
    exact ⟨name, paths, entries, strict, l, rfl, rfl⟩
  | _ => exact absurd hd (by simp [decision?])

end RuleConfig

end ReplicaPolicy
