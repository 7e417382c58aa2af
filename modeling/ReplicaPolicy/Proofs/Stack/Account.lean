import ReplicaPolicy.Proofs.Config.Build

set_option relaxedAutoImplicit false
set_option autoImplicit false

/-!
# Every verdict is accounted for

A verdict of a stack that was built from a definition either is the default, because no rule took
a position, or it is that of one rule, the first to take a position. In the second case the
definition of that rule explains the decision: the kind of the rule is named for it, or the
condition gives it, or the first entry of the list that selects the replica has a word for it.

## Main definitions

* `ReplicaPolicy.RuleConfig.Explains` — the definition of a rule explains a decision.
* `ReplicaPolicy.StackConfig.Accounts` — the definition of a stack accounts for a verdict.

## Main results

* `ReplicaPolicy.RuleConfig.explains_of_build` — a rule decides as its definition explains.
* `ReplicaPolicy.StackConfig.verdict_accounted` — its definition accounts for every verdict of a
  stack.
-/

namespace ReplicaPolicy

/-- The definition of a rule explains the decision that the rule takes on a replica. -/
inductive RuleConfig.Explains (v : View) : RuleConfig → Rule → Decision → Prop
  /-- The definition names the decision: by its kind, or as that of a condition. -/
  | named {cfg : RuleConfig} {r : Rule} {decision : Decision}
      (names : cfg.decision? = some decision) : Explains v cfg r decision
  /-- The first entry of an action list that selects the replica has a word for the decision. -/
  | entry {name : Option String} {paths : List String} {entries : List ActionLine} {strict : Bool}
      {l : ActionList} {e : ActionEntry} (first : l.entries.find? (fun e => e.selects v) = some e) :
      Explains v (.actionList name paths entries strict) (.actionList l)
        (ActionEntry.decisionOf e.action)

/-- A rule decides as its definition explains.

**Proof sketch.** Where the definition names a decision, the rule can take no other. Otherwise it
is a list, and decides by its first entry that selects the replica. -/
theorem RuleConfig.explains_of_build {files : Files} {directory : String}
    {partition : Option String} {now : Instant} {cfg : RuleConfig} {r : Rule} {v : View}
    {demand : Demand} {w : Verdict} (h : cfg.build files directory partition now = .ok r)
    (hw : r.evaluate v demand = some w) : cfg.Explains v r w.decision := by
  have hp : r.position? v demand = some w.decision := by
    rw [Rule.position?, hw]
    rfl
  cases hd : cfg.decision? with
  | some decision =>
    rw [(RuleConfig.only_of_build hd h).eq_of_position? hp]
    exact .named hd
  | none =>
    obtain ⟨name, paths, entries, strict, l, rfl, rfl⟩ := RuleConfig.actionList_of_build hd h
    rw [Rule.position?_actionList] at hp
    obtain ⟨e, he, hw⟩ := Option.map_eq_some_iff.1 hp
    rw [← hw, e.decision_eq]
    exact .entry he

namespace StackConfig

/-- The definition of a stack accounts for a verdict on a replica. -/
inductive Accounts (c : StackConfig) (s : PolicyStack) (v : View) (demand : Demand) : Verdict → Prop
  /-- No rule takes a position, and the verdict is the default with the reason for it. -/
  | byDefault (silent : ∀ r ∈ s.rules, r.evaluate v demand = none) :
      Accounts c s v demand ⟨c.default, PolicyStack.defaultReason, none⟩
  /-- A rule takes a position, none before it does, and the definition at its place explains the
  decision. The verdict is the position with the name of the rule. -/
  | byRule {i : ℕ} {cfg : RuleConfig} {r : Rule} {w : Verdict} (defined : c.rules[i]? = some cfg)
      (built : s.rules[i]? = some r)
      (silent : ∀ j < i, ∀ r' : Rule, s.rules[j]? = some r' → r'.evaluate v demand = none)
      (taken : r.evaluate v demand = some w) (explained : cfg.Explains v r w.decision) :
      Accounts c s v demand { w with rule := some r.name }

/-- **No verdict is unexplained**: the definition from which a stack was built accounts for all
its verdicts.

**Proof sketch.** The first rule that takes a position has a definition at its place, which is
built into it, and so explains the decision. -/
theorem verdict_accounted {files : Files} {now : Instant} {c : StackConfig} {s : PolicyStack}
    (h : c.build files now = .ok s) (v : View) (demand : Demand) :
    c.Accounts s v demand (s.evaluate v demand) := by
  rcases s.evaluate_cases v demand with ⟨hs, hr⟩ | ⟨before, r, after, w, hrules, hbefore, hw, hs⟩
  · obtain ⟨-, -, hdefault, -⟩ := build_eq_ok_iff.1 h
    rw [hs, hdefault]
    exact .byDefault hr
  · have hi : s.rules[before.length]? = some r := by
      rw [hrules, List.getElem?_append_right (Nat.le_refl _), Nat.sub_self]
      rfl
    obtain ⟨cfg, hcfg, hbuild⟩ := exists_config_of_build h hi
    rw [hs]
    refine .byRule hcfg hi ?_ hw (RuleConfig.explains_of_build hbuild hw)
    intro j hj r' hr'
    rw [hrules, List.getElem?_append_left hj] at hr'
    exact hbefore r' (List.mem_of_getElem? hr')

/-- A list that keeps some datasets stands before the deletion of deprecated ones and of all that is
at sites out of service: the definition accounts for all verdicts. -/
theorem verdict_accounted_keep_deprecated :
    ∃ s, (ofRules .protect [.actionList none [] [⟨"Keep", "T1_*", "/*/*/RECO"⟩] false,
        .deleteDeprecated, .condition "site.status != READY" .delete none]).build
          (fun _ => none) ⟨0, 0⟩ = .ok s ∧
      ∀ v demand, (ofRules .protect [.actionList none [] [⟨"Keep", "T1_*", "/*/*/RECO"⟩] false,
        .deleteDeprecated, .condition "site.status != READY" .delete none]).Accounts s v demand
          (s.evaluate v demand) := by
  have hb : ((ofRules .protect [.actionList none [] [⟨"Keep", "T1_*", "/*/*/RECO"⟩] false,
      .deleteDeprecated, .condition "site.status != READY" .delete none]).build
        (fun _ => none) ⟨0, 0⟩).isOk = true := by decide
  obtain ⟨s, hs⟩ := exists_of_isOk hb
  exact ⟨s, hs, verdict_accounted hs⟩

end StackConfig

end ReplicaPolicy
