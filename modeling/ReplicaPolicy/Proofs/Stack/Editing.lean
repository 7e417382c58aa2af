import ReplicaPolicy.Proofs.Stack.Position

set_option relaxedAutoImplicit false
set_option autoImplicit false

/-!
# Editing stacks

A stack is edited: an entry is put in, entries are put in another order, an entry that stands there
already is taken out. What can be edited without looking at the rest of the stack are entries that
can only go one way. Put in anywhere, such an entry turns no decision away from its own. Among
themselves, such entries can be put in any order, and no decision changes. An entry that repeats an
earlier one, of whatever kind, is never heard.

## Main definitions

* `ReplicaPolicy.Decision.Leans` — a position becomes a decision, or stays.
* `ReplicaPolicy.PolicyStack.Gains` — an entry that can only go one way is put into a stack.
* `ReplicaPolicy.PolicyStack.Reorders` — a block of such rules is put in another order.
* `ReplicaPolicy.PolicyStack.DropsRepetition` — a rule that stands there already is taken out.

## Main results

* `ReplicaPolicy.PolicyStack.firstPosition?_leans` — where a part of a stack leans, the stack does.
* `ReplicaPolicy.PolicyStack.keeps_decision_of_gains` — what is put in turns no decision away.
* `ReplicaPolicy.PolicyStack.firstPosition?_eq_of_mem_iff` — rules that can only go one way count as
  a set.
* `ReplicaPolicy.PolicyStack.evaluate_of_tidying` — the order within a block and repetitions do not
  count.

## Design

An edit changes a part of a stack, or of a list that is a part of it. What it does to the position
of that part is said first, and is then carried to the whole stack by one lemma on what stands
around the part.
-/

namespace ReplicaPolicy

/-! ## Leaning -/

/-- A position leans towards a decision: it stays, or it becomes that decision. -/
inductive Decision.Leans (decision : Decision) (p : Option Decision) : Option Decision → Prop
  /-- The position stays. -/
  | stays : Leans decision p p
  /-- Whatever the position was, it becomes the decision. -/
  | becomes : Leans decision p (some decision)

namespace Decision.Leans

variable {decision : Decision} {p p' : Option Decision}

/-- Where a position leans that falls back on a default, so does what comes of it. -/
lemma getD_eq (h : Leans decision p p') (default : Decision) :
    p'.getD default = decision ∨ p'.getD default = p.getD default := by
  cases h with
  | stays => exact .inr rfl
  | becomes => exact .inl rfl

/-- A position that leans does so between an earlier and a later one too: an earlier one that is
taken hides it, and a later one is hidden by it. -/
lemma between (h : Leans decision p p') (front back : Option Decision) :
    Leans decision ((front.or p).or back) ((front.or p').or back) := by
  cases h with
  | stays => exact .stays
  | becomes =>
    -- an earlier position hides the edit
    cases front with
    | none => exact .becomes
    | some earlier => exact .stays

end Decision.Leans

namespace Rule

variable {decision : Decision}

/-- The position of a rule that can only go one way leans that way from none. -/
lemma Only.leans {r : Rule} (h : Only decision r) (v : View) (demand : Demand) :
    Decision.Leans decision none (r.position? v demand) := by
  cases hp : r.position? v demand with
  | none => exact .stays
  | some taken =>
    rw [h.eq_of_position? hp]
    exact .becomes

/-- An entry that is put into an action list makes the position of the list lean to its decision.

**Proof sketch.** An earlier entry that selects the replica decides as before. Where there is none,
the new entry decides if it selects the replica, and else the later ones do as before. -/
lemma leans_of_entry {e : ActionEntry} (h : ActionEntry.decisionOf e.action = decision)
    (name : String) (front back : List ActionEntry) (v : View) (demand : Demand) :
    Decision.Leans decision ((actionList ⟨name, front ++ back⟩).position? v demand)
      ((actionList ⟨name, front ++ e :: back⟩).position? v demand) := by
  rw [position?_actionList, position?_actionList, List.find?_append, List.find?_append]
  cases front.find? fun e => e.selects v with
  | some earlier => exact .stays
  | none =>
    cases hs : e.selects v with
    | false =>
      rw [List.find?_cons_of_neg (by simp [hs])]
      exact .stays
    | true =>
      have hdecision : e.decision = decision := e.decision_eq.trans h
      rw [List.find?_cons_of_pos (by exact hs), ← hdecision]
      exact .becomes

end Rule

namespace PolicyStack

variable {decision : Decision} {v : View} {demand : Demand}

/-- **Where the position of a part of a stack leans, that of the stack does**, whatever comes before
the part and after it. -/
theorem firstPosition?_leans {rules rules' : List Rule}
    (h : Decision.Leans decision (firstPosition? rules v demand) (firstPosition? rules' v demand))
    (before after : List Rule) :
    Decision.Leans decision (firstPosition? (before ++ rules ++ after) v demand)
      (firstPosition? (before ++ rules' ++ after) v demand) := by
  simp only [firstPosition?_append]
  exact h.between _ _

/-! ## Putting entries in -/

/-- An entry that can only take one decision is put into a stack: a rule of that kind anywhere among
the rules, or an entry with a word for the decision anywhere in an action list. -/
inductive Gains (decision : Decision) : PolicyStack → PolicyStack → Prop
  /-- A rule is put in. -/
  | rule {name : String} {default : Decision} {before after : List Rule} {r : Rule}
      (only : Rule.Only decision r) :
      Gains decision ⟨name, before ++ after, default⟩ ⟨name, before ++ r :: after, default⟩
  /-- An entry is put into an action list. -/
  | entry {name : String} {default : Decision} {before after : List Rule} {list : String}
      {front back : List ActionEntry} {e : ActionEntry}
      (word : ActionEntry.decisionOf e.action = decision) :
      Gains decision ⟨name, before ++ .actionList ⟨list, front ++ back⟩ :: after, default⟩
        ⟨name, before ++ .actionList ⟨list, front ++ e :: back⟩ :: after, default⟩

/-- A stack that gains an entry takes the decision of that entry, or decides as it did.

**Proof sketch.** The position of the part that is edited leans to the decision: from none for a
rule, and from the position of the list for an entry. So does the first position of the stack. -/
lemma decision_of_gains {s s' : PolicyStack} (h : s.Gains decision s') (v : View)
    (demand : Demand) :
    (s'.evaluate v demand).decision = decision ∨
      (s'.evaluate v demand).decision = (s.evaluate v demand).decision := by
  rw [decision_evaluate, decision_evaluate]
  cases h with
  | @rule name default before after r only =>
    have hpart : Decision.Leans decision (firstPosition? [] v demand)
        (firstPosition? [r] v demand) := by
      rw [firstPosition?_singleton]
      exact only.leans v demand
    have hstack := firstPosition?_leans hpart before after
    simp only [List.append_nil, List.append_assoc, List.singleton_append] at hstack
    exact hstack.getD_eq default
  | @entry name default before after list front back e word =>
    have hpart : Decision.Leans decision
        (firstPosition? [.actionList ⟨list, front ++ back⟩] v demand)
        (firstPosition? [.actionList ⟨list, front ++ e :: back⟩] v demand) := by
      rw [firstPosition?_singleton, firstPosition?_singleton]
      exact Rule.leans_of_entry word list front back v demand
    have hstack := firstPosition?_leans hpart before after
    simp only [List.append_assoc, List.singleton_append] at hstack
    exact hstack.getD_eq default

/-- **What is put into a stack turns no decision away from its own.** An entry that can only
protect, put in anywhere, leaves protected what was, so that nothing is deleted that was not; and
likewise an entry that can only delete leaves deleted what was. -/
theorem keeps_decision_of_gains {s s' : PolicyStack} (h : s.Gains decision s') :
    (∀ v demand, (s.evaluate v demand).decision = decision →
      (s'.evaluate v demand).decision = decision) ∧
    ∀ v demand, (s'.evaluate v demand).decision = decision.opposite →
      (s.evaluate v demand).decision = decision.opposite := by
  have hopposite : decision ≠ decision.opposite := by cases decision <;> decide
  constructor
  · intro v demand hs
    rcases decision_of_gains h v demand with hown | hstays
    · exact hown
    · exact hstays.trans hs
  · intro v demand hs'
    rcases decision_of_gains h v demand with hown | hstays
    · exact absurd (hown.symm.trans hs') hopposite
    · exact hstays.symm.trans hs'

/-- A list deletes everything, and a line is put in front that keeps what is at one site. The
custodial replica there stays protected; the replica elsewhere is deleted, and was before. -/
theorem keeps_decision_of_gains_keep_line :
    Gains .protect
        ⟨"policy", [.protection .custodial, .actionList ⟨"list",
          [⟨.delete, ⟨"*", [.anyRun]⟩, ⟨"*", [.anyRun]⟩, "Delete", rfl⟩]⟩], .protect⟩
        ⟨"policy", [.protection .custodial, .actionList ⟨"list",
          [⟨.protect, ⟨"T1", [.literal 'T', .literal '1']⟩, ⟨"*", [.anyRun]⟩, "Keep", rfl⟩,
            ⟨.delete, ⟨"*", [.anyRun]⟩, ⟨"*", [.anyRun]⟩, "Delete", rfl⟩]⟩], .protect⟩ ∧
      (evaluate ⟨"policy", [.protection .custodial, .actionList ⟨"list",
          [⟨.protect, ⟨"T1", [.literal 'T', .literal '1']⟩, ⟨"*", [.anyRun]⟩, "Keep", rfl⟩,
            ⟨.delete, ⟨"*", [.anyRun]⟩, ⟨"*", [.anyRun]⟩, "Delete", rfl⟩]⟩], .protect⟩
        ⟨.ofName "RAW" ⟨0, 0⟩, { Replica.ofSite "T1" ⟨0, 0⟩ with isCustodial := true },
          .ofName "T1"⟩ .default).decision = .protect ∧
      (evaluate ⟨"policy", [.protection .custodial, .actionList ⟨"list",
          [⟨.delete, ⟨"*", [.anyRun]⟩, ⟨"*", [.anyRun]⟩, "Delete", rfl⟩]⟩], .protect⟩
        ⟨.ofName "RAW" ⟨0, 0⟩, .ofSite "T2" ⟨0, 0⟩, .ofName "T2"⟩ .default).decision = .delete := by
  have hgains := @Gains.entry .protect "policy" .protect [.protection .custodial] [] "list" []
    [⟨.delete, ⟨"*", [.anyRun]⟩, ⟨"*", [.anyRun]⟩, "Delete", rfl⟩]
    ⟨.protect, ⟨"T1", [.literal 'T', .literal '1']⟩, ⟨"*", [.anyRun]⟩, "Keep", rfl⟩ rfl
  obtain ⟨hkept, hdeleted⟩ := keeps_decision_of_gains hgains
  exact ⟨hgains, hkept _ _ (by decide), hdeleted _ _ (by decide)⟩

/-! ## Putting rules in another order -/

/-- **Rules that can only take one decision count as a set**: their first position depends neither
on their order nor on repetitions.

**Proof sketch.** The same rules are silent on both sides. Where one of them is not, the first
position is taken on both sides, and it is the one decision that all of them can take. -/
theorem firstPosition?_eq_of_mem_iff {rules rules' : List Rule}
    (h : ∀ r ∈ rules, Rule.Only decision r) (hmem : ∀ r, r ∈ rules' ↔ r ∈ rules) (v : View)
    (demand : Demand) :
    firstPosition? rules' v demand = firstPosition? rules v demand := by
  have h' : ∀ r ∈ rules', Rule.Only decision r := fun r hr => h r ((hmem r).1 hr)
  have hsilent : firstPosition? rules' v demand = none ↔ firstPosition? rules v demand = none := by
    simp only [firstPosition?, List.findSome?_eq_none_iff, hmem]
  cases hp : firstPosition? rules v demand with
  | none => exact hsilent.2 hp
  | some taken =>
    cases hp' : firstPosition? rules' v demand with
    | none => exact absurd (hp.symm.trans (hsilent.1 hp')) (by simp)
    | some taken' => rw [firstPosition?_of_only h hp, firstPosition?_of_only h' hp']

/-- A block of rules that can all only take one decision is put in another order. -/
inductive Reorders : PolicyStack → PolicyStack → Prop
  /-- The block stands somewhere in the stack, and the rules around it stay where they are. -/
  | block {name : String} {default decision : Decision} {before rules rules' after : List Rule}
      (only : ∀ r ∈ rules, Rule.Only decision r) (order : rules.Perm rules') :
      Reorders ⟨name, before ++ rules ++ after, default⟩ ⟨name, before ++ rules' ++ after, default⟩

/-- The order within a block of rules that can only go one way does not count. -/
lemma decision_of_reorders {s s' : PolicyStack} (h : s.Reorders s') (v : View) (demand : Demand) :
    (s'.evaluate v demand).decision = (s.evaluate v demand).decision := by
  cases h with
  | block only order =>
    have hblock := firstPosition?_eq_of_mem_iff only (fun _ => order.mem_iff.symm) v demand
    rw [decision_evaluate, decision_evaluate]
    simp only [firstPosition?_append, hblock]

/-! ## Taking repetitions out -/

/-- A rule is taken out that stands in the stack already, at an earlier place. -/
inductive DropsRepetition : PolicyStack → PolicyStack → Prop
  /-- The rules around both places are of any kind. -/
  | rule {name : String} {default : Decision} {before between after : List Rule} (r : Rule) :
      DropsRepetition ⟨name, before ++ r :: (between ++ r :: after), default⟩
        ⟨name, before ++ r :: (between ++ after), default⟩

/-- The verdict of a rule comes before those of the rules after it. -/
lemma firstVerdict?_cons (r : Rule) (rules : List Rule) (v : View) (demand : Demand) :
    firstVerdict? (r :: rules) v demand =
      (signed? r v demand).or (firstVerdict? rules v demand) := by
  rw [firstVerdict?, List.findSome?_cons]
  cases signed? r v demand <;> rfl

/-- A rule that stands in the stack already is never heard: where it would take a position, the
earlier one has taken it. -/
lemma evaluate_of_dropsRepetition {s s' : PolicyStack} (h : s.DropsRepetition s') (v : View)
    (demand : Demand) : s'.evaluate v demand = s.evaluate v demand := by
  cases h with
  | rule r =>
    rw [evaluate, evaluate]
    simp only [firstVerdict?_append, firstVerdict?_cons]
    cases signed? r v demand with
    | none => simp only [Option.none_or]
    | some w => simp only [Option.some_or]

/-- **A stack can be tidied up.** A block of rules that can all only take one decision may be put in
any order without changing a decision, and a rule that stands in the stack already may be taken out
without changing a verdict. -/
theorem evaluate_of_tidying (s : PolicyStack) :
    (∀ s', s.Reorders s' → ∀ v demand,
      (s'.evaluate v demand).decision = (s.evaluate v demand).decision) ∧
    ∀ s', s.DropsRepetition s' → ∀ v demand, s'.evaluate v demand = s.evaluate v demand :=
  ⟨fun _ h => decision_of_reorders h, fun _ h => evaluate_of_dropsRepetition h⟩

/-- Of two protections in front of a deletion either may come first, although the reason is another
one then; and the first of them need not be repeated at the end. -/
theorem evaluate_of_tidying_custodial :
    Reorders
        ⟨"policy", [.protection .custodial, .protection .diskOnly, .deletion .deprecated,
          .protection .custodial], .delete⟩
        ⟨"policy", [.protection .diskOnly, .protection .custodial, .deletion .deprecated,
          .protection .custodial], .delete⟩ ∧
      DropsRepetition
        ⟨"policy", [.protection .custodial, .protection .diskOnly, .deletion .deprecated,
          .protection .custodial], .delete⟩
        ⟨"policy", [.protection .custodial, .protection .diskOnly, .deletion .deprecated],
          .delete⟩ ∧
      (∀ v demand,
        (evaluate ⟨"policy", [.protection .diskOnly, .protection .custodial, .deletion .deprecated,
          .protection .custodial], .delete⟩ v demand).decision =
        (evaluate ⟨"policy", [.protection .custodial, .protection .diskOnly, .deletion .deprecated,
          .protection .custodial], .delete⟩ v demand).decision) ∧
      ∀ v demand,
        evaluate ⟨"policy", [.protection .custodial, .protection .diskOnly, .deletion .deprecated],
          .delete⟩ v demand =
        evaluate ⟨"policy", [.protection .custodial, .protection .diskOnly, .deletion .deprecated,
          .protection .custodial], .delete⟩ v demand := by
  have honly : ∀ r ∈ [Rule.protection .custodial, .protection .diskOnly],
      Rule.Only .protect r := by
    intro r hr
    rcases List.mem_cons.1 hr with rfl | hr
    · exact .protection _
    · obtain rfl := List.mem_singleton.1 hr
      exact .protection _
  have horder := @Reorders.block "policy" .delete .protect [] _ _
    [.deletion .deprecated, .protection .custodial] honly (.swap _ _ [])
  have hdrops := @DropsRepetition.rule "policy" .delete []
    [.protection .diskOnly, .deletion .deprecated] [] (.protection .custodial)
  obtain ⟨hreorders, hrepetition⟩ := evaluate_of_tidying ⟨"policy", [.protection .custodial,
    .protection .diskOnly, .deletion .deprecated, .protection .custodial], .delete⟩
  exact ⟨horder, hdrops, hreorders _ horder, hrepetition _ hdrops⟩

end PolicyStack

end ReplicaPolicy
