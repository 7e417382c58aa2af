import ReplicaPolicy.Proofs.Age.Passing
import ReplicaPolicy.Proofs.Config.Build

set_option relaxedAutoImplicit false
set_option autoImplicit false

/-!
# Stacks as time passes

Rules that look at ages are built with a cutoff that moves on with time. Then protections by age
apply to fewer replicas and deletions by age to more, while all other rules stay as they are. So
what a stack decides to delete, the stack built from the same definition at a later time decides to
delete too.

## Main definitions

* `ReplicaPolicy.Decision.Hardens` — a position turns from protection towards deletion, or stays.
* `ReplicaPolicy.Rule.Hardens` — so does the position of a rule on every replica.

## Main results

* `ReplicaPolicy.RuleConfig.hardens_of_build` — rules that are built later harden.
* `ReplicaPolicy.PolicyStack.firstPosition?_hardens` — where the rules harden, the first position
  does.
* `ReplicaPolicy.StackConfig.delete_of_later` — what is deleted is deleted later.

## Design

The positions of the rules are ordered: protection comes first, then no position, then deletion.
The first position is monotone in the positions of all rules, although it may be taken by different
rules before and after: an earlier rule that no longer protects leaves the decision to the next
ones, and an earlier rule that comes to delete takes it from them.
-/

namespace ReplicaPolicy

/-! ## Hardening -/

/-- A position hardens: it stays, or it was to protect, or it comes to be to delete. -/
inductive Decision.Hardens : Option Decision → Option Decision → Prop
  /-- The position stays. -/
  | refl (p : Option Decision) : Hardens p p
  /-- Whatever follows protection is no milder. -/
  | ofProtect (p : Option Decision) : Hardens (some .protect) p
  /-- Whatever comes before deletion is no harsher. -/
  | toDelete (p : Option Decision) : Hardens p (some .delete)

/-- Where a position hardens that falls back on a default, deletion stays deletion. -/
lemma Decision.Hardens.getD_eq_delete {p p' : Option Decision} (h : Decision.Hardens p p')
    {default : Decision} (hp : p.getD default = .delete) : p'.getD default = .delete := by
  cases h with
  | refl p => exact hp
  | ofProtect p =>
    have hkeep : Decision.protect = .delete := hp
    exact absurd hkeep (by decide)
  | toDelete p => rfl

namespace Rule

/-- The position of a rule on every replica hardens. -/
def Hardens (r r' : Rule) : Prop :=
  ∀ v demand, Decision.Hardens (r.position? v demand) (r'.position? v demand)

/-- A rule that does not change hardens. -/
lemma Hardens.refl (r : Rule) : r.Hardens r :=
  fun _ _ => .refl _

/-- A protection that applies to fewer replicas hardens. -/
lemma hardens_protection {p p' : Protection}
    (h : ∀ v demand, p'.applies v demand = true → p.applies v demand = true) :
    (protection p).Hardens (protection p') := by
  intro v demand
  rw [position?_protection, position?_protection]
  by_cases hp : p.applies v demand = true
  · rw [if_pos hp]
    exact .ofProtect _
  · have hp' : ¬p'.applies v demand = true := fun hp' => hp (h v demand hp')
    rw [if_neg hp, if_neg hp']
    exact .refl none

/-- A deletion that applies to more replicas hardens. -/
lemma hardens_deletion {d d' : Deletion}
    (h : ∀ v demand, d.applies v demand = true → d'.applies v demand = true) :
    (deletion d).Hardens (deletion d') := by
  intro v demand
  rw [position?_deletion, position?_deletion]
  by_cases hd : d.applies v demand = true
  · rw [if_pos hd, if_pos (h v demand hd)]
    exact .refl _
  · rw [if_neg hd]
    split
    · exact .toDelete none
    · exact .refl none

end Rule

namespace PolicyStack

/-- **Where the rules of a stack harden, the first position does.**

**Proof sketch.** Induction on the rules. Where the position of the first rule stays, it decides in
both stacks or in neither. Where it was to protect, or comes to be to delete, so is the first
position. -/
theorem firstPosition?_hardens {rules rules' : List Rule}
    (h : List.Forall₂ Rule.Hardens rules rules') (v : View) (demand : Demand) :
    Decision.Hardens (firstPosition? rules v demand) (firstPosition? rules' v demand) := by
  induction h with
  | nil => exact .refl none
  | @cons r r' rules rules' hr _ ih =>
    have hpos := hr v demand
    generalize hp : r.position? v demand = p at hpos
    generalize hp' : r'.position? v demand = p' at hpos
    cases hpos with
    | refl p =>
      cases p with
      | none =>
        rw [firstPosition?_cons_of_none hp, firstPosition?_cons_of_none hp']
        exact ih
      | some decision =>
        rw [firstPosition?_cons_of_some hp, firstPosition?_cons_of_some hp']
        exact .refl _
    | ofProtect p =>
      rw [firstPosition?_cons_of_some hp]
      exact .ofProtect _
    | toDelete p =>
      rw [firstPosition?_cons_of_some hp']
      exact .toDelete _

end PolicyStack

/-! ## Rules by age -/

section Rules

variable {now later : Instant}

/-- The protection of what is newer than an age applies to fewer replicas later. -/
lemma Protection.newerThan_later (h : now.Passes later) {age : Age} {p : Protection}
    (hp : newerThan age now = .ok p) :
    ∃ p', newerThan age later = .ok p' ∧
      ∀ v demand, p'.applies v demand = true → p.applies v demand = true := by
  obtain ⟨t, ht, rfl⟩ := except_map_eq_ok_iff.1 hp
  obtain ⟨t', ht', hle⟩ := h.before ht
  refine ⟨.newDiskOnly t', except_map_eq_ok_iff.2 ⟨t', ht', rfl⟩, ?_⟩
  intro v demand happlies
  obtain ⟨htape, hnew⟩ := Bool.and_eq_true_iff.1 happlies
  have hnew' : t < v.replica.lastBlockCreated := lt_of_le_of_lt hle (of_decide_eq_true hnew)
  exact Bool.and_eq_true_iff.2 ⟨htape, decide_eq_true hnew'⟩

namespace Deletion

/-- The deletion by name of what is older than an age applies to more replicas later. -/
lemma ofNameAndAge_later (h : now.Passes later) {age : Age} {pattern : String}
    {update : UpdateTime} {d : Deletion} (hd : ofNameAndAge age pattern update now = .ok d) :
    ∃ d', ofNameAndAge age pattern update later = .ok d' ∧
      ∀ v demand, d.applies v demand = true → d'.applies v demand = true := by
  obtain ⟨c, hc, hd⟩ := except_bind_eq_ok_iff.1 hd
  obtain ⟨g, hg, hd⟩ := except_bind_eq_ok_iff.1 hd
  obtain rfl := Except.ok.inj hd
  obtain ⟨c', hc', hle⟩ := h.cutoff hc
  refine ⟨.olderThan c' g update, ?_, ?_⟩
  · exact except_bind_eq_ok_iff.2 ⟨c', hc', except_bind_eq_ok_iff.2 ⟨g, hg, rfl⟩⟩
  · intro v demand happlies
    obtain ⟨hname, hold⟩ := Bool.and_eq_true_iff.1 happlies
    have hold' : (update.of v).date < c'.date := lt_of_lt_of_le (of_decide_eq_true hold) hle
    exact Bool.and_eq_true_iff.2 ⟨hname, decide_eq_true hold'⟩

/-- What was accessed after a day was accessed after any earlier one. -/
lemma accessedAfter_of_le {r : Replica} {date date' : Date} (hle : date ≤ date')
    (h : accessedAfter r date' = true) : accessedAfter r date = true := by
  obtain ⟨channel, hchannel, hany⟩ := List.any_eq_true.1 h
  obtain ⟨last, hlast, hafter⟩ := (Option.any_eq_true _ _).1 hany
  have hafter' : date < last := lt_of_le_of_lt hle (of_decide_eq_true hafter)
  have hany' : (r.lastAccess? channel).any (fun last => date < last) = true :=
    (Option.any_eq_true _ _).2 ⟨last, hlast, decide_eq_true hafter'⟩
  exact List.any_eq_true.2 ⟨channel, hchannel, hany'⟩

/-- The deletion of what was not accessed for an age applies to more replicas later. -/
lemma ofIdleAge_later (h : now.Passes later) {age : Age} {d : Deletion}
    (hd : ofIdleAge age now = .ok d) :
    ∃ d', ofIdleAge age later = .ok d' ∧
      ∀ v demand, d.applies v demand = true → d'.applies v demand = true := by
  obtain ⟨c, hc, rfl⟩ := ofIdleAge_ok_iff.1 hd
  obtain ⟨c', hc', hle⟩ := h.cutoff hc
  refine ⟨.notAccessedFor c', ofIdleAge_ok_iff.2 ⟨c', hc', rfl⟩, ?_⟩
  intro v demand happlies
  obtain ⟨hold, hidle⟩ := Bool.and_eq_true_iff.1 happlies
  have hold' : v.replica.lastBlockCreated.date ≤ c'.date := le_trans (of_decide_eq_true hold) hle
  refine Bool.and_eq_true_iff.2 ⟨decide_eq_true hold', ?_⟩
  rcases Bool.or_eq_true_iff.1 hidle with hnever | hbefore
  · exact Bool.or_eq_true_iff.2 (.inl hnever)
  · refine Bool.or_eq_true_iff.2 (.inr ?_)
    rw [Bool.not_eq_true'] at hbefore ⊢
    rw [← Bool.not_eq_true] at hbefore ⊢
    exact fun hafter => hbefore (accessedAfter_of_le hle hafter)

/-- The deletion of what is old and was never accessed applies to more replicas later. -/
lemma ofAges_later (h : now.Passes later) {datasetDays replicaDays : Float} {d : Deletion}
    (hd : ofAges datasetDays replicaDays now = .ok d) :
    ∃ d', ofAges datasetDays replicaDays later = .ok d' ∧
      ∀ v demand, d.applies v demand = true → d'.applies v demand = true := by
  obtain ⟨t, ht, hd⟩ := except_bind_eq_ok_iff.1 hd
  obtain ⟨u, hu, hd⟩ := except_bind_eq_ok_iff.1 hd
  obtain rfl := Except.ok.inj hd
  obtain ⟨t', ht', hle⟩ := h.before ht
  obtain ⟨u', hu', hle'⟩ := h.before hu
  refine ⟨.oldUnused t' u', ?_, ?_⟩
  · exact except_bind_eq_ok_iff.2 ⟨t', ht', except_bind_eq_ok_iff.2 ⟨u', hu', rfl⟩⟩
  · intro v demand happlies
    obtain ⟨hold, hnever⟩ := Bool.and_eq_true_iff.1 happlies
    obtain ⟨hdataset, hreplica⟩ := Bool.and_eq_true_iff.1 hold
    have hdataset' : v.dataset.lastUpdate ≤ t' := le_trans (of_decide_eq_true hdataset) hle
    have hreplica' : v.replica.lastBlockCreated ≤ u' :=
      le_trans (of_decide_eq_true hreplica) hle'
    refine Bool.and_eq_true_iff.2 ⟨Bool.and_eq_true_iff.2 ⟨?_, ?_⟩, hnever⟩
    · exact decide_eq_true hdataset'
    · exact decide_eq_true hreplica'

end Deletion

/-- **Rules that are built later harden**: a rule that could be built can be built later, and its
position on every replica hardens.

**Proof sketch.** By the kind of the definition. Only four kinds look at the time; a rule of any
other kind is built the same. -/
theorem RuleConfig.hardens_of_build (h : now.Passes later) {files : Files} {directory : String}
    {partition : Option String} {cfg : RuleConfig} {r : Rule}
    (hr : cfg.build files directory partition now = .ok r) :
    ∃ r', cfg.build files directory partition later = .ok r' ∧ r.Hardens r' := by
  cases cfg with
  | protectNewDiskOnly age =>
    obtain ⟨p, hp, rfl⟩ := except_map_eq_ok_iff.1 hr
    obtain ⟨p', hp', hfewer⟩ := Protection.newerThan_later h hp
    exact ⟨_, except_map_eq_ok_iff.2 ⟨p', hp', rfl⟩, Rule.hardens_protection hfewer⟩
  | deleteByNameOlderThan age pattern update =>
    obtain ⟨d, hd, rfl⟩ := except_map_eq_ok_iff.1 hr
    obtain ⟨d', hd', hmore⟩ := Deletion.ofNameAndAge_later h hd
    exact ⟨_, except_map_eq_ok_iff.2 ⟨d', hd', rfl⟩, Rule.hardens_deletion hmore⟩
  | deleteNotAccessedFor age =>
    obtain ⟨d, hd, rfl⟩ := except_map_eq_ok_iff.1 hr
    obtain ⟨d', hd', hmore⟩ := Deletion.ofIdleAge_later h hd
    exact ⟨_, except_map_eq_ok_iff.2 ⟨d', hd', rfl⟩, Rule.hardens_deletion hmore⟩
  | deleteOldUnused datasetDays replicaDays =>
    obtain ⟨d, hd, rfl⟩ := except_map_eq_ok_iff.1 hr
    obtain ⟨d', hd', hmore⟩ := Deletion.ofAges_later h hd
    exact ⟨_, except_map_eq_ok_iff.2 ⟨d', hd', rfl⟩, Rule.hardens_deletion hmore⟩
  | _ => exact ⟨r, hr, .refl r⟩

end Rules

/-! ## Stacks -/

namespace StackConfig

/-- Rules that are built one by one can be built later, and harden one by one. -/
lemma forall₂_hardens_of_build {now later : Instant} (h : now.Passes later) {files : Files}
    {c : StackConfig} {cfgs : List RuleConfig} {rules : List Rule}
    (hr : List.Forall₂ (fun cfg r => c.buildRule files now cfg = .ok r) cfgs rules) :
    ∃ rules', List.Forall₂ (fun cfg r => c.buildRule files later cfg = .ok r) cfgs rules' ∧
      List.Forall₂ Rule.Hardens rules rules' := by
  induction hr with
  | nil => exact ⟨[], .nil, .nil⟩
  | cons hr _ ih =>
    obtain ⟨r', hr', hhard⟩ := RuleConfig.hardens_of_build h hr
    obtain ⟨rules', hrules', hhards⟩ := ih
    exact ⟨r' :: rules', .cons hr' hrules', .cons hhard hhards⟩

/-- **What is deleted is deleted later.** Where a stack can be built from a definition at some time,
it can be built at any later time, and the later stack decides to delete every replica that the
earlier one decides to delete. Neither time lies within a leap second; like every time that is
given, the later one can be told.

**Proof sketch.** The rules of the stack harden one by one, so the first position does, and a
decision to delete, taken by a rule or by default, stays one. -/
theorem delete_of_later {files : Files} {now later : Instant} {c : StackConfig} {s : PolicyStack}
    (hle : now ≤ later) (hnow : now.isLeap = false) (hlater : later.isLeap = false)
    (hrange : later.InRange) (hs : c.build files now = .ok s) :
    ∃ s', c.build files later = .ok s' ∧
      ∀ v demand, (s.evaluate v demand).decision = .delete →
        (s'.evaluate v demand).decision = .delete := by
  have hpasses : now.Passes later := ⟨hle, hnow, hlater, hrange⟩
  obtain ⟨hcheck, hname, hdefault, hrules⟩ := build_eq_ok_iff.1 hs
  obtain ⟨rules', hrules', hhards⟩ := forall₂_hardens_of_build hpasses hrules
  refine ⟨⟨c.name, rules', c.default⟩, ?_, ?_⟩
  · exact build_eq_ok_iff.2 ⟨hcheck, rfl, rfl, hrules'⟩
  · intro v demand hdelete
    have hfirst := PolicyStack.firstPosition?_hardens hhards v demand
    rw [PolicyStack.decision_evaluate, hdefault] at hdelete
    rw [PolicyStack.decision_evaluate]
    exact hfirst.getD_eq_delete hdelete

/-- A replica from 1970 that was never accessed is decided to be deleted at the start of 2025, and
so it is at the start of 2026. -/
theorem delete_of_later_never_accessed :
    ∃ s', (ofRules .protect [.protectNewDiskOnly ⟨30.0, .days⟩,
        .deleteNotAccessedFor ⟨1.0, .years⟩]).build (fun _ => none) ⟨1767225600, 0⟩ = .ok s' ∧
      (s'.evaluate ⟨.ofName "/A/B/RAW" ⟨0, 0⟩, .ofSite "T1" ⟨0, 0⟩, .ofName "T1"⟩
        .default).decision = .delete := by
  have hnow : ((ofRules .protect [.protectNewDiskOnly ⟨30.0, .days⟩,
      .deleteNotAccessedFor ⟨1.0, .years⟩]).build (fun _ => none) ⟨1735689600, 0⟩).toOption.map
        (fun s => (s.evaluate ⟨.ofName "/A/B/RAW" ⟨0, 0⟩, .ofSite "T1" ⟨0, 0⟩, .ofName "T1"⟩
          .default).decision) = some .delete := by decide +kernel
  have hle : (⟨1735689600, 0⟩ : Instant) ≤ ⟨1767225600, 0⟩ := by decide
  obtain ⟨s, hs, hdelete⟩ := Option.map_eq_some_iff.1 hnow
  obtain ⟨s', hs', hlater⟩ :=
    delete_of_later hle rfl rfl (by decide) (except_toOption_eq_some_iff.1 hs)
  exact ⟨s', hs', hlater _ _ hdelete⟩

end StackConfig

end ReplicaPolicy
