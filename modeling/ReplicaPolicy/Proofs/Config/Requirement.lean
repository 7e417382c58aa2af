import ReplicaPolicy.Proofs.Config.Build
import ReplicaPolicy.Proofs.Decimal.Order

set_option relaxedAutoImplicit false
set_option autoImplicit false

/-!
# Occupancy requirements of stacks

The definition of a stack may have an occupancy requirement. Then only the replicas at sites that
need cleaning are decided, and all that the requirement does is to select them: how they are decided
is told by the same definition without it. A requirement can also be refused. Its bounds are looked
at when the stack is built, but the glob of its sites is not, and that a definition can be built
does not mean that its requirement can.

## Main definitions

* `ReplicaPolicy.StackConfig.unrestricted` — a definition without its occupancy requirement.
* `ReplicaPolicy.StackConfig.Selects` — the replicas of an inventory that a definition decides.
* `ReplicaPolicy.SiteRequirement.restrict` — what belongs to replicas at sites that need cleaning.

## Main results

* `ReplicaPolicy.OccupancySettings.check_eq_ok_iff` — the bounds that are sound.
* `ReplicaPolicy.SiteRequirement.exists_ofSettings_iff`, `ofSettings_eq_error_iff` — the settings
  that make a requirement, and what is refused apart from the bounds.
* `ReplicaPolicy.StackConfig.build_eq_ok_iff_unrestricted` — building looks at the bounds only.
* `ReplicaPolicy.StackConfig.evaluate_eq_ok_iff_selects` — the decisions are those of the stack that
  is built, about the replicas that are selected.
* `ReplicaPolicy.StackConfig.evaluate_eq_ok_iff_restrict` — the decisions with a requirement are
  those without it, restricted.
* `ReplicaPolicy.StackConfig.evaluate_of_requirement` — a requirement selects among the decisions.
* `ReplicaPolicy.StackConfig.siteRequirement_of_build` — what can be refused after building.
-/

namespace ReplicaPolicy

/-! ## Settings -/

namespace OccupancySettings

/-- A bound is sound if it lies in the range from 0 to 1. -/
lemma checkBound_eq_ok_iff {bound : OccupancyBound} {value : Float} :
    checkBound bound value = .ok () ↔ 0.0 ≤ value ∧ value ≤ 1.0 := by
  unfold checkBound
  split <;> simp [*]

/-- **The bounds are sound exactly when they stand in order between 0 and 1**, the target before the
threshold. What is not a number stands nowhere.

**Proof sketch.** Of numbers, one is at most the other unless the other is less. That the threshold
is not negative and the target not above 1 follows from the order of all four. -/
theorem check_eq_ok_iff {s : OccupancySettings} :
    s.check = .ok () ↔ 0.0 ≤ s.target ∧ s.target ≤ s.threshold ∧ s.threshold ≤ 1.0 := by
  have hcheck : s.check = .ok () ↔ (0.0 ≤ s.threshold ∧ s.threshold ≤ 1.0) ∧
      (0.0 ≤ s.target ∧ s.target ≤ 1.0) ∧ ¬s.threshold < s.target := by
    rw [← @checkBound_eq_ok_iff .threshold, ← @checkBound_eq_ok_iff .target, check]
    cases checkBound .threshold s.threshold <;> cases checkBound .target s.target <;>
      simp [bind, Except.bind]
  rw [hcheck]
  constructor
  · rintro ⟨⟨hlow, hhigh⟩, ⟨hlow', -⟩, horder⟩
    -- what lies in a range is a number, and of two numbers one is at most the other
    have hthreshold := (Decimal.le_self_of_le hlow).2
    have htarget := (Decimal.le_self_of_le hlow').2
    exact ⟨hlow', (Decimal.le_iff_not_lt htarget hthreshold).2 horder, hhigh⟩
  · rintro ⟨hlow, horder, hhigh⟩
    obtain ⟨htarget, hthreshold⟩ := Decimal.le_self_of_le horder
    exact ⟨⟨Decimal.le_of_le_of_le hlow horder, hhigh⟩, ⟨hlow, Decimal.le_of_le_of_le horder hhigh⟩,
      (Decimal.le_iff_not_lt htarget hthreshold).1 horder⟩

end OccupancySettings

namespace SiteRequirement

/-- Of settings with sound bounds, a requirement is refused exactly when the glob of its sites
is. -/
theorem ofSettings_eq_error_iff {s : OccupancySettings} (h : s.check = .ok ()) {fault : Fault} :
    ofSettings s = .error fault ↔ ∃ text ∈ s.includedSites, Glob.compile text = .error fault := by
  unfold ofSettings
  rw [h]
  cases s.includedSites with
  | none => simp
  | some text => simp [except_map_eq_error_iff]

/-- There is a requirement with some settings exactly when the bounds are sound and the glob of the
sites compiles. -/
theorem exists_ofSettings_iff {s : OccupancySettings} :
    (∃ r, ofSettings s = .ok r) ↔
      s.check = .ok () ∧ ∀ text ∈ s.includedSites, ∃ g, Glob.compile text = .ok g := by
  cases h : s.check with
  | error reason => simp [ofSettings, h]
  | ok u =>
    unfold ofSettings
    rw [h]
    cases s.includedSites with
    | none => simp
    | some text => simp [except_map_eq_ok_iff]

/-! ## Selecting -/

variable {α : Type}

/-- Of some things, one for each replica of an inventory in order, those that belong to the replicas
at sites that need cleaning. -/
def restrict (r : SiteRequirement) (partition : String) (inv : Inventory) (things : List α) :
    List α :=
  ((inv.replicas.zip things).filter fun x => r.needsCleanup x.1.1.site partition .initial).map
    Prod.snd

/-- Things are left out and neither changed nor moved. -/
lemma restrict_sublist (r : SiteRequirement) (partition : String) {inv : Inventory}
    {things : List α} (h : things.length = inv.replicas.length) :
    (r.restrict partition inv things).Sublist things := by
  have hzip : (inv.replicas.zip things).map Prod.snd = things := List.map_snd_zip h.le
  have hfilter := List.filter_sublist (l := inv.replicas.zip things)
    (p := fun x => r.needsCleanup x.1.1.site partition .initial)
  calc
    (r.restrict partition inv things).Sublist ((inv.replicas.zip things).map Prod.snd) :=
      hfilter.map Prod.snd
    _ = things := hzip

/-- What is told of every replica is restricted to what is told of the selected ones. -/
lemma restrict_map (r : SiteRequirement) (partition : String) (inv : Inventory)
    (f : View × Demand → α) :
    r.restrict partition inv (inv.replicas.map f) =
      (StackConfig.selected r partition inv).map f := by
  rw [restrict, ← List.map_prod_left_eq_zip, List.filter_map, List.map_map]
  rfl

end SiteRequirement

/-- The site of a name that uses some of a quota of one hundred for a partition. -/
def Site.ofUse (name partition : String) (used : Float) : Site :=
  { Site.ofName name with partitions := .insert ∅ partition ⟨100, used⟩ }

/-! ## Stacks -/

namespace StackConfig

variable {files : Files} {now : Instant} {c : StackConfig} {settings : OccupancySettings}

/-- The definition without its occupancy requirement. -/
def unrestricted (c : StackConfig) : StackConfig :=
  { c with occupancy := none }

/-- **Building looks at the bounds of a requirement only**: the stack is that of the definition
without the requirement.

**Proof sketch.** A definition is sound if its name and its ages are and, where there is a
requirement, its bounds; the rules are built in the same way. -/
theorem build_eq_ok_iff_unrestricted {s : PolicyStack} :
    c.build files now = .ok s ↔
      c.unrestricted.build files now = .ok s ∧
        ∀ settings ∈ c.occupancy, settings.check = .ok () := by
  have hcheck : c.check = .ok () ↔
      c.unrestricted.check = .ok () ∧ ∀ settings ∈ c.occupancy, settings.check = .ok () := by
    rw [check_eq_ok_iff, check_eq_ok_iff]
    constructor
    · rintro ⟨hname, hbounds, hages⟩
      exact ⟨⟨hname, by simp [unrestricted], hages⟩, hbounds⟩
    · rintro ⟨⟨hname, -, hages⟩, hbounds⟩
      exact ⟨hname, hbounds, hages⟩
  rw [build_eq_ok_iff, build_eq_ok_iff, hcheck]
  -- name, default and rules are the same on both sides
  exact and_right_comm

/-- Without a requirement, all replicas are decided by the stack. -/
lemma evaluate_unrestricted_eq_ok_iff {inv : Inventory} {decisions : List ReplicaDecision} :
    c.unrestricted.evaluate files now inv = .ok decisions ↔
      ∃ s, c.unrestricted.build files now = .ok s ∧ s.decideAll inv = decisions := by
  have hnone : c.unrestricted.siteRequirement = .ok none := rfl
  rw [evaluate, except_bind_eq_ok_iff]
  simp [hnone, bind, Except.bind]

/-- With a requirement, the selected replicas are decided by the stack. -/
lemma evaluate_eq_ok_iff_of_requirement (h : c.occupancy = some settings) {inv : Inventory}
    {decisions : List ReplicaDecision} :
    c.evaluate files now inv = .ok decisions ↔
      ∃ s requirement partition, c.build files now = .ok s ∧
        SiteRequirement.ofSettings settings = .ok requirement ∧ c.partition = some partition ∧
        (selected requirement partition inv).map (fun x => s.decide x.1 x.2) = decisions := by
  rw [evaluate, except_bind_eq_ok_iff]
  refine exists_congr fun s => ?_
  rw [siteRequirement, h]
  cases c.build files now <;> cases hr : SiteRequirement.ofSettings settings <;>
    cases c.partition <;> simp [hr, Except.map, bind, Except.bind]

/-- The replicas of an inventory that a definition decides: all of them, or, where it has an
occupancy requirement, those at sites that need cleaning in its partition. -/
inductive Selects (c : StackConfig) (inv : Inventory) : List (View × Demand) → Prop
  /-- All replicas. -/
  | all (h : c.occupancy = none) : c.Selects inv inv.replicas
  /-- Those at sites that need cleaning at first. -/
  | cleaned {settings : OccupancySettings} {requirement : SiteRequirement} {partition : String}
    (h : c.occupancy = some settings) (hr : SiteRequirement.ofSettings settings = .ok requirement)
    (hp : c.partition = some partition) :
    c.Selects inv
      (inv.replicas.filter fun x => requirement.needsCleanup x.1.site partition .initial)

/-- Replicas are selected in order. -/
lemma Selects.sublist {inv : Inventory} {replicas : List (View × Demand)}
    (h : c.Selects inv replicas) : replicas.Sublist inv.replicas := by
  cases h with
  | all => exact .refl _
  | cleaned => exact List.filter_sublist

/-- Without a requirement, all replicas are selected. -/
lemma Selects.eq_of_none {inv : Inventory} {replicas : List (View × Demand)}
    (h : c.Selects inv replicas) (hnone : c.occupancy = none) : replicas = inv.replicas := by
  cases h with
  | all => rfl
  | cleaned h => exact absurd (hnone.symm.trans h) (by simp)

/-- **The selected replicas are decided by the stack that is built**, in order. -/
theorem evaluate_eq_ok_iff_selects {inv : Inventory} {decisions : List ReplicaDecision} :
    c.evaluate files now inv = .ok decisions ↔
      ∃ s replicas, c.build files now = .ok s ∧ c.Selects inv replicas ∧
        replicas.map (fun x => s.decide x.1 x.2) = decisions := by
  cases hoccupancy : c.occupancy with
  | none =>
    have hsame : c.unrestricted = c := by rw [unrestricted, ← hoccupancy]
    rw [← hsame, evaluate_unrestricted_eq_ok_iff, hsame]
    constructor
    · rintro ⟨s, hs, hd⟩
      exact ⟨s, inv.replicas, hs, .all hoccupancy, hd⟩
    · rintro ⟨s, _, hs, hselects, hd⟩
      rw [hselects.eq_of_none hoccupancy] at hd
      exact ⟨s, hs, hd⟩
  | some settings =>
    rw [evaluate_eq_ok_iff_of_requirement hoccupancy]
    constructor
    · rintro ⟨s, requirement, partition, hs, hr, hp, hd⟩
      exact ⟨s, _, hs, .cleaned hoccupancy hr hp, hd⟩
    · rintro ⟨s, _, hs, hselects, hd⟩
      cases hselects with
      | all h => exact absurd (hoccupancy.symm.trans h) (by simp)
      | cleaned h hr hp =>
        obtain rfl := Option.some.inj (hoccupancy.symm.trans h)
        exact ⟨s, _, _, hs, hr, hp, hd⟩

/-- Without a requirement, there is one decision about each replica, in order. -/
lemma replicas_of_evaluate_unrestricted {inv : Inventory} {decisions : List ReplicaDecision}
    (h : c.unrestricted.evaluate files now inv = .ok decisions) :
    decisions.map ReplicaDecision.replica = inv.replicas.map fun x => x.1.id := by
  obtain ⟨s, -, rfl⟩ := evaluate_unrestricted_eq_ok_iff.1 h
  rw [PolicyStack.decideAll, List.map_map]
  rfl

/-- **With a requirement, the decisions are those without it, restricted to the replicas at sites
that need cleaning.**

**Proof sketch.** Both ways the same stack is built. What it decides about the selected replicas is
what is selected of its decisions about all. -/
theorem evaluate_eq_ok_iff_restrict (h : c.occupancy = some settings) {inv : Inventory}
    {decisions : List ReplicaDecision} :
    c.evaluate files now inv = .ok decisions ↔
      ∃ all requirement partition, c.unrestricted.evaluate files now inv = .ok all ∧
        SiteRequirement.ofSettings settings = .ok requirement ∧ c.partition = some partition ∧
        requirement.restrict partition inv all = decisions := by
  rw [evaluate_eq_ok_iff_of_requirement h]
  constructor
  · rintro ⟨s, requirement, partition, hs, hr, hp, hd⟩
    have hall : c.unrestricted.evaluate files now inv = .ok (s.decideAll inv) :=
      evaluate_unrestricted_eq_ok_iff.2 ⟨s, (build_eq_ok_iff_unrestricted.1 hs).1, rfl⟩
    exact ⟨_, requirement, partition, hall, hr, hp, (requirement.restrict_map _ inv _).trans hd⟩
  · rintro ⟨_, requirement, partition, hall, hr, hp, hd⟩
    obtain ⟨s, hs, rfl⟩ := evaluate_unrestricted_eq_ok_iff.1 hall
    have hbounds : ∀ other ∈ c.occupancy, other.check = .ok () := by
      intro other hother
      obtain rfl := Option.some.inj (h.symm.trans hother)
      exact SiteRequirement.check_of_ofSettings hr
    exact ⟨s, requirement, partition, build_eq_ok_iff_unrestricted.2 ⟨hs, hbounds⟩, hr, hp,
      (requirement.restrict_map _ inv _).symm.trans hd⟩

/-- **A requirement selects among the decisions and does nothing else.** With a requirement there
are decisions exactly when there are some without it, the bounds stand in order between 0 and 1, the
glob of the sites compiles if there is one, and a partition is given. Then they are the decisions
without the requirement about the replicas at sites that need cleaning at first: the others are left
out, and none of these is changed or moved. -/
theorem evaluate_of_requirement (h : c.occupancy = some settings) (files : Files) (now : Instant)
    (inv : Inventory) :
    ((∃ decisions, c.evaluate files now inv = .ok decisions) ↔
      (∃ all, c.unrestricted.evaluate files now inv = .ok all) ∧
        (0.0 ≤ settings.target ∧ settings.target ≤ settings.threshold ∧
          settings.threshold ≤ 1.0) ∧
        (∀ text ∈ settings.includedSites, ∃ g, Glob.compile text = .ok g) ∧
        ∃ partition, c.partition = some partition) ∧
    ∀ decisions, c.evaluate files now inv = .ok decisions →
      ∃ all requirement partition, c.unrestricted.evaluate files now inv = .ok all ∧
        c.siteRequirement = .ok (some requirement) ∧ c.partition = some partition ∧
        all.map ReplicaDecision.replica = inv.replicas.map (fun x => x.1.id) ∧
        decisions = requirement.restrict partition inv all ∧ decisions.Sublist all := by
  constructor
  · rw [← OccupancySettings.check_eq_ok_iff]
    constructor
    · rintro ⟨_, hd⟩
      obtain ⟨all, requirement, partition, hall, hr, hp, -⟩ := (evaluate_eq_ok_iff_restrict h).1 hd
      obtain ⟨hcheck, hglob⟩ := SiteRequirement.exists_ofSettings_iff.1 ⟨requirement, hr⟩
      exact ⟨⟨all, hall⟩, hcheck, hglob, partition, hp⟩
    · rintro ⟨⟨all, hall⟩, hcheck, hglob, partition, hp⟩
      obtain ⟨requirement, hr⟩ := SiteRequirement.exists_ofSettings_iff.2 ⟨hcheck, hglob⟩
      exact ⟨_, (evaluate_eq_ok_iff_restrict h).2
        ⟨all, requirement, partition, hall, hr, hp, rfl⟩⟩
  · intro decisions hd
    obtain ⟨all, requirement, partition, hall, hr, hp, rfl⟩ := (evaluate_eq_ok_iff_restrict h).1 hd
    have hrequirement : c.siteRequirement = .ok (some requirement) := by
      rw [siteRequirement, h]
      exact except_map_eq_ok_iff.2 ⟨requirement, hr, rfl⟩
    have hids := replicas_of_evaluate_unrestricted hall
    have hlength : all.length = inv.replicas.length := by
      simpa using congrArg List.length hids
    exact ⟨all, requirement, partition, hall, hrequirement, hp, hids, rfl,
      requirement.restrict_sublist partition hlength⟩

/-- One dataset has replicas at three sites, of which one is not looked at and one is half empty. Of
the decisions about the three replicas the second is left. -/
theorem evaluate_of_requirement_second_site :
    ∃ all requirement partition,
      (unrestricted ⟨"sites", .delete, some "AnalysisOps", some ⟨some "T2_*", 0.9, 0.85⟩, [],
          ""⟩).evaluate (fun _ => none) ⟨0, 0⟩
        ⟨[.ofUse "T1_A" "AnalysisOps" 95, .ofUse "T2_B" "AnalysisOps" 95,
          .ofUse "T2_C" "AnalysisOps" 50],
          [{ Dataset.ofName "RAW" ⟨0, 0⟩ with
            replicas := [.ofSite "T1_A" ⟨0, 0⟩, .ofSite "T2_B" ⟨0, 0⟩, .ofSite "T2_C" ⟨0, 0⟩] }],
          ∅⟩ = .ok all ∧
      siteRequirement ⟨"sites", .delete, some "AnalysisOps", some ⟨some "T2_*", 0.9, 0.85⟩, [],
          ""⟩ = .ok (some requirement) ∧
      some "AnalysisOps" = some partition ∧
      all.map ReplicaDecision.replica = [⟨"T1_A", "RAW"⟩, ⟨"T2_B", "RAW"⟩, ⟨"T2_C", "RAW"⟩] ∧
      [⟨⟨"T2_B", "RAW"⟩, .delete, PolicyStack.defaultReason⟩] = requirement.restrict partition
        ⟨[.ofUse "T1_A" "AnalysisOps" 95, .ofUse "T2_B" "AnalysisOps" 95,
          .ofUse "T2_C" "AnalysisOps" 50],
          [{ Dataset.ofName "RAW" ⟨0, 0⟩ with
            replicas := [.ofSite "T1_A" ⟨0, 0⟩, .ofSite "T2_B" ⟨0, 0⟩, .ofSite "T2_C" ⟨0, 0⟩] }],
          ∅⟩ all ∧
      [⟨⟨"T2_B", "RAW"⟩, .delete, PolicyStack.defaultReason⟩].Sublist all := by
  have hd : (evaluate (fun _ => none) ⟨0, 0⟩
      ⟨"sites", .delete, some "AnalysisOps", some ⟨some "T2_*", 0.9, 0.85⟩, [], ""⟩
      ⟨[.ofUse "T1_A" "AnalysisOps" 95, .ofUse "T2_B" "AnalysisOps" 95,
        .ofUse "T2_C" "AnalysisOps" 50],
        [{ Dataset.ofName "RAW" ⟨0, 0⟩ with
          replicas := [.ofSite "T1_A" ⟨0, 0⟩, .ofSite "T2_B" ⟨0, 0⟩, .ofSite "T2_C" ⟨0, 0⟩] }],
        ∅⟩).toOption = some [⟨⟨"T2_B", "RAW"⟩, .delete, PolicyStack.defaultReason⟩] := by
    decide +kernel
  exact (evaluate_of_requirement rfl _ _ _).2 _ (except_toOption_eq_some_iff.1 hd)

/-! ## Requirements that are refused late -/

/-- **Of a definition that can be built, a requirement is refused exactly when the glob of its sites
is**, with the complaint about that glob. -/
theorem siteRequirement_of_build {s : PolicyStack} (h : c.build files now = .ok s)
    (fault : Fault) :
    c.siteRequirement = .error fault ↔
      ∃ settings ∈ c.occupancy, ∃ text ∈ settings.includedSites,
        Glob.compile text = .error fault := by
  obtain ⟨-, hbounds⟩ := build_eq_ok_iff_unrestricted.1 h
  rw [siteRequirement]
  cases ho : c.occupancy with
  | none => simp
  | some settings =>
    have hcheck := hbounds settings ho
    dsimp only
    rw [except_map_eq_error_iff, SiteRequirement.ofSettings_eq_error_iff hcheck]
    simp

/-- A stack that deletes what is deprecated can be built; its requirement is refused for a range
that runs backwards in the glob of the sites. -/
theorem siteRequirement_of_build_backwards :
    ∃ s, build (fun _ => none) ⟨0, 0⟩
        ⟨"sites", .protect, some "AnalysisOps", some ⟨some "T[2-1]_*", 0.9, 0.85⟩,
          [.deleteDeprecated], ""⟩ = .ok s ∧
      siteRequirement
        ⟨"sites", .protect, some "AnalysisOps", some ⟨some "T[2-1]_*", 0.9, 0.85⟩,
          [.deleteDeprecated], ""⟩ = .error (.invalidPattern "T[2-1]_*") := by
  have hbuild : (build (fun _ => none) ⟨0, 0⟩
      ⟨"sites", .protect, some "AnalysisOps", some ⟨some "T[2-1]_*", 0.9, 0.85⟩,
        [.deleteDeprecated], ""⟩).isOk = true := by decide +kernel
  obtain ⟨s, hs⟩ := exists_of_isOk hbuild
  exact ⟨s, hs, (siteRequirement_of_build hs _).2 ⟨_, rfl, "T[2-1]_*", rfl, rfl⟩⟩

/-- A definition without rules can be built, and its requirement is refused: the glob of its sites
has an empty bracket. -/
theorem siteRequirement_refused_after_build :
    (∃ s, build (fun _ => none) ⟨0, 0⟩
        ⟨"sites", .delete, some "AnalysisOps", some ⟨some "[]", 0.9, 0.85⟩, [], ""⟩ = .ok s) ∧
      siteRequirement
        ⟨"sites", .delete, some "AnalysisOps", some ⟨some "[]", 0.9, 0.85⟩, [], ""⟩ =
          .error (.invalidPattern "[]") := by
  have hbuild : (build (fun _ => none) ⟨0, 0⟩
      ⟨"sites", .delete, some "AnalysisOps", some ⟨some "[]", 0.9, 0.85⟩, [], ""⟩).isOk = true := by
    decide +kernel
  have hcheck : OccupancySettings.check ⟨some "[]", 0.9, 0.85⟩ = .ok () :=
    OccupancySettings.check_eq_ok_iff.2 (by decide +kernel)
  have hrefused : SiteRequirement.ofSettings ⟨some "[]", 0.9, 0.85⟩ =
      .error (.invalidPattern "[]") :=
    (SiteRequirement.ofSettings_eq_error_iff hcheck).2 ⟨"[]", rfl, rfl⟩
  refine ⟨exists_of_isOk hbuild, ?_⟩
  rw [siteRequirement]
  exact except_map_eq_error_iff.2 hrefused

end StackConfig

end ReplicaPolicy
