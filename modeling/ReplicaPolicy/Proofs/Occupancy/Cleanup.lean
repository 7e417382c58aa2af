import ReplicaPolicy.Proofs.Config.Requirement
import ReplicaPolicy.Proofs.Decimal.Quotient

set_option relaxedAutoImplicit false
set_option autoImplicit false

/-!
# Which sites need cleaning

A site needs cleaning where it is included and its occupancy exceeds what a pass allows. The bounds
of a requirement stand in order between 0 and 1. So an occupancy that exceeds one of them is a
positive number, and such an occupancy is only there where the quota is a positive number itself: of
a quota that is zero or negative the occupancy is zero, and of one that is no number it is none.
That sites with a quota of zero are passed over makes no difference.

## Main definitions

* `ReplicaPolicy.OccupancySettings.Includes` — the sites that are looked at.

## Main results

* `ReplicaPolicy.Site.quota_pos_of_lt_occupancy` — where an occupancy is positive, the quota is.
* `ReplicaPolicy.SiteRequirement.needsCleanup_iff` — passing over quotas of zero makes no
  difference.
* `ReplicaPolicy.SiteRequirement.needsCleanup_of_ofSettings` — which sites need cleaning, in both
  passes.
-/

namespace ReplicaPolicy

/-! ## Quotas -/

/-- **Where the occupancy exceeds a number that is not negative, the quota is positive.**

**Proof sketch.** A quota that is not positive is negative, zero or not a number. In the first two
cases the occupancy is zero, in the last it is not a number. It exceeds nothing like that number. -/
theorem Site.quota_pos_of_lt_occupancy {s : Site} {partition : String} {limit : Float}
    (hlimit : 0.0 ≤ limit) (h : limit < s.occupancy partition) : 0.0 < s.quota partition := by
  have hzero : (0.0 : Float) ≤ 0.0 := (Decimal.le_self_of_le hlimit).1
  have hpositive : ¬s.quota partition ≤ 0.0 := by
    intro hquota
    rw [occupancy_of_quota_le hquota] at h
    exact (Decimal.le_iff_not_lt hzero (Decimal.le_self_of_le hlimit).2).1 hlimit h
  have hnumber : s.quota partition ≤ s.quota partition := by
    rw [Decimal.le_self_iff, Bool.eq_false_iff]
    intro hnan
    have hoccupancy := Decimal.le_self_iff.1 (Decimal.le_self_of_lt h).2
    rw [occupancy, if_neg hpositive, Decimal.isNaN_div _ hnan] at hoccupancy
    exact absurd hoccupancy (by decide)
  by_contra hquota
  exact hpositive ((Decimal.le_iff_not_lt hnumber hzero).2 hquota)

/-! ## Included sites -/

/-- The settings include a site of this name: they look at all sites, or their glob selects it. -/
def OccupancySettings.Includes (settings : OccupancySettings) (name : String) : Prop :=
  ∀ text ∈ settings.includedSites, ∃ g, Glob.compile text = .ok g ∧ g.selects name = true

namespace SiteRequirement

variable {settings : OccupancySettings} {r : SiteRequirement}

/-- A requirement has the bounds of its settings and looks at the sites that these include. -/
lemma of_ofSettings (h : ofSettings settings = .ok r) :
    r.threshold = settings.threshold ∧ r.target = settings.target ∧
      ∀ name, r.included.all (fun g => g.selects name) = true ↔ settings.Includes name := by
  unfold ofSettings at h
  rw [check_of_ofSettings h] at h
  unfold OccupancySettings.Includes
  cases hsites : settings.includedSites with
  | none =>
    rw [hsites] at h
    obtain rfl := Except.ok.inj h
    simp
  | some text =>
    rw [hsites] at h
    obtain ⟨g, hg, rfl⟩ := except_map_eq_ok_iff.1 h
    simp [hg]

/-- **Passing over quotas of zero makes no difference**: a site needs cleaning where it is included
and its occupancy exceeds the limit of the pass, if this is not negative. -/
theorem needsCleanup_iff {pass : Pass} (hlimit : 0.0 ≤ r.limit pass) (s : Site)
    (partition : String) :
    r.needsCleanup s partition pass = true ↔
      r.included.all (fun g => g.selects s.name) = true ∧
        r.limit pass < s.occupancy partition := by
  rw [needsCleanup, considers, Bool.and_eq_true, Bool.and_eq_true, decide_eq_true_iff,
    Bool.not_eq_true']
  constructor
  · rintro ⟨⟨hincluded, -⟩, hoccupancy⟩
    exact ⟨hincluded, hoccupancy⟩
  · rintro ⟨hincluded, hoccupancy⟩
    have hquota := Site.quota_pos_of_lt_occupancy hlimit hoccupancy
    exact ⟨⟨hincluded, Decimal.beq_eq_false_of_lt hquota⟩, hoccupancy⟩

/-- **Which sites need cleaning.** For a requirement that comes from settings: a site that needs
cleaning at first needs it later too. A site that needs it in either pass is included, and its quota
is a positive number. And it needs it exactly where it is included and its occupancy exceeds the
threshold, at first, or the target, later. -/
theorem needsCleanup_of_ofSettings (h : ofSettings settings = .ok r) (s : Site)
    (partition : String) :
    (r.needsCleanup s partition .initial = true → r.needsCleanup s partition .later = true) ∧
      (∀ pass, r.needsCleanup s partition pass = true →
        settings.Includes s.name ∧ 0.0 < s.quota partition) ∧
      (r.needsCleanup s partition .initial = true ↔
        settings.Includes s.name ∧ settings.threshold < s.occupancy partition) ∧
      (r.needsCleanup s partition .later = true ↔
        settings.Includes s.name ∧ settings.target < s.occupancy partition) := by
  obtain ⟨hlow, horder, -⟩ := OccupancySettings.check_eq_ok_iff.1 (check_of_ofSettings h)
  obtain ⟨hthreshold, htarget, hincluded⟩ := of_ofSettings h
  have hlimit : ∀ pass, 0.0 ≤ r.limit pass := by
    intro pass
    cases pass with
    | initial =>
      show 0.0 ≤ r.threshold
      rw [hthreshold]
      exact Decimal.le_of_le_of_le hlow horder
    | later =>
      show 0.0 ≤ r.target
      rw [htarget]
      exact hlow
  have hinitial := needsCleanup_iff (hlimit .initial) s partition
  have hlater := needsCleanup_iff (hlimit .later) s partition
  rw [hincluded, limit, hthreshold] at hinitial
  rw [hincluded, limit, htarget] at hlater
  refine ⟨?_, ?_, hinitial, hlater⟩
  · rw [hinitial, hlater]
    rintro ⟨hsite, hoccupancy⟩
    exact ⟨hsite, Decimal.lt_of_le_lt horder hoccupancy⟩
  · intro pass hneeds
    obtain ⟨hsite, hoccupancy⟩ := (needsCleanup_iff (hlimit pass) s partition).1 hneeds
    exact ⟨(hincluded _).1 hsite, Site.quota_pos_of_lt_occupancy (hlimit pass) hoccupancy⟩

/-- Of a requirement for the sites of one kind, a site of that kind that is nearly full needs
cleaning in both passes, and its quota is positive. -/
theorem needsCleanup_of_ofSettings_nearly_full :
    ∃ r, ofSettings ⟨some "T2_*", 0.9, 0.85⟩ = .ok r ∧
      r.needsCleanup (.ofUse "T2_B" "AnalysisOps" 95) "AnalysisOps" .later = true ∧
      0.0 < (Site.ofUse "T2_B" "AnalysisOps" 95).quota "AnalysisOps" := by
  have hok : (ofSettings ⟨some "T2_*", 0.9, 0.85⟩).isOk = true := by decide +kernel
  obtain ⟨r, hr⟩ := exists_of_isOk hok
  obtain ⟨hlater, hquota, hinitial, -⟩ :=
    needsCleanup_of_ofSettings hr (.ofUse "T2_B" "AnalysisOps" 95) "AnalysisOps"
  have hneeds : r.needsCleanup (.ofUse "T2_B" "AnalysisOps" 95) "AnalysisOps" .initial = true := by
    refine hinitial.2 ⟨?_, by decide +kernel⟩
    rintro text ⟨⟩
    exact ⟨_, rfl, by decide⟩
  exact ⟨r, hr, hlater hneeds, (hquota .initial hneeds).2⟩

end SiteRequirement

end ReplicaPolicy
