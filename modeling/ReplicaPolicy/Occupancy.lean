import ReplicaPolicy.Event
import ReplicaPolicy.Glob.Syntax
import ReplicaPolicy.Inventory.Basic

set_option relaxedAutoImplicit false
set_option autoImplicit false

/-!
# Occupancy requirements

An occupancy requirement tells which sites need cleaning. Cleaning starts where the occupancy of a
partition is above the threshold, and goes on until it is no longer above the target.

## Main definitions

* `ReplicaPolicy.OccupancySettings`, `OccupancySettings.check` — the settings of a requirement.
* `ReplicaPolicy.SiteRequirement`, `SiteRequirement.ofSettings` — the requirement.
* `ReplicaPolicy.SiteRequirement.needsCleanup` — whether a site needs cleaning.

## Main results

* `ReplicaPolicy.SiteRequirement.check_of_ofSettings` — a requirement comes from sound settings.
-/

namespace ReplicaPolicy

/-! ## Settings -/

/-- The settings of an occupancy requirement. -/
structure OccupancySettings where
  /-- The glob of the sites that are looked at, if it is not all of them. -/
  includedSites : Option String
  /-- The occupancy above which cleaning starts. -/
  threshold : Float
  /-- The occupancy above which cleaning goes on. -/
  target : Float

namespace OccupancySettings

/-- All sites, from 90 down to 85 percent. -/
def default : OccupancySettings :=
  ⟨none, 0.9, 0.85⟩

/-- A bound must lie in the range from 0 to 1. -/
def checkBound (bound : OccupancyBound) (value : Float) : Except SettingFault Unit :=
  if 0.0 ≤ value ∧ value ≤ 1.0 then .ok () else .error (.boundOutside bound value)

/-- Both bounds must lie in the range from 0 to 1, and the target must not exceed the
threshold. -/
def check (s : OccupancySettings) : Except SettingFault Unit := do
  checkBound .threshold s.threshold
  checkBound .target s.target
  if s.threshold < s.target then .error .targetAboveThreshold else .ok ()

end OccupancySettings

/-! ## Requirements -/

/-- Whether cleaning starts or goes on. -/
inductive Pass where
  /-- Sites are chosen for cleaning. -/
  | initial
  /-- Sites are cleaned further. -/
  | later
  deriving DecidableEq, Repr

/-- Which sites need cleaning. -/
structure SiteRequirement where
  /-- The glob of the sites that are looked at, if it is not all of them. -/
  included : Option Glob
  /-- The occupancy above which cleaning starts. -/
  threshold : Float
  /-- The occupancy above which cleaning goes on. -/
  target : Float

namespace SiteRequirement

/-- The requirement with some settings. -/
def ofSettings (s : OccupancySettings) : Except Fault SiteRequirement :=
  match s.check with
  | .error reason => .error (.invalidSetting reason)
  | .ok () =>
    match s.includedSites with
    | none => .ok ⟨none, s.threshold, s.target⟩
    | some text => (Glob.compile text).map fun g => ⟨some g, s.threshold, s.target⟩

theorem check_of_ofSettings {s : OccupancySettings} {r : SiteRequirement}
    (h : ofSettings s = .ok r) : s.check = .ok () := by
  unfold ofSettings at h
  cases hc : s.check with
  | error reason => simp [hc] at h
  | ok u => rfl

/-- The occupancy that counts in a pass. -/
def limit (r : SiteRequirement) : Pass → Float
  | .initial => r.threshold
  | .later => r.target

/-- Whether a site is looked at: it is included, and its quota is not zero. -/
def considers (r : SiteRequirement) (s : Site) (partition : String) : Bool :=
  r.included.all (fun g => g.selects s.name) && !(s.quota partition == 0.0)

/-- Whether a site needs cleaning. -/
def needsCleanup (r : SiteRequirement) (s : Site) (partition : String) (pass : Pass) : Bool :=
  r.considers s partition && r.limit pass < s.occupancy partition

/-- What is noted when a site is asked about. -/
def cleanupEvents (r : SiteRequirement) (s : Site) (partition : String) (pass : Pass) :
    List Event :=
  if r.considers s partition then
    [.comparedOccupancy s.name partition (s.occupancy partition) (r.limit pass)]
  else []

end SiteRequirement

end ReplicaPolicy
