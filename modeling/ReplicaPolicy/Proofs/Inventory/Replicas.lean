import Mathlib.Algebra.GroupWithZero.Nat
import ReplicaPolicy.Config.Build
import ReplicaPolicy.Proofs.Stack.Separation

set_option relaxedAutoImplicit false
set_option autoImplicit false

/-!
# The replicas of an inventory

An inventory is gone through dataset by dataset and replica by replica. A replica at a site that is
listed is taken up, with that site and with what is asked of its dataset; any other one is passed
over with a warning. So what is taken up and what is warned about make up all that the datasets
hold. If sites share a name, it is the last of them that is taken up with the replicas, while the
first is found by the name.

## Main definitions

* `ReplicaPolicy.Inventory.namesakes` — the sites of a name.
* `ReplicaPolicy.Inventory.Lists` — a site of a name is listed.
* `ReplicaPolicy.Inventory.holdings` — all that the datasets hold.
* `ReplicaPolicy.Event.warnings` — the warnings among some events.

## Main results

* `ReplicaPolicy.Inventory.site?_eq_head?`, `holder?_eq_getLast?` — the first and the last site of a
  name.
* `ReplicaPolicy.Inventory.replicas_accounted` — no replica is lost, invented, moved or repeated.
* `ReplicaPolicy.Inventory.site?_of_mem_replicas` — the site that is found by name is the site of
  the replica, unless two sites share the name.
-/

namespace ReplicaPolicy

/-! ## Warnings -/

namespace Event

/-- The warnings among some events. -/
def warnings (events : List Event) : List Event :=
  events.filter fun e => e.level == .warn

/-- Replicas at no listed site are warned about, and details of the work are not. -/
lemma warnings_strays_append (ids : List ReplicaId) {details : List Event}
    (h : ∀ e ∈ details, e.level = .debug) :
    warnings (ids.map .strayReplica ++ details) = ids.map .strayReplica := by
  have hstrays : warnings (ids.map .strayReplica) = ids.map .strayReplica := by
    refine List.filter_eq_self.2 fun e he => ?_
    obtain ⟨id, -, rfl⟩ := List.mem_map.1 he
    rfl
  have hdetails : warnings details = [] := by
    refine List.filter_eq_nil_iff.2 fun e he => ?_
    rw [h e he]
    decide
  calc
    warnings (ids.map .strayReplica ++ details) =
        warnings (ids.map .strayReplica) ++ warnings details := by
      simp only [warnings, List.filter_append]
    _ = ids.map .strayReplica := by rw [hstrays, hdetails, List.append_nil]

end Event

/-- A decision is noted as a detail of the work. -/
lemma PolicyStack.level_decidedEvent (s : PolicyStack) (v : View) (demand : Demand) :
    (s.decidedEvent v demand).level = .debug := by
  rw [decidedEvent]
  cases (s.evaluate v demand).rule <;> rfl

/-- A comparison of occupancies is noted as a detail of the work. -/
lemma SiteRequirement.level_of_mem_cleanupEvents {r : SiteRequirement} {s : Site}
    {partition : String} {pass : Pass} {e : Event} (h : e ∈ r.cleanupEvents s partition pass) :
    e.level = .debug := by
  unfold cleanupEvents at h
  split at h
  · obtain rfl := List.mem_singleton.1 h
    rfl
  · exact absurd h List.not_mem_nil

namespace Inventory

/-- The sites of a name, in order. -/
def namesakes (inv : Inventory) (name : String) : List Site :=
  inv.sites.filter fun s => s.name == name

/-- A site of the name is listed. -/
def Lists (inv : Inventory) (name : String) : Prop :=
  ∃ s ∈ inv.sites, s.name = name

instance (inv : Inventory) (name : String) : Decidable (inv.Lists name) :=
  inferInstanceAs (Decidable (∃ s ∈ inv.sites, s.name = name))

/-- All that the datasets hold: each replica with its dataset, in order. -/
def holdings (inv : Inventory) : List (Dataset × Replica) :=
  inv.datasets.flatMap fun d => d.replicas.map fun r => (d, r)

variable {inv : Inventory} {name : String}

/-! ## Sites by name -/

lemma mem_namesakes {s : Site} : s ∈ inv.namesakes name ↔ s ∈ inv.sites ∧ s.name = name := by
  simp [namesakes]

/-- By a name, the first site that bears it is found. -/
lemma site?_eq_head? (inv : Inventory) (name : String) :
    inv.site? name = (inv.namesakes name).head? :=
  List.head?_filter.symm

/-- The replicas at a name are held by the last site that bears it. -/
lemma holder?_eq_getLast? (inv : Inventory) (name : String) :
    inv.holder? name = (inv.namesakes name).getLast? :=
  List.getLast?_filter.symm

/-- Only a name that no listed site bears has no holder. -/
lemma holder?_eq_none_iff : inv.holder? name = none ↔ ¬ inv.Lists name := by
  rw [holder?_eq_getLast?, List.getLast?_eq_none_iff, List.eq_nil_iff_forall_not_mem]
  simp only [mem_namesakes, Lists, not_exists]

/-- The first and the last of some things are the same, or two of them. -/
lemma eq_or_sublist_of_ends {α : Type} {l : List α} {first last : α} (hfirst : l.head? = some first)
    (hlast : l.getLast? = some last) : first = last ∨ [first, last].Sublist l := by
  cases l with
  | nil => exact absurd hfirst (by simp)
  | cons a rest =>
    obtain rfl : a = first := by simpa using hfirst
    cases rest with
    | nil => exact .inl (by simpa using hlast)
    | cons b rest =>
      have hmem : last ∈ b :: rest := by
        rw [List.getLast?_cons_cons] at hlast
        exact List.mem_of_getLast? hlast
      exact .inr ((List.singleton_sublist.2 hmem).cons_cons a)

/-- Two places of one name are not left by distinct names. -/
lemma not_sublist_namesakes (h : (inv.sites.map Site.name).Nodup) (s t : Site) :
    ¬ [s, t].Sublist (inv.namesakes name) := by
  intro hsub
  have hs : s.name = name := (mem_namesakes.1 (hsub.subset (by simp))).2
  have ht : t.name = name := (mem_namesakes.1 (hsub.subset (by simp))).2
  have hnames : [s.name, t.name].Sublist (inv.sites.map Site.name) :=
    (hsub.trans List.filter_sublist).map Site.name
  have hdistinct := h.sublist hnames
  rw [hs, ht] at hdistinct
  exact absurd hdistinct (by simp)

/-! ## What is taken up and what is passed over -/

/-- Of a dataset, the replicas at listed sites are taken up. -/
lemma views_eq_filter (inv : Inventory) (d : Dataset) :
    (inv.views d).map (fun v => (v.dataset, v.replica)) =
      (d.replicas.map fun r => (d, r)).filter fun x => inv.Lists x.2.site := by
  rw [views]
  induction d.replicas with
  | nil => rfl
  | cons r rest ih =>
    rw [List.map_cons, List.filter_cons, ← ih]
    cases h : inv.holder? r.site with
    | none =>
      have hlists : ¬ inv.Lists r.site := holder?_eq_none_iff.1 h
      simp [h, hlists]
    | some s =>
      have hlists : inv.Lists r.site := ⟨s, holder?_spec h⟩
      simp [h, hlists]

/-- Of all that the datasets hold, what is at listed sites is taken up, in order. -/
lemma replicas_eq_filter (inv : Inventory) :
    inv.replicas.map (fun x => (x.1.dataset, x.1.replica)) =
      inv.holdings.filter fun x => inv.Lists x.2.site := by
  rw [replicas, holdings, List.map_flatMap, List.filter_flatMap]
  refine List.flatMap_congr fun d _ => ?_
  rw [← views_eq_filter, List.map_map]
  rfl

/-- Of all that the datasets hold, what is at no listed site is passed over, in order. -/
lemma strays_eq_filter (inv : Inventory) :
    inv.strays =
      (inv.holdings.filter fun x => ¬ inv.Lists x.2.site).map fun x => ⟨x.2.site, x.1.name⟩ := by
  rw [strays, holdings, List.filter_flatMap, List.map_flatMap]
  refine List.flatMap_congr fun d _ => ?_
  have hstray : ∀ r : Replica, (inv.holder? r.site).isNone = decide (¬ inv.Lists r.site) := by
    intro r
    rw [Bool.eq_iff_iff, Option.isNone_iff_eq_none, decide_eq_true_iff]
    exact holder?_eq_none_iff
  rw [List.filter_map, List.map_map]
  simp only [hstray]
  rfl

/-- What is taken up with a replica belongs to it. -/
lemma holder?_of_mem_replicas {x : View × Demand} (h : x ∈ inv.replicas) :
    inv.holder? x.1.replica.site = some x.1.site ∧ x.2 = inv.demandFor x.1.dataset.name := by
  obtain ⟨d, -, hd⟩ := List.mem_flatMap.1 h
  obtain ⟨v, hv, rfl⟩ := List.mem_map.1 hd
  obtain ⟨r, -, hr⟩ := List.mem_filterMap.1 hv
  obtain ⟨s, hs, rfl⟩ := Option.map_eq_some_iff.1 hr
  exact ⟨hs, rfl⟩

/-- What is asked of a dataset is written down, or it is the default. -/
lemma demandFor_cases (inv : Inventory) (name : String) :
    inv.demands.get? name = some (inv.demandFor name) ∨
      inv.demands.get? name = none ∧ inv.demandFor name = Demand.default := by
  rw [demandFor]
  cases inv.demands.get? name with
  | none => exact .inr ⟨rfl, rfl⟩
  | some demand => exact .inl rfl

/-- Where a stack decides an inventory, the warnings are about the replicas that are passed over. -/
lemma warnings_decideAllEvents (inv : Inventory) (s : PolicyStack) :
    Event.warnings (s.decideAllEvents inv) = inv.strays.map .strayReplica := by
  refine Event.warnings_strays_append inv.strays fun e he => ?_
  obtain ⟨x, -, rfl⟩ := List.mem_map.1 he
  exact s.level_decidedEvent x.1 x.2

/-- So they are where only the replicas at sites that need cleaning are decided. -/
lemma warnings_selectedEvents (inv : Inventory) (s : PolicyStack) (r : SiteRequirement)
    (partition : String) :
    Event.warnings (StackConfig.selectedEvents s r partition inv) =
      inv.strays.map .strayReplica := by
  refine Event.warnings_strays_append inv.strays fun e he => ?_
  obtain ⟨x, -, hx⟩ := List.mem_flatMap.1 he
  rcases List.mem_append.1 hx with hx | hx
  · exact SiteRequirement.level_of_mem_cleanupEvents hx
  · split at hx
    · obtain rfl := List.mem_singleton.1 hx
      exact s.level_decidedEvent x.1 x.2
    · exact absurd hx List.not_mem_nil

/-- **No replica is lost, invented, moved or repeated.** Of all that the datasets hold, in order,
the replicas at listed sites are taken up, each with a listed site of its name and with what is
written down as asked of its dataset, or with the default demand. Each other one gives one warning,
in order, and there are no other warnings, whether all replicas are decided or only those at sites
that need cleaning. So the replicas that are taken up and the warnings are together as many as the
replicas of all datasets.

**Proof sketch.** What is taken up and what is passed over are all that the datasets hold, filtered
by whether the site is listed and by whether it is not. -/
theorem replicas_accounted (inv : Inventory) :
    inv.replicas.map (fun x => (x.1.dataset, x.1.replica)) =
        inv.holdings.filter (fun x => inv.Lists x.2.site) ∧
      (∀ x ∈ inv.replicas, x.1.site ∈ inv.sites ∧ x.1.site.name = x.1.replica.site ∧
        (inv.demands.get? x.1.dataset.name = some x.2 ∨
          inv.demands.get? x.1.dataset.name = none ∧ x.2 = Demand.default)) ∧
      inv.strays = (inv.holdings.filter fun x => ¬ inv.Lists x.2.site).map
        (fun x => ⟨x.2.site, x.1.name⟩) ∧
      (∀ s : PolicyStack, Event.warnings (s.decideAllEvents inv) =
        inv.strays.map .strayReplica) ∧
      (∀ (s : PolicyStack) (r : SiteRequirement) (partition : String),
        Event.warnings (StackConfig.selectedEvents s r partition inv) =
          inv.strays.map .strayReplica) ∧
      inv.replicas.length + inv.strays.length =
        (inv.datasets.map fun d => d.replicas.length).sum := by
  refine ⟨inv.replicas_eq_filter, ?belongs, inv.strays_eq_filter, inv.warnings_decideAllEvents,
    inv.warnings_selectedEvents, ?count⟩
  case belongs =>
    intro x hx
    obtain ⟨hsite, hdemand⟩ := holder?_of_mem_replicas hx
    obtain ⟨hlisted, hname⟩ := holder?_spec hsite
    rw [hdemand]
    exact ⟨hlisted, hname, inv.demandFor_cases x.1.dataset.name⟩
  case count =>
    have htaken := congrArg List.length inv.replicas_eq_filter
    have hpassed := congrArg List.length inv.strays_eq_filter
    have hsplit := List.length_eq_length_filter_add (l := inv.holdings) (inv.Lists ·.2.site)
    have hall : inv.holdings.length = (inv.datasets.map fun d => d.replicas.length).sum := by
      simp [holdings, List.length_flatMap]
    rw [List.length_map] at htaken hpassed
    rw [htaken, hpassed, ← hall, hsplit]
    simp

/-! ## The site of a replica -/

/-- **The site that is found by name is the site of the replica, unless two sites share the name.**
For every replica that is taken up, a site is found by the name of its site. If it is not the site
of the replica, it is listed before that one under the same name; so where the names of the sites
are distinct it is the site of the replica. -/
theorem site?_of_mem_replicas {x : View × Demand} (h : x ∈ inv.replicas) :
    ∃ s, inv.site? x.1.replica.site = some s ∧
      (s = x.1.site ∨ [s, x.1.site].Sublist (inv.namesakes x.1.replica.site)) ∧
      ((inv.sites.map Site.name).Nodup → s = x.1.site) := by
  have hlast := (holder?_of_mem_replicas h).1
  rw [holder?_eq_getLast?] at hlast
  obtain ⟨s, hs⟩ : ∃ s, (inv.namesakes x.1.replica.site).head? = some s := by
    rw [← Option.isSome_iff_exists, List.isSome_head?]
    intro hnil
    rw [hnil] at hlast
    exact absurd hlast (by simp)
  have hends := eq_or_sublist_of_ends hs hlast
  refine ⟨s, by rw [site?_eq_head?, hs], hends, fun hdistinct => ?_⟩
  exact hends.resolve_right (not_sublist_namesakes hdistinct s x.1.site)

/-- The second of two sites is found by its name, and holds the second of two replicas. -/
theorem site?_of_mem_replicas_second_site :
    (⟨.ofSites "/A/B/RAW" ⟨0, 0⟩ ["T1", "T2"], .ofSite "T2" ⟨0, 0⟩, .ofName "T2"⟩, Demand.default) ∈
        (Inventory.ofSites ["T1", "T2"] (.ofSites "/A/B/RAW" ⟨0, 0⟩ ["T1", "T2"])).replicas ∧
      ((Inventory.ofSites ["T1", "T2"] (.ofSites "/A/B/RAW" ⟨0, 0⟩ ["T1", "T2"])).sites.map
        Site.name).Nodup ∧
      (Inventory.ofSites ["T1", "T2"] (.ofSites "/A/B/RAW" ⟨0, 0⟩ ["T1", "T2"])).site? "T2" =
        some (.ofName "T2") := by
  have hmem : ((⟨.ofSites "/A/B/RAW" ⟨0, 0⟩ ["T1", "T2"], .ofSite "T2" ⟨0, 0⟩, .ofName "T2"⟩,
      Demand.default) : View × Demand) ∈
      (Inventory.ofSites ["T1", "T2"] (.ofSites "/A/B/RAW" ⟨0, 0⟩ ["T1", "T2"])).replicas :=
    .tail _ (.head _)
  have hdistinct : ((Inventory.ofSites ["T1", "T2"]
      (.ofSites "/A/B/RAW" ⟨0, 0⟩ ["T1", "T2"])).sites.map Site.name).Nodup := by decide
  obtain ⟨s, hs, -, hsame⟩ := site?_of_mem_replicas hmem
  obtain rfl := hsame hdistinct
  exact ⟨hmem, hdistinct, hs⟩

/-- A site in service and a site out of service share a name, and a replica is at that name. -/
def withNamesakes : Inventory :=
  ⟨[.ofName "T1", { Site.ofName "T1" with status := .morgue }],
    [.ofSites "/A/B/RAW" ⟨0, 0⟩ ["T1"]], ∅⟩

/-- **The site that is found by name need not be the site of the replica.** By the name, the site in
service is found, but the replica is protected for being at the one out of service. -/
theorem site?_ne_site_of_namesakes :
    ∃ x ∈ withNamesakes.replicas, ∃ s, withNamesakes.site? x.1.replica.site = some s ∧
      s.status = .ready ∧ x.1.site.status = .morgue ∧
      Protection.nonreadySite.applies x.1 x.2 = true ∧
      Protection.nonreadySite.applies { x.1 with site := s } x.2 = false :=
  ⟨_, .head _, _, rfl, rfl, rfl, rfl, rfl⟩

end Inventory

end ReplicaPolicy
