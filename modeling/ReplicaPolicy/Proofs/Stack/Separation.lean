import Mathlib.Data.List.Nodup
import ReplicaPolicy.Proofs.Stack.Removal

set_option relaxedAutoImplicit false
set_option autoImplicit false

/-!
# What a decision depends on

A stack decides a replica by its dataset, by the site that holds it, and by what is asked of its
dataset. Nothing else in an inventory bears on the decision. The datasets can be decided one after
the other; the order of the sites plays no part if their names differ; and a site or a demand that
no dataset refers to, or a demand for what is asked anyway, can be added without effect.

## Main definitions

* `ReplicaPolicy.Inventory.withDatasets` — an inventory with other datasets.
* `ReplicaPolicy.Inventory.Restocks` — a change of sites or demands that concerns no replica.

## Main results

* `ReplicaPolicy.Inventory.holder?_eq_some_iff` — the holder of a name, if names are distinct.
* `ReplicaPolicy.Inventory.replicas_withDatasets_append` — the replicas of joined lists of datasets.
* `ReplicaPolicy.Inventory.replicas_of_restocks` — what does not concern the replicas leaves them,
  their sites and their demands as they are.
* `ReplicaPolicy.PolicyStack.decideAll_separates` — the decisions about an inventory do not
  influence each other.

## Design

An inventory enters the decisions only as its list of replicas, each with its dataset, its site and
its demand. So everything is shown of that list, and holds of every stack.
-/

namespace ReplicaPolicy

namespace Inventory

/-- The inventory with other datasets. -/
def withDatasets (inv : Inventory) (datasets : List Dataset) : Inventory :=
  { inv with datasets := datasets }

/-- A change of the sites or of the demands that concerns no replica. -/
inductive Restocks : Inventory → Inventory → Prop
  /-- Sites with distinct names are put in another order. -/
  | reorder {inv : Inventory} {sites : List Site}
      (distinct : (inv.sites.map Site.name).Nodup) (reordered : sites.Perm inv.sites) :
      Restocks inv { inv with sites := sites }
  /-- A site is put anywhere among the sites, and no replica is at a site of its name. -/
  | site {inv : Inventory} {before after : List Site} {site : Site}
      (split : inv.sites = before ++ after)
      (unused : ∀ d ∈ inv.datasets, ∀ r ∈ d.replicas, r.site ≠ site.name) :
      Restocks inv { inv with sites := before ++ site :: after }
  /-- Something is asked of a dataset that is not there. -/
  | demand {inv : Inventory} {name : String} {demand : Demand}
      (absent : ∀ d ∈ inv.datasets, d.name ≠ name) :
      Restocks inv { inv with demands := inv.demands.insert name demand }
  /-- The default demand is written down for a dataset without a demand. -/
  | default {inv : Inventory} {name : String} (missing : inv.demands.get? name = none) :
      Restocks inv { inv with demands := inv.demands.insert name Demand.default }

/-! ## Sites -/

/-- The holder of a name is a listed site that bears it. -/
lemma holder?_spec {inv : Inventory} {name : String} {s : Site} (h : inv.holder? name = some s) :
    s ∈ inv.sites ∧ s.name = name := by
  have hmem := List.mem_reverse.1 (List.mem_of_find?_eq_some h)
  have hname := List.find?_some h
  exact ⟨hmem, by simpa using hname⟩

/-- If names are distinct, the holder of a name is the site that bears it. -/
theorem holder?_eq_some_iff {inv : Inventory} (h : (inv.sites.map Site.name).Nodup)
    {name : String} {s : Site} : inv.holder? name = some s ↔ s ∈ inv.sites ∧ s.name = name := by
  constructor
  · exact holder?_spec
  · rintro ⟨hmem, rfl⟩
    have hfound : (inv.holder? s.name).isSome := by
      rw [holder?, List.find?_isSome]
      exact ⟨s, List.mem_reverse.2 hmem, by simp⟩
    obtain ⟨t, ht⟩ := Option.isSome_iff_exists.1 hfound
    obtain ⟨htmem, htname⟩ := holder?_spec ht
    rw [ht, List.inj_on_of_nodup_map h htmem hmem htname]

/-- The order of sites with distinct names does not matter for who holds a name. -/
lemma holder?_of_perm {inv : Inventory} {sites : List Site}
    (distinct : (inv.sites.map Site.name).Nodup) (reordered : sites.Perm inv.sites)
    (name : String) : { inv with sites := sites }.holder? name = inv.holder? name := by
  have hdistinct : (sites.map Site.name).Nodup := (reordered.map Site.name).nodup_iff.2 distinct
  ext s
  rw [holder?_eq_some_iff hdistinct, holder?_eq_some_iff distinct, reordered.mem_iff]

/-- A site does not matter for who holds another name. -/
lemma holder?_of_ne {inv : Inventory} {before after : List Site} {site : Site}
    (split : inv.sites = before ++ after) {name : String} (hne : name ≠ site.name) :
    { inv with sites := before ++ site :: after }.holder? name = inv.holder? name := by
  have hsite : (site.name == name) = false := by simpa using hne.symm
  simp [holder?, split, List.find?_append, hsite]

/-! ## Demands -/

/-- A demand that is written down is what is asked of its dataset, and of no other one. -/
lemma demandFor_insert (inv : Inventory) (name : String) (demand : Demand) (dataset : String) :
    { inv with demands := inv.demands.insert name demand }.demandFor dataset =
      if name = dataset then demand else inv.demandFor dataset := by
  simp only [demandFor, Std.TreeMap.get?_eq_getElem?, Std.TreeMap.getElem?_insert,
    Std.compare_eq_iff_eq]
  split <;> rfl

/-! ## Replicas -/

/-- The replicas of joined lists of datasets are those of the first list and then those of the
second. -/
theorem replicas_withDatasets_append (inv : Inventory) (datasets others : List Dataset) :
    (inv.withDatasets (datasets ++ others)).replicas =
      (inv.withDatasets datasets).replicas ++ (inv.withDatasets others).replicas :=
  List.flatMap_append

/-- The replicas are determined by the datasets, by who holds the names of their sites, and by
what is asked of them. -/
lemma replicas_congr {inv inv' : Inventory} (hdatasets : inv'.datasets = inv.datasets)
    (hholder : ∀ d ∈ inv.datasets, ∀ r ∈ d.replicas, inv'.holder? r.site = inv.holder? r.site)
    (hdemand : ∀ d ∈ inv.datasets, inv'.demandFor d.name = inv.demandFor d.name) :
    inv'.replicas = inv.replicas := by
  rw [replicas, replicas, hdatasets]
  refine List.flatMap_congr fun d hd => ?_
  have hviews : inv'.views d = inv.views d :=
    List.filterMap_congr fun r hr => by rw [hholder d hd r hr]
  rw [hviews, hdemand d hd]

/-- **What does not concern the replicas leaves them as they are**, with their sites and with what
is asked of their datasets.

**Proof sketch.** By the kind of the change. A change of the sites leaves who holds the names that
replicas refer to, and a change of the demands leaves what is asked of the datasets. -/
theorem replicas_of_restocks {inv inv' : Inventory} (h : inv.Restocks inv') :
    inv'.replicas = inv.replicas := by
  cases h with
  | reorder distinct reordered =>
    exact replicas_congr rfl (fun _ _ r _ => holder?_of_perm distinct reordered r.site)
      fun _ _ => rfl
  | site split unused =>
    exact replicas_congr rfl (fun d hd r hr => holder?_of_ne split (unused d hd r hr))
      fun _ _ => rfl
  | @demand name demand absent =>
    refine replicas_congr rfl (fun _ _ _ _ => rfl) fun d hd => ?_
    rw [demandFor_insert, if_neg (absent d hd).symm]
  | @default name missing =>
    refine replicas_congr rfl (fun _ _ _ _ => rfl) fun d _ => ?_
    rw [demandFor_insert]
    split
    next hname =>
      subst hname
      rw [demandFor, missing]
      rfl
    next => rfl

/-- Any number of changes that do not concern the replicas leaves them as they are. -/
lemma replicas_of_restockings {inv inv' : Inventory} (h : Relation.ReflTransGen Restocks inv inv') :
    inv'.replicas = inv.replicas := by
  induction h with
  | refl => rfl
  | tail _ hstep ih => exact (replicas_of_restocks hstep).trans ih

end Inventory

namespace PolicyStack

/-- **The decisions about an inventory do not influence each other.** Those about joined lists of
datasets are those about the first list and then those about the second. And they stay the same
under any number of changes of sites and demands that concern no replica. -/
theorem decideAll_separates (s : PolicyStack) :
    (∀ (inv : Inventory) (datasets others : List Dataset),
      s.decideAll (inv.withDatasets (datasets ++ others)) =
        s.decideAll (inv.withDatasets datasets) ++ s.decideAll (inv.withDatasets others)) ∧
    ∀ inv inv' : Inventory, Relation.ReflTransGen Inventory.Restocks inv inv' →
      s.decideAll inv' = s.decideAll inv := by
  constructor
  · intro inv datasets others
    rw [decideAll, Inventory.replicas_withDatasets_append, List.map_append]
    rfl
  · intro inv inv' h
    rw [decideAll, Inventory.replicas_of_restockings h]
    rfl

/-- Two sites change places, and something is asked of a dataset that is not there: the decisions
about the replicas at both sites stay. -/
theorem decideAll_separates_two_sites :
    Relation.ReflTransGen Inventory.Restocks
        (.ofSites ["T1", "T2"] (.ofSites "/A/B/RAW" ⟨0, 0⟩ ["T1", "T2"]))
        ⟨[.ofName "T2", .ofName "T1"], [.ofSites "/A/B/RAW" ⟨0, 0⟩ ["T1", "T2"]],
          .insert ∅ "/C/D/RAW" ⟨2, ∅, 0⟩⟩ ∧
      decideAll ⟨"policy", [.protection (.minimumCopies [])], .delete⟩
          ⟨[.ofName "T2", .ofName "T1"], [.ofSites "/A/B/RAW" ⟨0, 0⟩ ["T1", "T2"]],
            .insert ∅ "/C/D/RAW" ⟨2, ∅, 0⟩⟩ =
        decideAll ⟨"policy", [.protection (.minimumCopies [])], .delete⟩
          (.ofSites ["T1", "T2"] (.ofSites "/A/B/RAW" ⟨0, 0⟩ ["T1", "T2"])) := by
  have hreorder : Inventory.Restocks
      (.ofSites ["T1", "T2"] (.ofSites "/A/B/RAW" ⟨0, 0⟩ ["T1", "T2"]))
      ⟨[.ofName "T2", .ofName "T1"], [.ofSites "/A/B/RAW" ⟨0, 0⟩ ["T1", "T2"]], ∅⟩ :=
    .reorder (by decide) (.swap _ _ [])
  have hdemand : Inventory.Restocks
      ⟨[.ofName "T2", .ofName "T1"], [.ofSites "/A/B/RAW" ⟨0, 0⟩ ["T1", "T2"]], ∅⟩
      ⟨[.ofName "T2", .ofName "T1"], [.ofSites "/A/B/RAW" ⟨0, 0⟩ ["T1", "T2"]],
        .insert ∅ "/C/D/RAW" ⟨2, ∅, 0⟩⟩ :=
    .demand (by simp [Dataset.ofSites, Dataset.ofName])
  have hrun := (Relation.ReflTransGen.single hreorder).tail hdemand
  exact ⟨hrun, (decideAll_separates _).2 _ _ hrun⟩

end PolicyStack

end ReplicaPolicy
