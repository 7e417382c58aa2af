import Mathlib.Data.List.Forall2
import Mathlib.Logic.Relation
import ReplicaPolicy.Proofs.Stack.Position

set_option relaxedAutoImplicit false
set_option autoImplicit false

/-!
# Removing replicas

Replicas that a stack decides to delete are removed one by one, and each decision is taken about
what earlier removals have left. Where only protecting rules stand before the protection of
datasets with too few copies, no dataset ever loses a full copy that it must keep.

## Main definitions

* `ReplicaPolicy.PolicyStack.Removes` — one replica is removed from an inventory.
* `ReplicaPolicy.Dataset.KeepsCopies` — a dataset keeps the copies that it must keep.
* `ReplicaPolicy.Inventory.KeepsCopies` — so does every dataset of an inventory.

## Main results

* `ReplicaPolicy.Dataset.fullCopies_le_remove` — a removal costs at most one full copy.
* `ReplicaPolicy.PolicyStack.required_lt_of_delete` — only spare copies are decided to be deleted.
* `ReplicaPolicy.PolicyStack.keepsCopies_of_removes` — one removal leaves the required copies.
* `ReplicaPolicy.PolicyStack.keepsCopies_of_removals` — so does any number of them.

## Design

What a dataset must keep depends on its name and on the demands alone, and removals touch neither.
So keeping copies is a preorder, between the states of a dataset and between inventories, and runs
are composed from steps.
-/

namespace ReplicaPolicy

/-! ## One removal -/

namespace Dataset

/-- A dataset keeps its name, and as many full copies as it had or as are required, whichever is
less. -/
def KeepsCopies (required : String → ℕ) (d d' : Dataset) : Prop :=
  d'.name = d.name ∧ min d.fullCopies (required d.name) ≤ d'.fullCopies

/-- A dataset that does not change keeps its copies. -/
lemma KeepsCopies.refl (required : String → ℕ) (d : Dataset) : KeepsCopies required d d :=
  ⟨rfl, Nat.min_le_left _ _⟩

/-- Copies that are kept twice are kept. -/
lemma KeepsCopies.trans {required : String → ℕ} {d d' d'' : Dataset}
    (h : KeepsCopies required d d') (h' : KeepsCopies required d' d'') :
    KeepsCopies required d d'' := by
  obtain ⟨hn, hc⟩ := h
  obtain ⟨hn', hc'⟩ := h'
  rw [hn] at hc'
  exact ⟨hn'.trans hn, by omega⟩

/-- The removal of one replica costs at most one full copy. -/
theorem fullCopies_le_remove {d : Dataset} {left right : List Replica} {r : Replica}
    (h : d.replicas = left ++ r :: right) :
    d.fullCopies ≤ { d with replicas := left ++ right }.fullCopies + 1 := by
  have hleft : d.fullCopies = left.countP d.isFull + (r :: right).countP d.isFull := by
    rw [fullCopies, h, List.countP_append]
  have hright : { d with replicas := left ++ right }.fullCopies =
      left.countP d.isFull + right.countP d.isFull := List.countP_append
  have hr : (r :: right).countP d.isFull ≤ right.countP d.isFull + 1 := by
    rw [List.countP_cons]
    split <;> omega
  omega

end Dataset

/-! ## Inventories that keep copies -/

namespace Inventory

/-- The demands stay, and every dataset keeps the copies that it must keep. -/
def KeepsCopies (exceptions : List CopyException) (inv inv' : Inventory) : Prop :=
  inv'.demands = inv.demands ∧
    List.Forall₂
      (Dataset.KeepsCopies fun name => requiredCopies exceptions name (inv.demandFor name))
      inv.datasets inv'.datasets

/-- An inventory that does not change keeps its copies. -/
lemma KeepsCopies.refl (exceptions : List CopyException) (inv : Inventory) :
    KeepsCopies exceptions inv inv :=
  ⟨rfl, List.forall₂_same.2 fun d _ => .refl _ d⟩

/-- Relations between the members of lists are composed member by member. -/
lemma forall₂_trans {α : Type} {R : α → α → Prop} (htrans : ∀ a b c, R a b → R b c → R a c)
    {l₁ l₂ l₃ : List α} (h : List.Forall₂ R l₁ l₂) (h' : List.Forall₂ R l₂ l₃) :
    List.Forall₂ R l₁ l₃ := by
  induction h generalizing l₃ with
  | nil => exact h'
  | cons hab _ ih =>
    obtain ⟨c, tail, hbc, htail, rfl⟩ := List.forall₂_cons_left_iff.1 h'
    exact .cons (htrans _ _ _ hab hbc) (ih htail)

/-- Copies that are kept twice are kept.

**Proof sketch.** The demands are the same both times, so the same copies are required. -/
lemma KeepsCopies.trans {exceptions : List CopyException} {inv inv' inv'' : Inventory}
    (h : KeepsCopies exceptions inv inv') (h' : KeepsCopies exceptions inv' inv'') :
    KeepsCopies exceptions inv inv'' := by
  obtain ⟨hdemands, hkeeps⟩ := h
  obtain ⟨hdemands', hkeeps'⟩ := h'
  have hfor : ∀ name, inv'.demandFor name = inv.demandFor name := by
    intro name
    rw [demandFor, demandFor, hdemands]
  simp only [hfor] at hkeeps'
  exact ⟨hdemands'.trans hdemands, forall₂_trans (fun _ _ _ => .trans) hkeeps hkeeps'⟩

/-- An inventory keeps its copies where one of its datasets does and the others do not change. -/
lemma KeepsCopies.of_dataset {exceptions : List CopyException} {inv : Inventory}
    {before after : List Dataset} {d d' : Dataset} (hinv : inv.datasets = before ++ d :: after)
    (h : d.KeepsCopies (fun name => requiredCopies exceptions name (inv.demandFor name)) d') :
    KeepsCopies exceptions inv { inv with datasets := before ++ d' :: after } := by
  refine ⟨rfl, ?_⟩
  rw [hinv]
  refine List.rel_append ?_ (.cons h ?_)
  · exact List.forall₂_same.2 fun d _ => .refl _ d
  · exact List.forall₂_same.2 fun d _ => .refl _ d

end Inventory

/-- The dataset of a name with a complete replica at each of some sites, all of one time. -/
def Dataset.ofSites (name : String) (t : Instant) (sites : List String) : Dataset :=
  { Dataset.ofName name t with replicas := sites.map fun site => .ofSite site t }

/-- The inventory of one dataset and of some sites in service, without demands. -/
def Inventory.ofSites (sites : List String) (d : Dataset) : Inventory :=
  ⟨sites.map Site.ofName, [d], ∅⟩

namespace PolicyStack

/-- One replica that a stack decides to delete is removed from its dataset. The decision is taken
about the inventory as it stands: with the site that holds the replica, and under what is asked of
its dataset. -/
inductive Removes (s : PolicyStack) : Inventory → Inventory → Prop
  /-- The replica stands somewhere in its dataset, and the dataset somewhere in the inventory. -/
  | replica {inv : Inventory} {before after : List Dataset} {d : Dataset}
      {left right : List Replica} {r : Replica} {site : Site}
      (inInventory : inv.datasets = before ++ d :: after)
      (inDataset : d.replicas = left ++ r :: right) (held : inv.holder? r.site = some site)
      (deleted : (s.evaluate ⟨d, r, site⟩ (inv.demandFor d.name)).decision = .delete) :
      Removes s inv
        { inv with datasets := before ++ { d with replicas := left ++ right } :: after }

variable {s : PolicyStack} {before after : List Rule} {exceptions : List CopyException}

/-- **Only spare copies are decided to be deleted**: a dataset of which a replica is decided to be
deleted has more full copies than it must keep.

**Proof sketch.** Up to the protection of datasets with too few copies all rules can only protect,
so none of them takes a position; that one would if the copies did not exceed the required ones. -/
theorem required_lt_of_delete
    (hrules : s.rules = before ++ .protection (.minimumCopies exceptions) :: after)
    (honly : ∀ r ∈ before, Rule.Only .protect r) {v : View} {demand : Demand}
    (hdelete : (s.evaluate v demand).decision = .delete) :
    requiredCopies exceptions v.dataset.name demand < v.dataset.fullCopies := by
  have hsplit : s.rules = (before ++ [.protection (.minimumCopies exceptions)]) ++ after := by
    rw [hrules, List.append_assoc]
    rfl
  have hfront : ∀ r ∈ before ++ [.protection (.minimumCopies exceptions)],
      Rule.Only .protect r := by
    intro r hr
    rcases List.mem_append.1 hr with hr | hr
    · exact honly r hr
    · obtain rfl := List.mem_singleton.1 hr
      exact .protection _
  have hsilent := silent_of_only hsplit hfront (by rw [hdelete]; decide)
    (.protection (.minimumCopies exceptions)) (by simp)
  rw [Rule.position?_protection] at hsilent
  by_contra hle
  have happlies : (Protection.minimumCopies exceptions).applies v demand = true :=
    decide_eq_true (Nat.le_of_not_lt hle)
  rw [happlies] at hsilent
  exact absurd hsilent (by simp)

/-- **One removal leaves every dataset the copies that it must keep.**

**Proof sketch.** The dataset that loses a replica had more full copies than it must keep, and
loses at most one of them. The other datasets do not change. -/
theorem keepsCopies_of_removes
    (hrules : s.rules = before ++ .protection (.minimumCopies exceptions) :: after)
    (honly : ∀ r ∈ before, Rule.Only .protect r) {inv inv' : Inventory} (h : s.Removes inv inv') :
    inv.KeepsCopies exceptions inv' := by
  cases h with
  | @replica _ _ d left right r site inInventory inDataset held deleted =>
    have hspare := required_lt_of_delete hrules honly deleted
    dsimp only at hspare
    have hcost := Dataset.fullCopies_le_remove inDataset
    refine .of_dataset inInventory ⟨rfl, ?_⟩
    show min d.fullCopies (requiredCopies exceptions d.name (inv.demandFor d.name)) ≤ _
    omega

/-- **No run of removals costs a copy that must be kept.** Where only protecting rules stand
before the protection of datasets with too few copies, any number of removals, each decided about
what the earlier ones have left, leaves every dataset as many full copies as it had at first or as
it must keep, whichever is less.

**Proof sketch.** Induction on the run. Each step keeps copies, and keeping copies is
transitive. -/
theorem keepsCopies_of_removals
    (hrules : s.rules = before ++ .protection (.minimumCopies exceptions) :: after)
    (honly : ∀ r ∈ before, Rule.Only .protect r) {inv inv' : Inventory}
    (h : Relation.ReflTransGen s.Removes inv inv') :
    List.Forall₂
      (Dataset.KeepsCopies fun name => requiredCopies exceptions name (inv.demandFor name))
      inv.datasets inv'.datasets := by
  have hrun : inv.KeepsCopies exceptions inv' := by
    induction h with
    | refl => exact .refl exceptions inv
    | tail _ hstep ih => exact ih.trans (keepsCopies_of_removes hrules honly hstep)
  exact hrun.2

/-- One of two full copies is spare where the demand asks for one: it may be removed, and the other
one is kept. -/
theorem keepsCopies_of_removals_of_two :
    Relation.ReflTransGen
        (Removes ⟨"policy", [.protection .custodial, .protection (.minimumCopies [])], .delete⟩)
        (.ofSites ["T1", "T2"] (.ofSites "/A/B/RAW" ⟨0, 0⟩ ["T1", "T2"]))
        (.ofSites ["T1", "T2"] (.ofSites "/A/B/RAW" ⟨0, 0⟩ ["T2"])) ∧
      List.Forall₂
        (Dataset.KeepsCopies fun name => requiredCopies [] name
          ((Inventory.ofSites ["T1", "T2"]
            (.ofSites "/A/B/RAW" ⟨0, 0⟩ ["T1", "T2"])).demandFor name))
        [.ofSites "/A/B/RAW" ⟨0, 0⟩ ["T1", "T2"]] [.ofSites "/A/B/RAW" ⟨0, 0⟩ ["T2"]] := by
  have hstep :
      Removes ⟨"policy", [.protection .custodial, .protection (.minimumCopies [])], .delete⟩
        (.ofSites ["T1", "T2"] (.ofSites "/A/B/RAW" ⟨0, 0⟩ ["T1", "T2"]))
        (.ofSites ["T1", "T2"] (.ofSites "/A/B/RAW" ⟨0, 0⟩ ["T2"])) :=
    @Removes.replica _ (.ofSites ["T1", "T2"] (.ofSites "/A/B/RAW" ⟨0, 0⟩ ["T1", "T2"])) [] []
      (.ofSites "/A/B/RAW" ⟨0, 0⟩ ["T1", "T2"]) [] [.ofSite "T2" ⟨0, 0⟩] (.ofSite "T1" ⟨0, 0⟩)
      (.ofName "T1") rfl rfl rfl (by decide)
  have honly : ∀ r ∈ [Rule.protection .custodial], Rule.Only .protect r := by
    intro r hr
    obtain rfl := List.mem_singleton.1 hr
    exact .protection _
  exact ⟨.single hstep, keepsCopies_of_removals rfl honly (.single hstep)⟩

end PolicyStack

end ReplicaPolicy
