import Mathlib.Data.List.Dedup
import Mathlib.Data.List.Perm.Subperm
import ReplicaPolicy.Proofs.Stack.Removal

set_option relaxedAutoImplicit false
set_option autoImplicit false

/-!
# What full copies hold

A complete replica counts as a full copy where it lists as many blocks as the dataset has. The
number does not tell which blocks these are: a block of another dataset, or a block that is listed
twice, makes up for one that is not there. So a full copy holds the whole dataset where its list is
plain, and a list that is not plain can pass for a copy that nobody has.

## Main definitions

* `ReplicaPolicy.Dataset.HoldsWhole` — a replica has every block of a dataset.
* `ReplicaPolicy.Dataset.ListsPlainly` — a replica lists blocks of the dataset only, each once.
* `ReplicaPolicy.Dataset.shared`, `lacking` — the blocks of a dataset that a replica has, and those
  that it has not.
* `ReplicaPolicy.Dataset.surplus`, `repeats` — what a replica lists beyond the blocks that it shares
  with the dataset, and what the dataset lists beyond its distinct blocks.
* `ReplicaPolicy.Dataset.wholeCopies` — the number of replicas that have every block.

## Main results

* `ReplicaPolicy.Dataset.isFull_iff` — a complete replica is full where its surplus makes up for all
  that it lacks.
* `ReplicaPolicy.Dataset.surplus_eq_zero_iff` — only plain lists have no surplus.
* `ReplicaPolicy.Dataset.holdsWhole_of_isFull` — full copies with plain lists hold the whole
  dataset, and no whole copy is missed.
* `ReplicaPolicy.PolicyStack.required_lt_wholeCopies_of_delete` — with plain lists, only spare whole
  copies are decided to be deleted.
-/

namespace ReplicaPolicy

/-- The names of the blocks that a replica lists. -/
def Replica.listed (r : Replica) : List String :=
  r.blocks.map BlockReplica.block

/-- A complete replica that lists some blocks, all of them complete. -/
def Replica.ofListed (site : String) (t : Instant) (blocks : List String) : Replica :=
  { ofSite site t with blocks := blocks.map fun block => ⟨block, true⟩ }

namespace Dataset

/-- The replica has a block replica for every block of the dataset. -/
def HoldsWhole (d : Dataset) (r : Replica) : Prop :=
  ∀ block ∈ d.blocks, ∃ b ∈ r.blocks, b.block = block

instance (d : Dataset) (r : Replica) : Decidable (d.HoldsWhole r) :=
  inferInstanceAs (Decidable (∀ block ∈ d.blocks, ∃ b ∈ r.blocks, b.block = block))

/-- The replica lists blocks of the dataset only, and none of them twice. -/
def ListsPlainly (d : Dataset) (r : Replica) : Prop :=
  r.listed.Nodup ∧ r.listed ⊆ d.blocks

instance (d : Dataset) (r : Replica) : Decidable (d.ListsPlainly r) :=
  inferInstanceAs (Decidable (r.listed.Nodup ∧ r.listed ⊆ d.blocks))

/-- The blocks of the dataset that the replica lists. -/
def shared (d : Dataset) (r : Replica) : List String :=
  d.blocks.dedup.filter (· ∈ r.listed)

/-- The blocks of the dataset that the replica does not list. -/
def lacking (d : Dataset) (r : Replica) : List String :=
  d.blocks.dedup.filter (· ∉ r.listed)

/-- How many of the block replicas are more than one for each shared block. -/
def surplus (d : Dataset) (r : Replica) : ℕ :=
  r.blocks.length - (d.shared r).length

/-- How many entries of the list of blocks name a block again. -/
def repeats (d : Dataset) : ℕ :=
  d.blocks.length - d.blocks.dedup.length

/-- The number of replicas that have every block of the dataset. -/
def wholeCopies (d : Dataset) : ℕ :=
  d.replicas.countP fun r => d.HoldsWhole r

variable {d : Dataset} {r : Replica}

/-! ## Counting blocks -/

lemma mem_shared {block : String} : block ∈ d.shared r ↔ block ∈ d.blocks ∧ block ∈ r.listed := by
  simp [shared]

/-- The replica has every block just if it lacks none. -/
lemma holdsWhole_iff_lacking : d.HoldsWhole r ↔ d.lacking r = [] := by
  simp [HoldsWhole, lacking, Replica.listed, List.filter_eq_nil_iff]

/-- A block of the dataset is shared or lacking. -/
lemma shared_add_lacking (d : Dataset) (r : Replica) :
    (d.shared r).length + (d.lacking r).length = d.blocks.dedup.length := by
  have hsplit := List.length_eq_length_filter_add (l := d.blocks.dedup) (· ∈ r.listed)
  simpa [shared, lacking] using hsplit.symm

/-- The shared blocks are some of those that the replica lists. -/
lemma shared_subperm (d : Dataset) (r : Replica) : (d.shared r).Subperm r.listed :=
  List.subperm_of_subset (d.blocks.nodup_dedup.filter _) fun _ h => (mem_shared.1 h).2

/-- **A complete replica is full where its surplus makes up for all that it lacks**, counted against
the blocks as the dataset lists them.

**Proof sketch.** Both lists are cut into the shared blocks and the rest. -/
theorem isFull_iff (d : Dataset) (r : Replica) :
    d.isFull r = true ↔
      r.isComplete = true ∧ (d.lacking r).length + d.repeats ≤ d.surplus r := by
  have hblocks := d.shared_add_lacking r
  have hdistinct : d.blocks.dedup.length ≤ d.blocks.length :=
    (List.dedup_sublist d.blocks).length_le
  have hlisted : (d.shared r).length ≤ r.blocks.length := by
    simpa [Replica.listed] using (d.shared_subperm r).length_le
  rw [isFull, Bool.and_eq_true, decide_eq_true_iff, surplus, repeats]
  constructor
  · rintro ⟨hcomplete, hlength⟩
    exact ⟨hcomplete, by omega⟩
  · rintro ⟨hcomplete, hmakesUp⟩
    exact ⟨hcomplete, by omega⟩

/-- **Only plain lists have no surplus.**

**Proof sketch.** A list without surplus has the shared blocks and nothing else, in some order; and
the blocks of a plain list are all shared. -/
theorem surplus_eq_zero_iff (d : Dataset) (r : Replica) :
    d.surplus r = 0 ↔ d.ListsPlainly r := by
  have hlength : r.listed.length = r.blocks.length := List.length_map _
  constructor
  · intro hsurplus
    rw [surplus, Nat.sub_eq_zero_iff_le, ← hlength] at hsurplus
    have hperm := (d.shared_subperm r).perm_of_length_le hsurplus
    refine ⟨hperm.nodup_iff.1 (d.blocks.nodup_dedup.filter _), fun block hblock => ?_⟩
    exact (mem_shared.1 (hperm.mem_iff.2 hblock)).1
  · rintro ⟨hnodup, hsubset⟩
    have hall : r.listed.Subperm (d.shared r) :=
      List.subperm_of_subset hnodup fun _ h => mem_shared.2 ⟨hsubset h, h⟩
    rw [surplus, Nat.sub_eq_zero_iff_le, ← hlength]
    exact hall.length_le

/-! ## Full copies and whole copies -/

/-- A full copy with a plain list lacks nothing. -/
lemma ListsPlainly.holdsWhole (hplain : d.ListsPlainly r) (hfull : d.isFull r = true) :
    d.HoldsWhole r := by
  have hmakesUp := ((d.isFull_iff r).1 hfull).2
  rw [(d.surplus_eq_zero_iff r).2 hplain] at hmakesUp
  exact holdsWhole_iff_lacking.2 (List.eq_nil_of_length_eq_zero (by omega))

/-- A whole copy is full where the dataset lists no block twice. -/
lemma isFull_of_holdsWhole (hblocks : d.blocks.Nodup) (hcomplete : r.isComplete = true)
    (hholds : d.HoldsWhole r) : d.isFull r = true := by
  have hrepeats : d.repeats = 0 := by
    rw [repeats, hblocks.dedup, Nat.sub_self]
  rw [isFull_iff, holdsWhole_iff_lacking.1 hholds, hrepeats]
  exact ⟨hcomplete, Nat.zero_le _⟩

/-- Where all lists are plain, no more copies are counted than are there. -/
lemma fullCopies_le_wholeCopies (hplain : ∀ r ∈ d.replicas, d.ListsPlainly r) :
    d.fullCopies ≤ d.wholeCopies := by
  refine List.countP_mono_left fun r hr hfull => ?_
  exact decide_eq_true ((hplain r hr).holdsWhole hfull)

/-- **What a full copy holds.** A replica is full just if it is complete and what it lists beyond
the blocks that it shares with the dataset makes up for those that it lacks. So a full copy that
lists blocks of the dataset only, each once, holds every block of the dataset, and where all
replicas list so, there are at least as many whole copies as are counted. And no complete replica
that holds every block is missed, unless the dataset itself lists a block twice. -/
theorem holdsWhole_of_isFull (d : Dataset) :
    (∀ r, d.isFull r = true ↔
      r.isComplete = true ∧ (d.lacking r).length + d.repeats ≤ d.surplus r) ∧
    (∀ r, d.ListsPlainly r → d.isFull r = true → d.HoldsWhole r) ∧
    ((∀ r ∈ d.replicas, d.ListsPlainly r) → d.fullCopies ≤ d.wholeCopies) ∧
    (d.blocks.Nodup → ∀ r, r.isComplete = true → d.HoldsWhole r → d.isFull r = true) :=
  ⟨d.isFull_iff, fun _ hplain hfull => hplain.holdsWhole hfull, fullCopies_le_wholeCopies,
    fun hblocks _ hcomplete hholds => isFull_of_holdsWhole hblocks hcomplete hholds⟩

/-- A dataset of two blocks, with complete replicas at some sites that list some blocks. -/
def ofTwoBlocks (lists : List (String × List String)) : Dataset :=
  { ofName "/A/B/RAW" ⟨0, 0⟩ with
    blocks := ["b1", "b2"]
    replicas := lists.map fun (site, blocks) => .ofListed site ⟨0, 0⟩ blocks }

/-- Both replicas list both blocks. -/
def inEitherOrder : Dataset :=
  ofTwoBlocks [("T1", ["b1", "b2"]), ("T2", ["b2", "b1"])]

/-- Both blocks are the whole dataset, in the order of the dataset and in the other one. -/
theorem holdsWhole_of_isFull_either_order :
    inEitherOrder.ListsPlainly (.ofListed "T2" ⟨0, 0⟩ ["b2", "b1"]) ∧
      inEitherOrder.isFull (.ofListed "T2" ⟨0, 0⟩ ["b2", "b1"]) = true ∧
      inEitherOrder.HoldsWhole (.ofListed "T2" ⟨0, 0⟩ ["b2", "b1"]) ∧
      (∀ r ∈ inEitherOrder.replicas, inEitherOrder.ListsPlainly r) ∧
      inEitherOrder.fullCopies ≤ inEitherOrder.wholeCopies ∧
      inEitherOrder.blocks.Nodup ∧
      (Replica.ofListed "T1" ⟨0, 0⟩ ["b1", "b2"]).isComplete = true ∧
      inEitherOrder.HoldsWhole (.ofListed "T1" ⟨0, 0⟩ ["b1", "b2"]) ∧
      inEitherOrder.isFull (.ofListed "T1" ⟨0, 0⟩ ["b1", "b2"]) = true := by
  have hplain : inEitherOrder.ListsPlainly (.ofListed "T2" ⟨0, 0⟩ ["b2", "b1"]) := by decide
  have hfull : inEitherOrder.isFull (.ofListed "T2" ⟨0, 0⟩ ["b2", "b1"]) = true := by decide
  have hall : ∀ r ∈ inEitherOrder.replicas, inEitherOrder.ListsPlainly r := by decide
  have hblocks : inEitherOrder.blocks.Nodup := by decide
  have hwhole : inEitherOrder.HoldsWhole (.ofListed "T1" ⟨0, 0⟩ ["b1", "b2"]) := by decide
  obtain ⟨-, hholds, hcount, hcounted⟩ := holdsWhole_of_isFull inEitherOrder
  exact ⟨hplain, hfull, hholds _ hplain hfull, hall, hcount hall, hblocks, rfl, hwhole,
    hcounted hblocks _ rfl hwhole⟩

/-- The replica at `T2` lists a block of another dataset in place of one of the two. -/
def withForeignBlock : Dataset :=
  ofTwoBlocks [("T1", ["b1", "b2"]), ("T2", ["b0", "b1"])]

/-- **A full copy may lack a block.** The replica at `T2` counts as a full copy. So the only whole
copy passes for a spare one, and is decided to be deleted. -/
theorem not_holdsWhole_of_isFull_foreign_block :
    (∃ r ∈ withForeignBlock.replicas,
        withForeignBlock.isFull r = true ∧ ¬ withForeignBlock.HoldsWhole r) ∧
      withForeignBlock.fullCopies = 2 ∧ withForeignBlock.wholeCopies = 1 ∧
      ((⟨"policy", [.protection (.minimumCopies [])], .delete⟩ : PolicyStack).evaluate
        ⟨withForeignBlock, .ofListed "T1" ⟨0, 0⟩ ["b1", "b2"], .ofName "T1"⟩
          Demand.default).decision = .delete := by
  decide

end Dataset

namespace PolicyStack

/-- **With plain lists, only spare whole copies are decided to be deleted.** -/
theorem required_lt_wholeCopies_of_delete {s : PolicyStack} {before after : List Rule}
    {exceptions : List CopyException}
    (hrules : s.rules = before ++ .protection (.minimumCopies exceptions) :: after)
    (honly : ∀ r ∈ before, Rule.Only .protect r) {v : View} {demand : Demand}
    (hplain : ∀ r ∈ v.dataset.replicas, v.dataset.ListsPlainly r)
    (hdelete : (s.evaluate v demand).decision = .delete) :
    requiredCopies exceptions v.dataset.name demand < v.dataset.wholeCopies :=
  Nat.lt_of_lt_of_le (required_lt_of_delete hrules honly hdelete)
    (Dataset.fullCopies_le_wholeCopies hplain)

end PolicyStack

end ReplicaPolicy
