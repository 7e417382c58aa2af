import ReplicaPolicy.Proofs.Age.Passing
import ReplicaPolicy.Proofs.Glob.Plain
import ReplicaPolicy.Proofs.Stack.Position

set_option relaxedAutoImplicit false
set_option autoImplicit false

/-!
# Datasets that were not updated for an age

A deletion of datasets by name and age compares days: that of the last update with that of the
instant the age ago. What it says of the replicas that it deletes is about the age itself. Here both
are compared.

## Main results

* `ReplicaPolicy.Deletion.ofNameAndAge_iff_before` — the deletion has the day of an instant.
* `ReplicaPolicy.Deletion.ofNameAndAge_deletes_up_to_day` — what is deleted is older than the age,
  and what is older by a day or more is deleted.

## Design

An update on the day of the cutoff is never old enough, at whatever time of that day it was made. So
an update that is less than a day older than the age may or may not be. The bound of a day is not
exact where the cutoff lies within a leap second, since counting back starts from the second after
it.
-/

namespace ReplicaPolicy

namespace Deletion

/-- A deletion by name and age has the glob, and the day of the instant that age ago. -/
lemma ofNameAndAge_iff_before {age : Age} {pattern : String} {update : UpdateTime} {now : Instant}
    {d : Deletion} :
    ofNameAndAge age pattern update now = .ok d ↔
      ∃ t g, age.before now = .ok t ∧ Glob.compile pattern = .ok g ∧
        d = olderThan ⟨t.date, age.text⟩ g update := by
  rw [ofNameAndAge, except_bind_eq_ok_iff]
  constructor
  · rintro ⟨cutoff, hcutoff, h⟩
    obtain ⟨t, ht, rfl⟩ := Age.cutoff_eq_ok_iff.1 hcutoff
    obtain ⟨g, hg, hd⟩ := except_bind_eq_ok_iff.1 h
    exact ⟨t, g, ht, hg, (Except.ok.inj hd).symm⟩
  · rintro ⟨t, g, ht, hg, rfl⟩
    exact ⟨_, Age.cutoff_eq_ok_iff.2 ⟨t, ht, rfl⟩, except_bind_eq_ok_iff.2 ⟨g, hg, rfl⟩⟩

/-- It decides to delete what the glob selects and was updated before the day of the cutoff. -/
lemma position?_olderThan_iff {cutoff : AgeCutoff} {g : Glob} {update : UpdateTime} {v : View}
    {demand : Demand} :
    (Rule.deletion (olderThan cutoff g update)).position? v demand = some .delete ↔
      g.selects v.dataset.name = true ∧ (update.of v).date < cutoff.date := by
  rw [Rule.position?_deletion_eq_delete_iff, applies, Bool.and_eq_true, decide_eq_true_iff]

/-- **A deletion by name and age is sound, and complete up to a day.** Let the cutoff be the instant
the age ago. What is deleted is selected by the glob, and was updated before the cutoff. What is
selected by the glob, and was updated 24 hours before the cutoff or earlier, is deleted, unless the
cutoff lies within a leap second.

**Proof sketch.** Days are compared. An instant on an earlier day is earlier, and one that is
earlier by 24 hours is on an earlier day. -/
theorem ofNameAndAge_deletes_up_to_day {age : Age} {pattern : String} {update : UpdateTime}
    {now : Instant} {d : Deletion} (h : ofNameAndAge age pattern update now = .ok d) :
    ∃ t g, age.before now = .ok t ∧ Glob.compile pattern = .ok g ∧ ∀ (v : View) (demand : Demand),
      ((Rule.deletion d).position? v demand = some .delete →
        g.selects v.dataset.name = true ∧ update.of v < t) ∧
      (t.isLeap = false → g.selects v.dataset.name = true → update.of v ≤ t.dayEarlier →
        (Rule.deletion d).position? v demand = some .delete) := by
  obtain ⟨t, g, ht, hg, rfl⟩ := ofNameAndAge_iff_before.1 h
  refine ⟨t, g, ht, hg, fun v demand => ⟨fun hdelete => ?_, fun hleap hname hearly => ?_⟩⟩
  · obtain ⟨hname, hday⟩ := position?_olderThan_iff.1 hdelete
    exact ⟨hname, Instant.lt_of_date_lt hday⟩
  · have hday : (update.of v).date < t.date := Instant.date_lt_of_le_dayEarlier hleap hearly
    exact position?_olderThan_iff.2 ⟨hname, hday⟩

/-- The replica at `T1` of a dataset that was last updated at some time. -/
def updatedAt (t : Instant) : View :=
  ⟨.ofName "/A/B/RAW" t, .ofSite "T1" t, .ofName "T1"⟩

/-- One hour before noon of 1 June 2024 it is eleven. Raw data that was last updated at eleven of
the day before is deleted for being older than an hour. -/
theorem ofNameAndAge_deletes_up_to_day_one_hour :
    ∃ d, ofNameAndAge ⟨1.0, .hours⟩ "/*/*/RAW" .ofDataset ⟨1717243200, 0⟩ = .ok d ∧
      (⟨1717153200, 0⟩ : Instant) ≤ (⟨1717239600, 0⟩ : Instant).dayEarlier ∧
      (Rule.deletion d).position? (updatedAt ⟨1717153200, 0⟩) .default = some .delete ∧
      (⟨1717153200, 0⟩ : Instant) < ⟨1717239600, 0⟩ := by
  have hbefore : Age.before ⟨1.0, .hours⟩ ⟨1717243200, 0⟩ = .ok ⟨1717239600, 0⟩ :=
    except_toOption_eq_some_iff.1 (by decide +kernel)
  have hglob : Glob.compile "/*/*/RAW" = _ := Glob.compile_of_no_bracket (by decide)
  obtain ⟨d, hd⟩ : ∃ d, ofNameAndAge ⟨1.0, .hours⟩ "/*/*/RAW" .ofDataset ⟨1717243200, 0⟩ = .ok d :=
    ⟨_, ofNameAndAge_iff_before.2 ⟨_, _, hbefore, hglob, rfl⟩⟩
  obtain ⟨t, g, ht, hg, hdeletes⟩ := ofNameAndAge_deletes_up_to_day hd
  obtain rfl := Except.ok.inj (hbefore.symm.trans ht)
  obtain rfl := Except.ok.inj (hglob.symm.trans hg)
  obtain ⟨hsound, hcomplete⟩ := hdeletes (updatedAt ⟨1717153200, 0⟩) .default
  have hdelete := hcomplete rfl (by decide +kernel) (by decide)
  exact ⟨d, hd, by decide, hdelete, (hsound hdelete).2⟩

end Deletion

end ReplicaPolicy
