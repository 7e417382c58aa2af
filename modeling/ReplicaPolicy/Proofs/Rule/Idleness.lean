import ReplicaPolicy.Proofs.Age.Passing
import ReplicaPolicy.Proofs.Stack.Position

set_option relaxedAutoImplicit false
set_option autoImplicit false

/-!
# Replicas that are not accessed

A deletion of what was not accessed for an age has a cutoff: the day of the instant that age ago. It
deletes a replica if its newest block was created on that day or before, and if no access is
recorded for a later day on any channel. The rule counts the records and looks up the last one on
each channel; what this means for all of them is shown here.

## Main definitions

* `ReplicaPolicy.Replica.IsAccessedOn`, `NeverAccessed` — the access records of a replica.
* `ReplicaPolicy.Replica.IsIdleSince` — nothing happened to a replica after a day.
* `ReplicaPolicy.Deletion.neverAccessedReason`, `lastAccessReason` — what is said of replicas that
  are deleted.

## Main results

* `ReplicaPolicy.Replica.accessCount_eq_zero_iff` — no record is counted just if there is none.
* `ReplicaPolicy.Replica.lastAccess?_le_iff` — the last access on a channel bounds all of them.
* `ReplicaPolicy.Deletion.ofIdleAge_deletes_iff` — which replicas are deleted, and why.
* `ReplicaPolicy.Deletion.ofIdleAge_deletes_within_day` — how young they can be.

## Design

Accesses are recorded by the day, so the cutoff is a day too, and at what time of a day the newest
block was created plays no part. So a replica can be deleted that is younger than the age, but only
one that was created on the day of the cutoff.
-/

namespace ReplicaPolicy

/-! ## Orders of days and of channels -/

instance : Std.LawfulEqOrd Date where
  eq_of_compare {a b} h := by
    have hday : a.day = b.day := Std.LawfulEqOrd.eq_of_compare (a := a.day) (b := b.day) h
    cases a
    cases b
    exact congrArg Date.mk hday

instance : Std.TransOrd AccessChannel where
  eq_swap {a b} := by cases a <;> cases b <;> rfl
  isLE_trans {a b c} := by cases a <;> cases b <;> cases c <;> decide

instance : Std.LawfulEqOrd AccessChannel where
  eq_of_compare {a b} := by cases a <;> cases b <;> decide

/-- Days are compared by their numbers. -/
lemma Date.isLE_compare {a b : Date} : (compare a b).isLE = true ↔ a ≤ b :=
  Std.isLE_compare (a := a.day) (b := b.day)

namespace Replica

/-! ## Access records -/

/-- There is an access record for a day on a channel. -/
def IsAccessedOn (r : Replica) (channel : AccessChannel) (day : Date) : Prop :=
  ∃ records, r.accesses.get? channel = some records ∧ day ∈ records

/-- There is no access record on any channel. -/
def NeverAccessed (r : Replica) : Prop :=
  ∀ channel day, ¬ r.IsAccessedOn channel day

/-- The newest block was created no later than on a day, and all recorded accesses were made no
later than on it. -/
def IsIdleSince (r : Replica) (day : Date) : Prop :=
  r.lastBlockCreated.date ≤ day ∧
    ∀ channel accessed, r.IsAccessedOn channel accessed → accessed ≤ day

variable {r : Replica}

/-- The records of a replica are those of its channels. -/
lemma mem_values_accesses {records : AccessRecords} :
    records ∈ r.accesses.values ↔ ∃ channel, r.accesses.get? channel = some records := by
  have hvalues : r.accesses.values = r.accesses.toList.map Prod.snd := by
    have hfold : r.accesses.values =
        r.accesses.foldr (fun _ records all => records :: all) [] := rfl
    rw [hfold, Std.TreeMap.foldr_eq_foldr_toList, ← List.map_eq_foldr]
  rw [hvalues, List.mem_map]
  constructor
  · rintro ⟨⟨channel, _⟩, hmem, rfl⟩
    exact ⟨channel, Std.TreeMap.mem_toList_iff_getElem?_eq_some.1 hmem⟩
  · rintro ⟨channel, hchannel⟩
    exact ⟨(channel, records), Std.TreeMap.mem_toList_iff_getElem?_eq_some.2 hchannel, rfl⟩

/-- **No record is counted just if there is none**: a channel without records counts nothing. -/
lemma accessCount_eq_zero_iff : r.accessCount = 0 ↔ r.NeverAccessed := by
  have hcount : r.accessCount = 0 ↔ ∀ records ∈ r.accesses.values, records.size = 0 := by
    rw [accessCount, ← List.sum_eq_foldl, List.sum_eq_zero_iff_forall_eq_nat]
    simp
  have hempty : ∀ records : AccessRecords, records.size = 0 ↔ ∀ day, day ∉ records := by
    intro records
    rw [← Std.TreeMap.isEmpty_iff_forall_not_mem, Std.TreeMap.isEmpty_eq_size_eq_zero, beq_iff_eq]
  rw [hcount]
  constructor
  · rintro hzero channel day ⟨records, hrecords, hday⟩
    exact (hempty records).1 (hzero records (mem_values_accesses.2 ⟨channel, hrecords⟩)) day hday
  · intro hnever records hmem
    obtain ⟨channel, hrecords⟩ := mem_values_accesses.1 hmem
    exact (hempty records).2 fun day hday => hnever channel day ⟨records, hrecords, hday⟩

/-- **The last access on a channel bounds all of them.** -/
lemma lastAccess?_le_iff {channel : AccessChannel} {day : Date} :
    (∀ last, r.lastAccess? channel = some last → last ≤ day) ↔
      ∀ accessed, r.IsAccessedOn channel accessed → accessed ≤ day := by
  simp only [lastAccess?, IsAccessedOn]
  cases r.accesses.get? channel with
  | none => simp
  | some records =>
    have hbound := Std.TreeMap.maxKey?_le (t := records) (k := day)
    simpa [Date.isLE_compare] using hbound

end Replica

namespace Deletion

/-! ## Idle replicas -/

/-- No access is after a day just if all recorded ones are on it or before. -/
lemma not_accessedAfter_iff {r : Replica} {day : Date} :
    ¬ accessedAfter r day = true ↔
      ∀ channel accessed, r.IsAccessedOn channel accessed → accessed ≤ day := by
  simp only [accessedAfter, List.any_eq_true, Option.any_eq_true, decide_eq_true_eq, not_exists,
    not_and, ← Replica.lastAccess?_le_iff]
  constructor
  · intro hnone channel last hlast
    exact Int.not_lt.1 (hnone channel channel.mem_all last hlast)
  · intro hall channel _ last hlast
    exact Int.not_lt.2 (hall channel last hlast)

/-- **The deletion of what was not accessed applies to idle replicas.**

**Proof sketch.** That no record is counted adds nothing: without records no access is after any
day. -/
lemma applies_notAccessedFor_iff {cutoff : AgeCutoff} {v : View} {demand : Demand} :
    (notAccessedFor cutoff).applies v demand = true ↔ v.replica.IsIdleSince cutoff.date := by
  have hidle : (v.replica.accessCount == 0 || !accessedAfter v.replica cutoff.date) = true ↔
      ¬ accessedAfter v.replica cutoff.date = true := by
    rw [Bool.or_eq_true, beq_iff_eq, Bool.not_eq_true', ← Bool.not_eq_true, or_iff_right_iff_imp,
      Replica.accessCount_eq_zero_iff, not_accessedAfter_iff]
    exact fun hnever channel day haccess => absurd haccess (hnever channel day)
  rw [applies, Bool.and_eq_true, decide_eq_true_iff, hidle, not_accessedAfter_iff]
  rfl

/-- A deletion of what was not accessed for an age has the day of the instant that age ago. -/
lemma ofIdleAge_iff_before {age : Age} {now : Instant} {d : Deletion} :
    ofIdleAge age now = .ok d ↔
      ∃ t, age.before now = .ok t ∧ d = notAccessedFor ⟨t.date, age.text⟩ := by
  rw [ofIdleAge_ok_iff]
  constructor
  · rintro ⟨cutoff, hcutoff, rfl⟩
    obtain ⟨t, ht, rfl⟩ := Age.cutoff_eq_ok_iff.1 hcutoff
    exact ⟨t, ht, rfl⟩
  · rintro ⟨t, ht, rfl⟩
    exact ⟨_, Age.cutoff_eq_ok_iff.2 ⟨t, ht, rfl⟩, rfl⟩

/-- It decides to delete idle replicas. -/
lemma position?_notAccessedFor_iff {cutoff : AgeCutoff} {v : View} {demand : Demand} :
    (Rule.deletion (notAccessedFor cutoff)).position? v demand = some .delete ↔
      v.replica.IsIdleSince cutoff.date := by
  rw [Rule.position?_deletion_eq_delete_iff]
  exact applies_notAccessedFor_iff

/-- It takes no position on the other ones. -/
lemma evaluate_notAccessedFor_eq_none_iff {cutoff : AgeCutoff} {v : View} {demand : Demand} :
    (Rule.deletion (notAccessedFor cutoff)).evaluate v demand = none ↔
      ¬ v.replica.IsIdleSince cutoff.date := by
  have hdeletes : (Rule.deletion (notAccessedFor cutoff)).position? v demand = some .delete ↔
      v.replica.IsIdleSince cutoff.date := position?_notAccessedFor_iff
  rw [← Rule.position?_eq_none_iff, ← hdeletes, Rule.position?_deletion]
  split <;> simp

/-! ## Reasons -/

/-- What is said of a replica that was never accessed. -/
def neverAccessedReason (r : Replica) : String :=
  s!"Replica was created on {r.lastBlockCreated.date.text} but is never accessed."

/-- What is said of a replica that was not accessed for an age. -/
def lastAccessReason (age : Age) : String :=
  s!"Last access is older than {age.text}."

/-- The two reasons are told apart by their first letters. -/
lemma neverAccessedReason_ne (r : Replica) (age : Age) :
    neverAccessedReason r ≠ lastAccessReason age := by
  have hdiffer : ∀ day text : String, "Replica was created on " ++ day ++
      " but is never accessed." ≠ "Last access is older than " ++ text ++ "." := by
    intro day text h
    have hnever : "Replica was created on ".toList.head? = some 'R' := by decide
    have hlast : "Last access is older than ".toList.head? = some 'L' := by decide
    have hfirst := congrArg (fun text : String => text.toList.head?) h
    simp only [String.toList_append, List.head?_append, hnever, hlast, Option.some_or] at hfirst
    exact absurd hfirst (by decide)
  exact hdiffer _ _

/-- The reason of a deletion for not being accessed tells whether there is any access record. -/
lemma reason_of_evaluate {age : Age} {date : Date} {v : View} {demand : Demand} {w : Verdict}
    (h : (Rule.deletion (notAccessedFor ⟨date, age.text⟩)).evaluate v demand = some w) :
    (w.reason = neverAccessedReason v.replica ↔ v.replica.NeverAccessed) ∧
      (w.reason = lastAccessReason age ↔ ¬ v.replica.NeverAccessed) := by
  obtain ⟨reason, hreason, rfl⟩ := Option.map_eq_some_iff.1 h
  obtain ⟨-, hreason⟩ := Option.ite_none_right_eq_some.1 hreason
  have hcases : reason = if v.replica.accessCount = 0 then neverAccessedReason v.replica
      else lastAccessReason age := (Option.some.inj hreason).symm
  have hne := neverAccessedReason_ne v.replica age
  rw [← Replica.accessCount_eq_zero_iff]
  dsimp only
  rw [hcases]
  split
  next hzero => simp [hzero, hne]
  next hsome => simp [hsome, hne.symm]

/-! ## Deletions of what was not accessed for an age -/

/-- **Which replicas are deleted for not being accessed, and why.** A deletion of what was not
accessed for an age has a cutoff day. It decides to delete just the replicas whose newest block was
created on that day or before, and whose recorded accesses on all channels were made on that day or
before; on the other ones it takes no position. Its reason is that the replica was never accessed
just if no channel has any record, and else that the last access is older than the age.

**Proof sketch.** Days of access are ordered, and the last one on a channel bounds the others. -/
theorem ofIdleAge_deletes_iff {age : Age} {now : Instant} {d : Deletion}
    (h : ofIdleAge age now = .ok d) :
    ∃ cutoff, age.dateBefore now = .ok cutoff ∧ ∀ (v : View) (demand : Demand),
      ((Rule.deletion d).position? v demand = some .delete ↔ v.replica.IsIdleSince cutoff) ∧
      ((Rule.deletion d).evaluate v demand = none ↔ ¬ v.replica.IsIdleSince cutoff) ∧
      ∀ w, (Rule.deletion d).evaluate v demand = some w →
        (w.reason = neverAccessedReason v.replica ↔ v.replica.NeverAccessed) ∧
        (w.reason = lastAccessReason age ↔ ¬ v.replica.NeverAccessed) := by
  obtain ⟨t, ht, rfl⟩ := ofIdleAge_iff_before.1 h
  have hcutoff : age.dateBefore now = .ok t.date := by
    rw [Age.dateBefore, ht]
    rfl
  refine ⟨t.date, hcutoff, fun v demand => ⟨?_, ?_, fun w hw => reason_of_evaluate hw⟩⟩
  · exact position?_notAccessedFor_iff
  · exact evaluate_notAccessedFor_eq_none_iff

/-- The replica of 1970 at `T1`, accessed from its own site in 2022 and from elsewhere on some
day. -/
def accessedOn (day : Date) : View :=
  ⟨.ofName "/A/B/RAW" ⟨0, 0⟩, { Replica.ofSite "T1" ⟨0, 0⟩ with
    accesses := .insert (.insert ∅ .localAccess (.insert ∅ ⟨19000⟩ 2)) .remoteAccess
      (.insert ∅ day 1) }, .ofName "T1"⟩

lemma isAccessedOn_accessedOn {day accessed : Date} {channel : AccessChannel} :
    (accessedOn day).replica.IsAccessedOn channel accessed ↔
      channel = .localAccess ∧ accessed = ⟨19000⟩ ∨ channel = .remoteAccess ∧ accessed = day := by
  have hmem : ∀ (a b : Date) (n : ℕ), a ∈ (Std.TreeMap.insert ∅ b n : AccessRecords) ↔ a = b := by
    intro a b n
    rw [Std.TreeMap.mem_insert, Std.compare_eq_iff_eq]
    simp [eq_comm]
  cases channel <;>
    simp [Replica.IsAccessedOn, accessedOn, Std.TreeMap.getElem_insert, hmem]

/-- At noon of 1 June 2024, thirty days back is 2 May. A replica that was last accessed on that day
is deleted for it, and one that was last accessed on the next day is not. -/
theorem ofIdleAge_deletes_iff_thirty_days :
    ∃ d cutoff, ofIdleAge ⟨30.0, .days⟩ ⟨1717243200, 0⟩ = .ok d ∧
      Age.dateBefore ⟨30.0, .days⟩ ⟨1717243200, 0⟩ = .ok cutoff ∧
      (∃ w, (Rule.deletion d).evaluate (accessedOn ⟨19845⟩) .default = some w ∧
        w.decision = .delete ∧ w.reason = lastAccessReason ⟨30.0, .days⟩) ∧
      (Rule.deletion d).evaluate (accessedOn ⟨19846⟩) .default = none := by
  have hbefore : Age.before ⟨30.0, .days⟩ ⟨1717243200, 0⟩ = .ok ⟨1714651200, 0⟩ :=
    except_toOption_eq_some_iff.1 (by decide +kernel)
  have hd := ofIdleAge_iff_before.2 ⟨_, hbefore, rfl⟩
  obtain ⟨cutoff, hcutoff, hdeletes⟩ := ofIdleAge_deletes_iff hd
  obtain rfl : (⟨19845⟩ : Date) = cutoff := by
    rw [Age.dateBefore, hbefore] at hcutoff
    exact Except.ok.inj hcutoff
  have hidle : (accessedOn ⟨19845⟩).replica.IsIdleSince ⟨19845⟩ := by
    refine ⟨by decide, fun channel accessed haccess => ?_⟩
    rcases isAccessedOn_accessedOn.1 haccess with ⟨-, rfl⟩ | ⟨-, rfl⟩ <;> decide
  have hbusy : ¬ (accessedOn ⟨19846⟩).replica.IsIdleSince ⟨19845⟩ := by
    rintro ⟨-, hall⟩
    exact absurd (hall _ _ (isAccessedOn_accessedOn.2 (.inr ⟨rfl, rfl⟩))) (by decide)
  have haccessed : ¬ (accessedOn ⟨19845⟩).replica.NeverAccessed :=
    fun hnever => hnever _ _ (isAccessedOn_accessedOn.2 (.inr ⟨rfl, rfl⟩))
  obtain ⟨hdecision, -, hreason⟩ := hdeletes (accessedOn ⟨19845⟩) .default
  obtain ⟨w, hw, hdelete⟩ := Option.map_eq_some_iff.1 (hdecision.2 hidle)
  exact ⟨_, _, hd, hcutoff, ⟨w, hw, hdelete, (hreason w hw).2.2 haccessed⟩,
    (hdeletes (accessedOn ⟨19846⟩) .default).2.1.2 hbusy⟩

/-- **A replica that is deleted for not being accessed is no younger than the age, up to the end of
a day.** Its newest block was created no later than the instant that age ago, or on the same day as
that instant and less than 24 hours after it.

**Proof sketch.** Its day is compared with that of the instant. An instant on an earlier day is
earlier. -/
theorem ofIdleAge_deletes_within_day {age : Age} {now : Instant} {d : Deletion}
    (h : ofIdleAge age now = .ok d) :
    ∃ t, age.before now = .ok t ∧ ∀ (v : View) (demand : Demand),
      (Rule.deletion d).position? v demand = some .delete →
        v.replica.lastBlockCreated ≤ t ∨
          v.replica.lastBlockCreated.date = t.date ∧ v.replica.lastBlockCreated < t.dayLater := by
  obtain ⟨t, ht, rfl⟩ := ofIdleAge_iff_before.1 h
  refine ⟨t, ht, fun v demand hdelete => ?_⟩
  obtain ⟨hday, -⟩ := position?_notAccessedFor_iff.1 hdelete
  rcases Int.lt_or_eq_of_le hday with hearlier | hsame
  · exact .inl (le_of_lt (Instant.lt_of_date_lt hearlier))
  · exact .inr ⟨congrArg Date.mk hsame, Instant.lt_dayLater_of_date_le hday⟩

/-- One hour before noon of 1 June 2024 it is eleven. -/
lemma before_one_hour : Age.before ⟨1.0, .hours⟩ ⟨1717243200, 0⟩ = .ok ⟨1717239600, 0⟩ :=
  except_toOption_eq_some_iff.1 (by decide +kernel)

/-- The replica at `T1` without any access whose newest block was created at some time. -/
def createdAt (t : Instant) : View :=
  ⟨.ofName "/A/B/RAW" ⟨0, 0⟩, .ofSite "T1" t, .ofName "T1"⟩

/-- A replica of half past eleven is deleted at noon for not being accessed for an hour. It is of
the same day as eleven. -/
theorem ofIdleAge_deletes_within_day_one_hour :
    ∃ d, ofIdleAge ⟨1.0, .hours⟩ ⟨1717243200, 0⟩ = .ok d ∧
      (Rule.deletion d).position? (createdAt ⟨1717241400, 0⟩) .default = some .delete ∧
      ((⟨1717241400, 0⟩ : Instant) ≤ ⟨1717239600, 0⟩ ∨
        (⟨1717241400, 0⟩ : Instant).date = (⟨1717239600, 0⟩ : Instant).date ∧
          (⟨1717241400, 0⟩ : Instant) < (⟨1717239600, 0⟩ : Instant).dayLater) := by
  have hd := ofIdleAge_iff_before.2 ⟨_, before_one_hour, rfl⟩
  obtain ⟨t, ht, hwithin⟩ := ofIdleAge_deletes_within_day hd
  obtain rfl := Except.ok.inj (before_one_hour.symm.trans ht)
  have hdelete : (Rule.deletion (notAccessedFor ⟨(⟨1717239600, 0⟩ : Instant).date,
      Age.text ⟨1.0, .hours⟩⟩)).position? (createdAt ⟨1717241400, 0⟩) .default = some .delete := rfl
  exact ⟨_, hd, hdelete, hwithin _ _ hdelete⟩

/-- **A replica may be deleted for not being accessed for longer than it exists.** A replica of half
past eleven is deleted at noon for not being accessed for an hour. -/
theorem ofIdleAge_deletes_younger :
    ∃ d t, ofIdleAge ⟨1.0, .hours⟩ ⟨1717243200, 0⟩ = .ok d ∧
      Age.before ⟨1.0, .hours⟩ ⟨1717243200, 0⟩ = .ok t ∧
      (Rule.deletion d).position? (createdAt ⟨1717241400, 0⟩) .default = some .delete ∧
      ¬ (createdAt ⟨1717241400, 0⟩).replica.lastBlockCreated ≤ t :=
  ⟨_, _, ofIdleAge_iff_before.2 ⟨_, before_one_hour, rfl⟩, before_one_hour, rfl, by decide⟩

end Deletion

end ReplicaPolicy
