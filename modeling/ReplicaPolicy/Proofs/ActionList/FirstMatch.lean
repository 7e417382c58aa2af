import ReplicaPolicy.Proofs.ActionList.Calls

set_option relaxedAutoImplicit false
set_option autoImplicit false

/-!
# What comes first stays

Lists grow at their end, and the first entry that selects a replica decides it. So a replica that is
decided stays decided as it is, whatever the list is grown by, and entries that stand in the list
already decide nothing new. Exceptions to the number of copies that a dataset must keep are searched
in the same way.

## Main definitions

* `ReplicaPolicy.ActionList.Call.loaded` — the texts that a call loads.

## Main results

* `ReplicaPolicy.ActionList.evaluate_extend` — a list decides before what is added to it.
* `ReplicaPolicy.ActionList.evaluate_extend_of_subset` — entries that are there decide nothing new.
* `ReplicaPolicy.ActionList.Call.gain_eq_flatMap_loaded` — a call adds what its texts write.
* `ReplicaPolicy.ActionList.first_match_lasts` — what comes first stays.
-/

namespace ReplicaPolicy

namespace ActionList

open ActionEntry (writtenIn)
open ActionLine (firstMalformed?)

/-! ## Growing lists -/

/-- **A list decides before what is added to it.** -/
lemma evaluate_extend (l : ActionList) (es : List ActionEntry) (v : View) :
    (l.extend es).evaluate v =
      (l.evaluate v).or ((es.find? fun e => e.selects v).map ActionEntry.verdict) := by
  rw [evaluate, extend, List.find?_append, Option.map_or]
  rfl

/-- A replica that is decided stays decided as it is. -/
lemma evaluate_extend_of_eq_some {l : ActionList} {v : View} {verdict : Verdict}
    (h : l.evaluate v = some verdict) (es : List ActionEntry) :
    (l.extend es).evaluate v = some verdict := by
  rw [evaluate_extend, h, Option.some_or]

/-- **Entries that are there decide nothing new.** -/
lemma evaluate_extend_of_subset {l : ActionList} {es : List ActionEntry} (h : es ⊆ l.entries)
    (v : View) : (l.extend es).evaluate v = l.evaluate v := by
  rw [evaluate_extend]
  cases hv : l.evaluate v with
  | some verdict => rfl
  | none =>
    -- no entry of the list selects the replica, and the others are entries of the list
    rw [evaluate, Option.map_eq_none_iff, List.find?_eq_none] at hv
    have hes : (es.find? fun e => e.selects v) = none :=
      List.find?_eq_none.2 fun e he => hv e (h he)
    rw [hes]
    rfl

/-! ## Loading again -/

namespace Call

/-- The texts that a call loads: those that can be read, and of a strict list one without malformed
lines. An entry that is added by itself is no text. -/
def loaded (files : Files) : Call → List String
  | add _ => []
  | load text => [text]
  | loadStrict text => if (firstMalformed? text).isSome then [] else [text]
  | loadFile path => readable files [path]
  | loadFiles paths => readable files paths

/-- **A call adds what its texts write**, unless it adds an entry by itself. -/
lemma gain_eq_flatMap_loaded {call : Call} (h : ∀ line, call ≠ add line) (files : Files) :
    call.gain files = (call.loaded files).flatMap writtenIn := by
  cases call with
  | add line => exact absurd rfl (h line)
  | load text => exact (List.flatMap_singleton writtenIn text).symm
  | loadStrict text =>
    rw [gain, loaded]
    split
    · rfl
    · exact (List.flatMap_singleton writtenIn text).symm
  | loadFile path => rfl
  | loadFiles paths => rfl

/-- What a text writes that a call loads is added. -/
lemma writtenIn_subset_gain {files : Files} {call : Call} {text : String}
    (h : text ∈ call.loaded files) : writtenIn text ⊆ call.gain files := by
  have hne : ∀ line, call ≠ add line := by
    rintro line rfl
    exact List.not_mem_nil h
  rw [gain_eq_flatMap_loaded hne]
  exact fun e he => List.mem_flatMap.2 ⟨text, h, he⟩

/-- What a call adds was added before if its texts were loaded before. -/
lemma gain_subset_entries_run {files : Files} {call : Call} (hne : ∀ line, call ≠ add line)
    {calls : List (Files × Call)}
    (hloaded : ∀ text ∈ call.loaded files, ∃ c ∈ calls, text ∈ c.2.loaded c.1) (l : ActionList) :
    call.gain files ⊆ (l.run calls).entries := by
  intro e he
  rw [gain_eq_flatMap_loaded hne, List.mem_flatMap] at he
  obtain ⟨text, htext, he⟩ := he
  obtain ⟨c, hc, hctext⟩ := hloaded text htext
  rw [run_eq]
  exact List.mem_append_right _ (List.mem_flatMap.2 ⟨c, hc, writtenIn_subset_gain hctext he⟩)

end Call

/-! ## Exceptions -/

/-- Exceptions are compiled into a protection one by one. -/
lemma ofExceptions_eq_ok_iff {written : List (String × ℕ)} {exceptions : List CopyException} :
    Protection.ofExceptions written = .ok (.minimumCopies exceptions) ↔
      written.mapM exceptionOf = .ok exceptions := by
  rw [Protection.ofExceptions, except_map_eq_ok_iff]
  constructor
  · rintro ⟨compiled, h, hcompiled⟩
    rw [h, Protection.minimumCopies.inj hcompiled]
  · intro h
    exact ⟨exceptions, h, rfl⟩

/-- Exceptions behind others leave a dataset for which there was one with the copies of that one. -/
lemma requiredCopies_of_ofExceptions_append {written others : List (String × ℕ)}
    {exceptions exceptions' : List CopyException}
    (h : Protection.ofExceptions written = .ok (.minimumCopies exceptions))
    (h' : Protection.ofExceptions (written ++ others) = .ok (.minimumCopies exceptions'))
    {dataset : String} (hselects : ∃ e ∈ exceptions, e.1.selects dataset = true)
    (demand : Demand) :
    requiredCopies exceptions' dataset demand = requiredCopies exceptions dataset demand := by
  rw [ofExceptions_eq_ok_iff] at h
  rw [ofExceptions_eq_ok_iff, mapM_append_eq_ok_iff] at h'
  obtain ⟨front, back, hfront, -, rfl⟩ := h'
  obtain rfl := Except.ok.inj (h.symm.trans hfront)
  exact requiredCopies_append hselects back demand

/-! ## What comes first -/

/-- **What comes first stays.** A verdict of a list is its verdict after any calls, whether they
succeed or fail. A call that loads only texts that were loaded before, in whatever way, changes no
verdict and leaves undecided what was. Exceptions that are put behind others do not change how many
copies a dataset must keep for which there was one.

**Proof sketch.** Every call adds its gain at the end of the list. Of a text that was loaded before,
all entries stand in the list already. -/
theorem first_match_lasts :
    (∀ (l : ActionList) (v : View) (verdict : Verdict), l.evaluate v = some verdict →
      ∀ calls : List (Files × Call), (l.run calls).evaluate v = some verdict) ∧
    (∀ (l : ActionList) (calls : List (Files × Call)) (files : Files) (call : Call),
      (∀ line, call ≠ .add line) →
      (∀ text ∈ call.loaded files, ∃ c ∈ calls, text ∈ c.2.loaded c.1) →
      ∀ v, (call.perform files (l.run calls)).1.evaluate v = (l.run calls).evaluate v) ∧
    ∀ (written others : List (String × ℕ)) (exceptions exceptions' : List CopyException),
      Protection.ofExceptions written = .ok (.minimumCopies exceptions) →
      Protection.ofExceptions (written ++ others) = .ok (.minimumCopies exceptions') →
      ∀ dataset, (∃ e ∈ exceptions, e.1.selects dataset = true) → ∀ demand,
        requiredCopies exceptions' dataset demand = requiredCopies exceptions dataset demand := by
  refine ⟨fun l v verdict h calls => ?_, fun l calls files call hne hloaded v => ?_,
    fun written others exceptions exceptions' h h' dataset hselects demand => ?_⟩
  · rw [run_eq]
    exact evaluate_extend_of_eq_some h _
  · rw [Call.perform_eq]
    exact evaluate_extend_of_subset (Call.gain_subset_entries_run hne hloaded l) v
  · exact requiredCopies_of_ofExceptions_append h h' hselects demand

/-- The replica at `T1` of some raw data. -/
def rawAtT1 : View :=
  ⟨.ofName "/A/B/RAW" ⟨0, 0⟩, .ofSite "T1" ⟨0, 0⟩, .ofName "T1"⟩

/-- A replica that is to be deleted stays so although raw data is to be kept later, among calls that
fail. A file that was loaded may be loaded again as a text. The third copy that one exception asks
for is not given up for a later exception. -/
theorem first_match_lasts_delete_raw :
    (∃ verdict, ((named "raw").load "Delete T1* /*/*/*").1.evaluate rawAtT1 = some verdict ∧
      verdict.decision = .delete ∧
      (((named "raw").load "Delete T1* /*/*/*").1.run [(keptFiles, .loadFile "lost.list"),
        (keptFiles, .loadFile "kept.list"), (keptFiles, .loadStrict "Keep T1")]).evaluate rawAtT1 =
          some verdict) ∧
    ((∀ text ∈ (Call.load "# for good\nKeep * /*/*/RAW\r\n").loaded keptFiles,
        text ∈ (Call.loadFile "kept.list").loaded keptFiles) ∧
      (((named "raw").run [(keptFiles, .loadFile "kept.list")]).load
          "# for good\nKeep * /*/*/RAW\r\n").1.evaluate rawAtT1 =
        ((named "raw").run [(keptFiles, .loadFile "kept.list")]).evaluate rawAtT1) ∧
    ∃ exceptions exceptions',
      Protection.ofExceptions [("/A/*/*", 3)] = .ok (.minimumCopies exceptions) ∧
      Protection.ofExceptions [("/A/*/*", 3), ("/*/*/RAW", 1)] = .ok (.minimumCopies exceptions') ∧
      (∃ e ∈ exceptions, e.1.selects "/A/B/RAW" = true) ∧
      requiredCopies exceptions' "/A/B/RAW" .default =
        requiredCopies exceptions "/A/B/RAW" .default := by
  obtain ⟨hstays, hagain, hcopies⟩ := first_match_lasts
  refine ⟨?_, ?_, ?_⟩
  · have hdeleted : ((named "raw").load "Delete T1* /*/*/*").1.evaluate rawAtT1 = some
        ⟨.delete, "Pattern match: (action, site, dataset) = (Delete, T1*, /*/*/*)", none⟩ := by
      decide +kernel
    exact ⟨_, hdeleted, rfl, hstays _ _ _ hdeleted _⟩
  · have hloaded : ∀ text ∈ (Call.load "# for good\nKeep * /*/*/RAW\r\n").loaded keptFiles,
        text ∈ (Call.loadFile "kept.list").loaded keptFiles := fun text htext => htext
    refine ⟨hloaded, hagain _ _ keptFiles (.load _) (fun line h => ?_) (fun text htext => ?_) _⟩
    · exact absurd h (by simp)
    · exact ⟨_, List.mem_cons_self, hloaded text htext⟩
  · have hall : exceptionOf ("/A/*/*", 3) = .ok _ :=
      except_map_eq_ok_iff.2 ⟨_, Glob.compile_of_no_bracket (by decide), rfl⟩
    have hraw : exceptionOf ("/*/*/RAW", 1) = .ok _ :=
      except_map_eq_ok_iff.2 ⟨_, Glob.compile_of_no_bracket (by decide), rfl⟩
    have h := ofExceptions_eq_ok_iff.2 (mapM_eq_ok_iff.2 (.cons hall .nil))
    have h' := ofExceptions_eq_ok_iff.2 (mapM_eq_ok_iff.2 (.cons hall (.cons hraw .nil)))
    exact ⟨_, _, h, h', ⟨_, List.mem_cons_self, rfl⟩,
      hcopies _ _ _ _ h h' _ ⟨_, List.mem_cons_self, rfl⟩ _⟩

end ActionList

end ReplicaPolicy
