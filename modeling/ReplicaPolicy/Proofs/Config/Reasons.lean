import ReplicaPolicy.Proofs.ActionList.Calls
import ReplicaPolicy.Proofs.Config.Requirement
import ReplicaPolicy.Proofs.Text.OneLine

set_option relaxedAutoImplicit false
set_option autoImplicit false

/-!
# What reasons tell

A reason is put together from fixed words, from numbers, dates and ages, and from texts that someone
wrote: the reason or the condition of a rule, the group of a protection, the entries of a list. Only
the last can hold a line break, and of lists only the entries of a definition itself: a list file is
read line by line.

## Main definitions

* `ReplicaPolicy.Rule.told` — the texts that the reasons of a rule tell.
* `ReplicaPolicy.RuleConfig.told` — those that the definition of a rule has for its reasons.

## Main results

* `ReplicaPolicy.Rule.isOneLine_reason` — the reasons of a rule are on one line if what they tell
  is.
* `ReplicaPolicy.RuleConfig.isOneLine_told_of_build` — building adds no line break.
* `ReplicaPolicy.StackConfig.isOneLine_of_evaluate` — decisions by a definition without line breaks
  about names without line breaks are on one line.
-/

namespace ReplicaPolicy

open Text (IsOneLine)

/-! ## Rules -/

/-- The texts that the reason of a protection tells, besides numbers, dates and fixed words. -/
def Protection.told : Protection → List String
  | .notOwnedBy group => [group]
  | _ => []

/-- The texts that the reason of a deletion tells. -/
def Deletion.told : Deletion → List String
  | .olderThan cutoff _ _ | .notAccessedFor cutoff => [cutoff.text]
  | _ => []

/-- The texts that the reason of an entry tells. -/
def ActionEntry.told (e : ActionEntry) : List String :=
  [e.action, e.site.text, e.dataset.text]

/-- The texts that the reasons of a rule tell. -/
def Rule.told : Rule → List String
  | .protection p => p.told
  | .deletion d => d.told
  | .condition c => [c.reason]
  | .actionList l => l.entries.flatMap ActionEntry.told

/-- Of the protections, only that of what a group does not own tells a text. -/
lemma Protection.isOneLine_reason {p : Protection} (h : ∀ text ∈ p.told, IsOneLine text) (v : View)
    (demand : Demand) : IsOneLine (p.reason v demand) := by
  unfold Protection.reason
  cases p with
  | notOwnedBy group =>
    have hgroup : IsOneLine group := h group List.mem_cons_self
    exact Text.isOneLine_append.2 ⟨by decide +kernel, hgroup⟩
  | minimumCopies exceptions =>
    exact (Decimal.isOneLine_toString _).between (by decide +kernel) (by decide +kernel)
  | newDiskOnly threshold =>
    exact threshold.date.isOneLine_text.between (by decide +kernel) (by decide +kernel)
  | incomplete | locked | custodial | diskOnly | diskOnlyByName _ _ | nonreadySite
  | incompleteTapeCopy =>
    dsimp only
    decide +kernel

/-- Of the deletions, those by age tell the text of the age. -/
lemma Deletion.isOneLine_reason {d : Deletion} (h : ∀ text ∈ d.told, IsOneLine text) (v : View) :
    IsOneLine (d.reason v) := by
  unfold Deletion.reason
  cases d with
  | olderThan cutoff _ _ =>
    have hcutoff : IsOneLine cutoff.text := h cutoff.text List.mem_cons_self
    exact hcutoff.between (by decide +kernel) (by decide +kernel)
  | notAccessedFor cutoff =>
    have hcutoff : IsOneLine cutoff.text := h cutoff.text List.mem_cons_self
    dsimp only
    split
    · exact (Date.isOneLine_text _).between (by decide +kernel) (by decide +kernel)
    · exact hcutoff.between (by decide +kernel) (by decide +kernel)
  | unused threshold =>
    exact (Decimal.isOneLine_fixed 6 threshold).between (by decide +kernel) (by decide +kernel)
  | isPartial | deprecated | oldUnused _ _ =>
    dsimp only
    decide +kernel

/-- An entry tells its word and its globs. -/
lemma ActionEntry.isOneLine_reason {e : ActionEntry} (h : ∀ text ∈ e.told, IsOneLine text) :
    IsOneLine e.verdict.reason := by
  have haction : IsOneLine e.action := h _ (by simp [told])
  have hsite : IsOneLine e.site.text := h _ (by simp [told])
  have hdataset : IsOneLine e.dataset.text := h _ (by simp [told])
  have hseparator : IsOneLine ", " := by decide
  simp only [verdict, Text.isOneLine_append]
  exact ⟨⟨⟨⟨⟨by decide +kernel, haction⟩, hseparator⟩, hsite⟩, hseparator⟩, hdataset, by decide⟩

/-- **The reasons of a rule are on one line if the texts are that they tell.**

**Proof sketch.** By the kind of the rule. A condition tells its reason as it is, and a list that of
the entry which decides. -/
theorem Rule.isOneLine_reason {r : Rule} (h : ∀ text ∈ r.told, IsOneLine text) {v : View}
    {demand : Demand} {w : Verdict} (hw : r.evaluate v demand = some w) : IsOneLine w.reason := by
  cases r with
  | protection p =>
    obtain ⟨reason, hreason, rfl⟩ := Option.map_eq_some_iff.1 hw
    obtain ⟨-, hp⟩ := Option.ite_none_right_eq_some.1 hreason
    obtain rfl := Option.some.inj hp
    exact Protection.isOneLine_reason h v demand
  | deletion d =>
    obtain ⟨reason, hreason, rfl⟩ := Option.map_eq_some_iff.1 hw
    obtain ⟨-, hd⟩ := Option.ite_none_right_eq_some.1 hreason
    obtain rfl := Option.some.inj hd
    exact Deletion.isOneLine_reason h v
  | condition c =>
    obtain ⟨-, hc⟩ := Option.ite_none_right_eq_some.1 hw
    obtain rfl := Option.some.inj hc
    exact h _ List.mem_cons_self
  | actionList l =>
    obtain ⟨e, he, rfl⟩ := Option.map_eq_some_iff.1 hw
    exact ActionEntry.isOneLine_reason fun text htext =>
      h text (List.mem_flatMap.2 ⟨e, List.mem_of_find?_eq_some he, htext⟩)

/-- What a stack decides is told in a reason of a rule, or in the fixed words for the default. -/
lemma PolicyStack.isOneLine_reason {s : PolicyStack}
    (h : ∀ r ∈ s.rules, ∀ text ∈ r.told, IsOneLine text) (v : View) (demand : Demand) :
    IsOneLine (s.decide v demand).reason := by
  have hdefault : IsOneLine PolicyStack.defaultReason := by decide +kernel
  rw [decide, evaluate]
  cases hfirst : firstVerdict? s.rules v demand with
  | none => exact hdefault
  | some verdict =>
    obtain ⟨r, hr, hsigned⟩ := List.exists_of_findSome?_eq_some hfirst
    obtain ⟨w, hw, rfl⟩ := Option.map_eq_some_iff.1 hsigned
    have hreason : IsOneLine w.reason := Rule.isOneLine_reason (h r hr) hw
    exact hreason

/-! ## Lists -/

/-- The texts of an entry as it is written. -/
def ActionLine.told (line : ActionLine) : List String :=
  [line.action, line.site, line.dataset]

/-- An entry tells what was written. -/
lemma ActionEntry.told_of_compile {line : ActionLine} {e : ActionEntry} (h : compile line = .ok e) :
    e.told = line.told := by
  obtain ⟨hsite, hdataset, haction⟩ := compile_eq_ok_iff.1 h
  rw [told, ActionLine.told, Glob.text_ofText? (Glob.compile_eq_ok_iff.1 hsite),
    Glob.text_ofText? (Glob.compile_eq_ok_iff.1 hdataset), haction]

/-- A word holds no line break. -/
lemma isOneLine_of_isUnbroken {text : String} (h : Text.IsUnbroken text.toList) :
    IsOneLine text := fun hbreak =>
  absurd (h.2 _ hbreak) (by decide)

/-- The entries that a text writes tell words of its lines. -/
lemma ActionEntry.isOneLine_of_mem_writtenIn {text : String} {e : ActionEntry}
    (h : e ∈ writtenIn text) : ∀ told ∈ e.told, IsOneLine told := by
  obtain ⟨line, hline, he⟩ := List.mem_filterMap.1 h
  obtain ⟨cs, -, hcs⟩ := List.mem_filterMap.1 hline
  obtain ⟨hentry, -⟩ := ActionLine.ofLine?_eq_some_iff.1 hcs
  rw [told_of_compile (except_toOption_eq_some_iff.1 he)]
  simp only [ActionLine.told, List.forall_mem_cons]
  exact ⟨isOneLine_of_isUnbroken hentry.isUnbroken_action,
    isOneLine_of_isUnbroken hentry.isUnbroken_site,
    isOneLine_of_isUnbroken hentry.isUnbroken_dataset, List.forall_mem_nil _⟩

/-- Entries that are added to a list come from what was written.

**Proof sketch.** Induction on what was written. Each addition puts one entry at the end. -/
lemma ActionList.mem_or_exists_of_foldlM {lines : List ActionLine} {l m : ActionList}
    (h : lines.foldlM add l = .ok m) {e : ActionEntry} (he : e ∈ m.entries) :
    e ∈ l.entries ∨ ∃ line ∈ lines, ActionEntry.compile line = .ok e := by
  induction lines generalizing l with
  | nil =>
    obtain rfl := Except.ok.inj h
    exact .inl he
  | cons line lines ih =>
    rw [List.foldlM_cons] at h
    obtain ⟨l', hadd, hrest⟩ := except_bind_eq_ok_iff.1 h
    obtain ⟨first, hfirst, rfl⟩ := entries_add hadd
    rcases ih hrest with hmem | ⟨other, hother, hcompile⟩
    · rcases List.mem_append.1 hmem with hmem | hmem
      · exact .inl hmem
      · obtain rfl := List.mem_singleton.1 hmem
        exact .inr ⟨line, List.mem_cons_self, hfirst⟩
    · exact .inr ⟨other, List.mem_cons_of_mem _ hother, hcompile⟩

/-! ## Definitions -/

/-- A condition has the text that it was compiled from. -/
lemma Condition.text_of_compile {partition : Option String} {text : String} {c : Condition}
    (h : compile partition text = .ok c) : c.text = text := by
  obtain ⟨predicates, -, hc⟩ := except_bind_eq_ok_iff.1 h
  obtain rfl := Except.ok.inj hc
  rfl

/-- A cutoff tells the text of its age. -/
lemma Age.isOneLine_cutoff {a : Age} {now : Instant} {cutoff : AgeCutoff}
    (h : a.cutoff now = .ok cutoff) : IsOneLine cutoff.text := by
  obtain ⟨date, -, rfl⟩ := except_map_eq_ok_iff.1 h
  exact a.isOneLine_text

namespace RuleConfig

/-- The texts that the definition of a rule has for its reasons. A condition that is given no reason
is told itself. The files of a list are not looked at. -/
def told : RuleConfig → List String
  | .condition text _ reason => [reason.getD text]
  | .protectNotOwnedBy group => [group]
  | .actionList _ _ entries _ => entries.flatMap ActionLine.told
  | _ => []

variable {files : Files} {directory : String} {partition : Option String} {now : Instant}

/-- Of a list, the entries of files are on one line, whatever the files hold. -/
lemma isOneLine_told_of_buildList {name : Option String} {paths : List String}
    {entries : List ActionLine} {strict : Bool} {l : ActionList}
    (h : ∀ line ∈ entries, ∀ text ∈ line.told, IsOneLine text)
    (hl : buildList files directory name paths entries strict = .ok l) :
    ∀ e ∈ l.entries, ∀ text ∈ e.told, IsOneLine text := by
  intro e he
  obtain ⟨loaded, _, hload, hentries⟩ := buildList_eq_ok_iff.1 (buildList_of_strict hl)
  rcases ActionList.mem_or_exists_of_foldlM hentries he with hmem | ⟨line, hline, hcompile⟩
  · have hloaded := hload
    rw [if_neg Bool.false_ne_true, ActionList.loadFiles_eq] at hloaded
    obtain ⟨rfl, -⟩ := Prod.mk.inj hloaded
    obtain ⟨text, -, htext⟩ := List.mem_flatMap.1 ((List.mem_append.1 hmem).resolve_left
      List.not_mem_nil)
    exact ActionEntry.isOneLine_of_mem_writtenIn htext
  · rw [ActionEntry.told_of_compile hcompile]
    exact h line hline

/-- **Building adds no line break**: a rule tells numbers, dates, ages and words of list files, and
else only the texts of its definition.

**Proof sketch.** By the kind of the definition. -/
theorem isOneLine_told_of_build {cfg : RuleConfig} {r : Rule}
    (h : ∀ text ∈ cfg.told, IsOneLine text)
    (hr : cfg.build files directory partition now = .ok r) : ∀ text ∈ r.told, IsOneLine text := by
  cases cfg with
  | actionList name paths entries strict =>
    obtain ⟨l, hl, rfl⟩ := except_map_eq_ok_iff.1 hr
    have hentries := isOneLine_told_of_buildList
      (fun line hline text htext => h text (List.mem_flatMap.2 ⟨line, hline, htext⟩)) hl
    intro text htext
    obtain ⟨e, he, htext⟩ := List.mem_flatMap.1 htext
    exact hentries e he text htext
  | condition text decision reason =>
    obtain ⟨c, hc, rfl⟩ := except_map_eq_ok_iff.1 hr
    have htold := h _ List.mem_cons_self
    refine List.forall_mem_singleton.2 ?_
    cases reason with
    | some reason => exact htold
    | none =>
      have htext : IsOneLine c.text := by rwa [Condition.text_of_compile hc]
      exact Text.isOneLine_append.2 ⟨by decide, htext⟩
  | deleteByNameOlderThan age pattern update =>
    obtain ⟨d, hd, rfl⟩ := except_map_eq_ok_iff.1 hr
    obtain ⟨cutoff, hcutoff, hglob⟩ := except_bind_eq_ok_iff.1 hd
    obtain ⟨glob, -, hglob⟩ := except_bind_eq_ok_iff.1 hglob
    obtain rfl := Except.ok.inj hglob
    exact List.forall_mem_singleton.2 (Age.isOneLine_cutoff hcutoff)
  | deleteNotAccessedFor age =>
    obtain ⟨d, hd, rfl⟩ := except_map_eq_ok_iff.1 hr
    obtain ⟨cutoff, hcutoff, rfl⟩ := Deletion.ofIdleAge_ok_iff.1 hd
    exact List.forall_mem_singleton.2 (Age.isOneLine_cutoff hcutoff)
  | deleteOldUnused datasetDays replicaDays =>
    obtain ⟨d, hd, rfl⟩ := except_map_eq_ok_iff.1 hr
    obtain ⟨dataset, -, hreplica⟩ := except_bind_eq_ok_iff.1 hd
    obtain ⟨replica, -, hreplica⟩ := except_bind_eq_ok_iff.1 hreplica
    obtain rfl := Except.ok.inj hreplica
    exact List.forall_mem_nil _
  | protectByNameDiskOnly pattern protectMatch =>
    obtain ⟨p, hp, rfl⟩ := except_map_eq_ok_iff.1 hr
    obtain ⟨glob, -, rfl⟩ := except_map_eq_ok_iff.1 hp
    exact List.forall_mem_nil _
  | protectMinimumCopies exceptions =>
    obtain ⟨p, hp, rfl⟩ := except_map_eq_ok_iff.1 hr
    obtain ⟨exceptions, -, rfl⟩ := except_map_eq_ok_iff.1 hp
    exact List.forall_mem_nil _
  | protectNewDiskOnly age =>
    obtain ⟨p, hp, rfl⟩ := except_map_eq_ok_iff.1 hr
    obtain ⟨threshold, -, rfl⟩ := except_map_eq_ok_iff.1 hp
    exact List.forall_mem_nil _
  | protectNotOwnedBy group =>
    obtain rfl := Except.ok.inj hr
    exact h
  | protectIncomplete | protectLocked | protectCustodial | protectDiskOnly | protectNonreadySite
  | protectIncompleteTapeCopy | deletePartial | deleteDeprecated | deleteUnused _ =>
    obtain rfl := Except.ok.inj hr
    exact List.forall_mem_nil _

end RuleConfig

/-! ## Decisions -/

/-- The names of the sites and the datasets of an inventory. -/
def Inventory.names (inv : Inventory) : List String :=
  inv.sites.map Site.name ++ inv.datasets.map Dataset.name

/-- The names of a replica are names of the inventory. -/
lemma Inventory.names_of_mem_replicas {inv : Inventory} {x : View × Demand}
    (h : x ∈ inv.replicas) : x.1.site.name ∈ inv.names ∧ x.1.dataset.name ∈ inv.names := by
  obtain ⟨d, hd, hviews⟩ := List.mem_flatMap.1 h
  obtain ⟨v, hv, rfl⟩ := List.mem_map.1 hviews
  obtain ⟨r, -, hr⟩ := List.mem_filterMap.1 hv
  obtain ⟨s, hs, rfl⟩ := Option.map_eq_some_iff.1 hr
  have hsite : s ∈ inv.sites := List.mem_reverse.1 (List.mem_of_find?_eq_some hs)
  exact ⟨List.mem_append_left _ (List.mem_map_of_mem hsite),
    List.mem_append_right _ (List.mem_map_of_mem hd)⟩

/-- The names and the reason of a decision are on one line. -/
def ReplicaDecision.IsOneLine (d : ReplicaDecision) : Prop :=
  Text.IsOneLine d.replica.site ∧ Text.IsOneLine d.replica.dataset ∧ Text.IsOneLine d.reason

instance (d : ReplicaDecision) : Decidable d.IsOneLine :=
  inferInstanceAs (Decidable (_ ∧ _))

namespace StackConfig

/-- The texts that the definition of a stack has for the reasons of its rules. -/
def told (c : StackConfig) : List String :=
  c.rules.flatMap RuleConfig.told

variable {files : Files} {now : Instant} {c : StackConfig} {inv : Inventory}
  {decided : List ReplicaDecision}

/-- **Decisions are on one line** if the names in the inventory are, and the texts that the
definition of the stack has for its reasons. -/
theorem isOneLine_of_evaluate (htold : ∀ text ∈ c.told, IsOneLine text)
    (hnames : ∀ name ∈ inv.names, IsOneLine name)
    (h : c.evaluate files now inv = .ok decided) : ∀ d ∈ decided, d.IsOneLine := by
  obtain ⟨s, replicas, hs, hselects, rfl⟩ := evaluate_eq_ok_iff_selects.1 h
  have hrules : ∀ r ∈ s.rules, ∀ text ∈ r.told, IsOneLine text := by
    intro r hr
    obtain ⟨i, hi⟩ := List.mem_iff_getElem?.1 hr
    obtain ⟨cfg, hcfg, hbuild⟩ := exists_config_of_build hs hi
    exact RuleConfig.isOneLine_told_of_build (fun text htext =>
      htold text (List.mem_flatMap.2 ⟨cfg, List.mem_of_getElem? hcfg, htext⟩)) hbuild
  intro d hd
  obtain ⟨x, hx, rfl⟩ := List.mem_map.1 hd
  obtain ⟨hsite, hdataset⟩ := Inventory.names_of_mem_replicas (hselects.sublist.subset hx)
  exact ⟨hnames _ hsite, hnames _ hdataset, PolicyStack.isOneLine_reason hrules x.1 x.2⟩

end StackConfig

end ReplicaPolicy
