import ReplicaPolicy.Proofs.ActionList.Calls
import ReplicaPolicy.Proofs.Age.Counting

set_option relaxedAutoImplicit false
set_option autoImplicit false

/-!
# The ages of a definition

A definition is checked before it is built, and its ages are checked again where they are counted
back. The first check passes proper ages only. So of the two complaints about ages that are counted
back, building only ever meets the one that an age is too great; and building complains about no
other setting at all.

## Main definitions

* `ReplicaPolicy.RuleConfig.agesGiven` — the ages that a rule gives, with their units.
* `ReplicaPolicy.BlamesOnly` — some setting faults are the only ones that a result complains about.

## Main results

* `ReplicaPolicy.RuleConfig.blamesOnly_build` — a rule is complained about as its ages are.
* `ReplicaPolicy.StackConfig.distant_of_build` — building complains about ages that are too great.
* `ReplicaPolicy.StackConfig.ages_counted_back` — what counting back ages comes to, by themselves
  and in a definition.
-/

namespace ReplicaPolicy

/-- The ages that a rule gives. -/
def RuleConfig.agesGiven : RuleConfig → List Age
  | .protectNewDiskOnly age | .deleteByNameOlderThan age _ _ | .deleteNotAccessedFor age => [age]
  | .deleteOldUnused datasetDays replicaDays => [⟨datasetDays, .days⟩, ⟨replicaDays, .days⟩]
  | _ => []

/-- Their amounts are those that are checked. -/
lemma RuleConfig.map_amount_agesGiven (cfg : RuleConfig) :
    cfg.agesGiven.map Age.amount = cfg.ages := by
  cases cfg <;> rfl

/-! ## Complaints about settings -/

/-- If a result complains about a setting, then in a way that `P` tells. -/
def BlamesOnly {α : Type} (P : SettingFault → Prop) (x : Except Fault α) : Prop :=
  ∀ reason, x = .error (.invalidSetting reason) → P reason

section Steps

variable {α β : Type} {P : SettingFault → Prop}

lemma blamesOnly_ok (a : α) : BlamesOnly P (.ok a) := by
  intro reason h
  cases h

lemma BlamesOnly.map {x : Except Fault α} (h : BlamesOnly P x) (f : α → β) :
    BlamesOnly P (x.map f) :=
  fun reason hx => h reason (except_map_eq_error_iff.1 hx)

lemma BlamesOnly.bind {x : Except Fault α} {f : α → Except Fault β} (h : BlamesOnly P x)
    (h' : ∀ a, BlamesOnly P (f a)) : BlamesOnly P (x >>= f) := by
  intro reason hx
  cases x with
  | error fault =>
    have hfault : (.error fault : Except Fault β) = .error (.invalidSetting reason) := hx
    exact h reason (congrArg Except.error (Except.error.inj hfault))
  | ok a => exact h' a reason hx

lemma blamesOnly_mapM {f : α → Except Fault β} (h : ∀ a, BlamesOnly P (f a)) (l : List α) :
    BlamesOnly P (l.mapM f) := by
  intro reason hl
  obtain ⟨_, a, _, _, _, ha⟩ := mapM_eq_error_iff.1 hl
  exact h a reason ha

lemma blamesOnly_foldlM {f : β → α → Except Fault β} (h : ∀ b a, BlamesOnly P (f b a))
    (l : List α) (b : β) : BlamesOnly P (l.foldlM f b) := by
  induction l generalizing b with
  | nil => exact blamesOnly_ok b
  | cons a l ih => exact (h b a).bind ih

/-! ## Globs, conditions and lists -/

lemma Glob.blamesOnly_compile (text : String) : BlamesOnly P (Glob.compile text) := by
  intro reason h
  unfold Glob.compile at h
  split at h <;> cases h

lemma Literal.blamesOnly_compile (b : BoundAttribute) (text : String) :
    BlamesOnly P (Literal.compile b text) := by
  have hglob (word : String) : BlamesOnly P (Literal.ofGlob word) :=
    (Glob.blamesOnly_compile word).map _
  intro reason h
  unfold Literal.compile Literal.ofValue Literal.ofSpelling at h
  repeat' split at h
  all_goals first | exact hglob _ reason h | cases h

lemma Predicate.blamesOnly_compile (b : BoundAttribute) (operator literal : String) :
    BlamesOnly P (Predicate.compile b operator literal) := by
  have hoperator : BlamesOnly P (Predicate.operatorFor b operator) := by
    intro reason h
    unfold Predicate.operatorFor at h
    split at h <;> cases h
  exact hoperator.bind fun _ => (Literal.blamesOnly_compile b literal).bind fun _ => blamesOnly_ok _

lemma Clause.blamesOnly_compile (partition : Option String) (c : Clause) :
    BlamesOnly P (c.compile partition) := by
  have hbind (a : Attribute) : BlamesOnly P (a.bind partition) := by
    intro reason h
    unfold Attribute.bind at h
    split at h <;> cases h
  unfold Clause.compile
  split
  · intro reason h
    cases h
  · exact (hbind _).bind fun b => Predicate.blamesOnly_compile b _ _

lemma Condition.blamesOnly_compile (partition : Option String) (text : String) :
    BlamesOnly P (Condition.compile partition text) := by
  have hclause (clause : List Char) :
      BlamesOnly P (Condition.compileClause partition text clause) := by
    unfold Condition.compileClause
    split
    · intro reason h
      cases h
    · exact Clause.blamesOnly_compile partition _
  exact (blamesOnly_mapM hclause _).bind fun _ => blamesOnly_ok _

/-- Growing by one path after the other is complained about as growing by each of them is. -/
lemma ActionList.blamesOnly_growFrom {grow : ActionList → String → Grown}
    (h : ∀ l path, BlamesOnly P (grow l path).2) (paths : List String) (l : ActionList) (n : ℕ) :
    BlamesOnly P (growFrom grow l n paths).2 := by
  induction paths generalizing l n with
  | nil => exact blamesOnly_ok n
  | cons path paths ih =>
    have hpath := h l path
    rw [growFrom]
    rcases hgrow : grow l path with ⟨m, fault | k⟩
    · rw [hgrow] at hpath
      exact hpath
    · exact ih m (n + k)

lemma ActionList.blamesOnly_load (l : ActionList) (text : String) :
    BlamesOnly P (l.load text).2 := by
  rw [load_eq]
  exact blamesOnly_ok _

lemma ActionList.blamesOnly_loadStrict (l : ActionList) (text : String) :
    BlamesOnly P (l.loadStrict text).2 := by
  rw [loadStrict_eq]
  split
  · intro reason h
    cases h
  · exact l.blamesOnly_load text

lemma ActionList.blamesOnly_add (l : ActionList) (line : ActionLine) : BlamesOnly P (l.add line) :=
  ((Glob.blamesOnly_compile line.site).bind fun _ =>
    (Glob.blamesOnly_compile line.dataset).bind fun _ => blamesOnly_ok _).map _

/-- A list blames no setting, whether or not it is strict: what can be wrong with a file is that it
cannot be read or that a line is malformed, and what can be wrong with an entry of its own is a
glob. -/
lemma RuleConfig.blamesOnly_buildList (files : Files) (directory : String) (name : Option String)
    (paths : List String) (entries : List ActionLine) (strict : Bool) :
    BlamesOnly P (buildList files directory name paths entries strict) := by
  have hfile (l : ActionList) (path : String) : BlamesOnly P (l.loadFile files path).2 := by
    unfold ActionList.loadFile
    split
    · intro reason h
      cases h
    · exact l.blamesOnly_load _
  have hfileStrict (l : ActionList) (path : String) :
      BlamesOnly P (l.loadFileStrict files path).2 := by
    unfold ActionList.loadFileStrict
    split
    · intro reason h
      cases h
    · exact l.blamesOnly_loadStrict _
  have hentries (l : ActionList) : BlamesOnly P (entries.foldlM ActionList.add l) :=
    blamesOnly_foldlM ActionList.blamesOnly_add entries l
  unfold buildList
  cases strict with
  | false => exact (ActionList.blamesOnly_growFrom hfile _ _ 0).bind fun _ => hentries _
  | true => exact (ActionList.blamesOnly_growFrom hfileStrict _ _ 0).bind fun _ => hentries _

end Steps

/-! ## Rules and stacks -/

section Rules

variable {files : Files} {directory : String} {partition : Option String} {now : Instant}
  {P : SettingFault → Prop}

lemma Age.blamesOnly_cutoff {a : Age} (h : BlamesOnly P (a.before now)) :
    BlamesOnly P (a.cutoff now) :=
  (h.map _).map _

lemma Protection.blamesOnly_ofExceptions (exceptions : List (String × ℕ)) :
    BlamesOnly P (ofExceptions exceptions) := by
  have hexception (e : String × ℕ) : BlamesOnly P (exceptionOf e) :=
    (Glob.blamesOnly_compile e.1).map fun g => (g, e.2)
  exact (blamesOnly_mapM hexception exceptions).map minimumCopies

lemma Deletion.blamesOnly_ofNameAndAge {a : Age} (h : BlamesOnly P (a.before now))
    (pattern : String) (update : UpdateTime) :
    BlamesOnly P (ofNameAndAge a pattern update now) :=
  (Age.blamesOnly_cutoff h).bind fun _ => (Glob.blamesOnly_compile pattern).bind fun _ =>
    blamesOnly_ok _

lemma Deletion.blamesOnly_ofAges {datasetDays replicaDays : Float}
    (hdataset : BlamesOnly P (Age.before ⟨datasetDays, .days⟩ now))
    (hreplica : BlamesOnly P (Age.before ⟨replicaDays, .days⟩ now)) :
    BlamesOnly P (ofAges datasetDays replicaDays now) :=
  hdataset.bind fun _ => hreplica.bind fun _ => blamesOnly_ok _

/-- **A rule is complained about as its ages are**: the only settings that it blames are ages that
it gives.

**Proof sketch.** By the kind of the rule. Four kinds count back ages; what else is compiled blames
no setting. -/
theorem RuleConfig.blamesOnly_build {cfg : RuleConfig}
    (h : ∀ a ∈ cfg.agesGiven, BlamesOnly P (a.before now)) :
    BlamesOnly P (cfg.build files directory partition now) := by
  cases cfg with
  | actionList name paths entries strict =>
    exact (blamesOnly_buildList files directory name paths entries strict).map _
  | condition text decision reason => exact (Condition.blamesOnly_compile partition text).map _
  | protectByNameDiskOnly pattern protectMatch =>
    have hname : BlamesOnly P (Protection.ofName pattern protectMatch) :=
      (Glob.blamesOnly_compile pattern).map _
    exact hname.map _
  | protectMinimumCopies exceptions => exact (Protection.blamesOnly_ofExceptions exceptions).map _
  | protectNewDiskOnly age =>
    have hage := h age (by simp [agesGiven])
    exact (hage.map Protection.newDiskOnly).map _
  | deleteByNameOlderThan age pattern update =>
    have hage := h age (by simp [agesGiven])
    exact (Deletion.blamesOnly_ofNameAndAge hage pattern update).map _
  | deleteNotAccessedFor age =>
    have hage := h age (by simp [agesGiven])
    exact ((Age.blamesOnly_cutoff hage).map Deletion.notAccessedFor).map _
  | deleteOldUnused datasetDays replicaDays =>
    have hdataset := h ⟨datasetDays, .days⟩ (by simp [agesGiven])
    have hreplica := h ⟨replicaDays, .days⟩ (by simp [agesGiven])
    exact (Deletion.blamesOnly_ofAges hdataset hreplica).map _
  | protectIncomplete | protectLocked | protectCustodial | protectDiskOnly | protectNonreadySite
  | protectNotOwnedBy _ | protectIncompleteTapeCopy | deletePartial | deleteDeprecated
  | deleteUnused _ => exact blamesOnly_ok _

/-- A rule that blames a setting gives an age that cannot be counted back. -/
lemma RuleConfig.exists_age_of_build {cfg : RuleConfig} {reason : SettingFault}
    (h : cfg.build files directory partition now = .error (.invalidSetting reason)) :
    ∃ a ∈ cfg.agesGiven, a.before now = .error (.invalidSetting reason) :=
  blamesOnly_build
    (P := fun reason => ∃ a ∈ cfg.agesGiven, a.before now = .error (.invalidSetting reason))
    (fun a ha _ hreason => ⟨a, ha, hreason⟩) reason h

end Rules

namespace StackConfig

variable {files : Files} {now : Instant} {c : StackConfig}

/-- The ages of a sound definition are proper. -/
lemma isProper_of_check (h : c.check = .ok ()) {cfg : RuleConfig} (hcfg : cfg ∈ c.rules) {a : Age}
    (ha : a ∈ cfg.agesGiven) : a.isProper = true := by
  obtain ⟨-, -, hages⟩ := check_eq_ok_iff.1 h
  refine hages cfg hcfg a.amount ?_
  rw [← cfg.map_amount_agesGiven]
  exact List.mem_map_of_mem ha

/-- **Building a sound definition blames no setting but ages that are too great**: they lead to no
instant that can be told. -/
theorem distant_of_build (hnow : now.InRange) (h : c.check = .ok ()) {reason : SettingFault}
    (hbuild : c.build files now = .error (.invalidSetting reason)) :
    ∃ cfg ∈ c.rules, ∃ a ∈ cfg.agesGiven, reason = .distantAge a.amount a.unit ∧
      ∀ millis, a.Lasts millis → ¬(now.back millis).InRange := by
  rw [build, h] at hbuild
  obtain ⟨_, cfg, _, hrules, _, hcfg⟩ := mapM_eq_error_iff.1 (except_map_eq_error_iff.1 hbuild)
  have hmem : cfg ∈ c.rules := by rw [hrules]; simp
  obtain ⟨a, ha, hbefore⟩ := RuleConfig.exists_age_of_build hcfg
  have hproper := isProper_of_check h hmem ha
  have hfault := Age.fault_of_before hbefore
  rw [if_pos hproper] at hfault
  refine ⟨cfg, hmem, a, ha, Fault.invalidSetting.inj hfault, ?_⟩
  exact ((Age.exists_fault_iff hnow).1 ⟨_, hbefore⟩).resolve_left (by simp [hproper])

/-- **Ages are counted back or complained about for a reason.** From a time that can be told, any
age is counted back to an instant that is no later, unless its amount is not finite or less than
zero, or the instant cannot be told; then a setting is complained about. On the way, its
milliseconds are cast into a word without a change. Where a definition is sound, its ages can only
be complained about as too great, and so is building it: of all settings it blames only such an
age. -/
theorem ages_counted_back (files : Files) {now : Instant} (hnow : now.InRange) :
    (∀ a : Age, a.CountsBack now) ∧
      ∀ c : StackConfig, c.check = .ok () →
        (∀ cfg ∈ c.rules, ∀ a ∈ cfg.agesGiven, ∀ fault, a.before now = .error fault →
          fault = .invalidSetting (.distantAge a.amount a.unit)) ∧
        ∀ reason, c.build files now = .error (.invalidSetting reason) →
          ∃ cfg ∈ c.rules, ∃ a ∈ cfg.agesGiven, reason = .distantAge a.amount a.unit ∧
            ∀ millis, a.Lasts millis → ¬(now.back millis).InRange := by
  refine ⟨fun a => a.countsBack hnow, fun c hcheck => ⟨?_, ?_⟩⟩
  · intro cfg hcfg a ha fault hfault
    rw [Age.fault_of_before hfault, if_pos (isProper_of_check hcheck hcfg ha)]
  · exact fun reason => distant_of_build hnow hcheck

/-- In March 2024, a negative zero of years is counted back to the time itself. A million years are
a sound age in a definition, and building this complains about them, since they lead to no instant
that can be told. -/
theorem ages_counted_back_million_years :
    Age.before ⟨-0.0, .years⟩ ⟨1710050400, 0⟩ = .ok ⟨1710050400, 0⟩ ∧
      ∃ reason, (ofRules .protect [.deleteNotAccessedFor ⟨1000000.0, .years⟩]).build
          (fun _ => none) ⟨1710050400, 0⟩ = .error (.invalidSetting reason) ∧
        ∃ cfg ∈ [RuleConfig.deleteNotAccessedFor ⟨1000000.0, .years⟩], ∃ a ∈ cfg.agesGiven,
          reason = .distantAge a.amount a.unit ∧
            ∀ millis, a.Lasts millis → ¬(Instant.back ⟨1710050400, 0⟩ millis).InRange := by
  have hnow : Instant.InRange ⟨1710050400, 0⟩ := by decide
  obtain ⟨hages, hdefinitions⟩ := ages_counted_back (fun _ => none) hnow
  refine ⟨(hages ⟨-0.0, .years⟩).zero true (by decide +kernel), ?_⟩
  have hcheck : (ofRules .protect [.deleteNotAccessedFor ⟨1000000.0, .years⟩]).check = .ok () :=
    rfl
  have hsetting : (match (ofRules .protect [.deleteNotAccessedFor ⟨1000000.0, .years⟩]).build
      (fun _ => none) ⟨1710050400, 0⟩ with
    | .error (.invalidSetting _) => true
    | _ => false) = true := by decide +kernel
  split at hsetting
  case h_1 reason hbuild => exact ⟨reason, hbuild, (hdefinitions _ hcheck).2 reason hbuild⟩
  case h_2 => exact absurd hsetting (by decide)

end StackConfig

end ReplicaPolicy
