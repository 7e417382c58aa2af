import ReplicaPolicy.Proofs.Age.Passing
import ReplicaPolicy.Proofs.Condition.Writing
import ReplicaPolicy.Proofs.Config.Build
import ReplicaPolicy.Proofs.Decimal.Whole
import ReplicaPolicy.Proofs.Glob.Plain

set_option relaxedAutoImplicit false
set_option autoImplicit false

/-!
# Rules as conditions

What most rules look at can be told by a condition. This file lists such conditions, and shows that
they can stand in the place of the rule, whatever comes before and after it. The reason that is
given for a decision is another one then.

## Main definitions

* `ReplicaPolicy.RuleConfig.IsRestatedBy` — conditions that tell what a rule looks at.
* `ReplicaPolicy.RuleConfig.IsExchangeable` — definitions can stand in the place of another.

## Main results

* `ReplicaPolicy.RuleConfig.exchangeable_of_protection`, `exchangeable_of_deletion` — a rule that
  applies where some predicates hold.
* `ReplicaPolicy.RuleConfig.exchangeable_of_isRestatedBy` — conditions that restate a rule can stand
  in its place.

## Design

The deletion of replicas that were not accessed for some time is not in the list: no attribute tells
the time of an access.
-/

namespace ReplicaPolicy

/-! ## Comparing instants -/

namespace Instant

variable {t u : Instant}

/-- An instant is accepted as less than a later one. -/
lemma less_accepts_ordering : Operator.less.accepts (t.ordering u) = decide (t < u) := by
  unfold ordering
  by_cases h : t < u <;> by_cases h' : u < t <;> simp [h, h', Operator.accepts]

/-- An instant is accepted as less or equal unless the other one is earlier. -/
lemma lessOrEqual_accepts_ordering :
    Operator.lessOrEqual.accepts (t.ordering u) = decide (t ≤ u) := by
  rw [Bool.eq_iff_iff, decide_eq_true_iff, le_iff]
  unfold ordering
  by_cases h : t < u
  · simp [h, lt_asymm h, Operator.accepts]
  · by_cases h' : u < t <;> simp [h, h', Operator.accepts]

/-- An instant is accepted as greater than an earlier one. -/
lemma greater_accepts_ordering : Operator.greater.accepts (t.ordering u) = decide (u < t) := by
  rw [Bool.eq_iff_iff, decide_eq_true_iff]
  unfold ordering
  by_cases h : t < u
  · simp [h, lt_asymm h, Operator.accepts]
  · by_cases h' : u < t <;> simp [h, h', Operator.accepts]

/-- An instant falls before a day if it comes before the start of it. -/
lemma lt_ofDate_iff {d : Date} : t < ofDate d ↔ t.date < d := by
  rw [lt_iff, ofDate, date]
  show _ ↔ t.seconds / secondsPerDay < d.day
  simp only [secondsPerDay]
  omega

end Instant

/-! ## Conditions that restate rules -/

/-- The attribute that tells the time of an update. -/
def UpdateTime.attribute : UpdateTime → GlobalAttribute
  | .ofDataset => .lastUpdate
  | .ofReplica => .lastBlockCreated

namespace RuleConfig

/-- Conditions, with the decision of the rule, that tell what a rule looks at. Their reasons are
free. A text that is to be compared with must be one word. -/
inductive IsRestatedBy (now : Instant) : RuleConfig → List RuleConfig → Prop
  /-- An incomplete block. -/
  | incomplete (reason : Option String) :
      IsRestatedBy now .protectIncomplete [.condition "replica.incomplete" .protect reason]
  /-- A locked block. -/
  | locked (reason : Option String) :
      IsRestatedBy now .protectLocked [.condition "replica.has_locked_block" .protect reason]
  /-- The responsibility of the site. -/
  | custodial (reason : Option String) :
      IsRestatedBy now .protectCustodial [.condition "replica.is_custodial" .protect reason]
  /-- No complete tape copy. -/
  | diskOnly (reason : Option String) :
      IsRestatedBy now .protectDiskOnly [.condition "dataset.on_tape != FULL" .protect reason]
  /-- A tape copy that is not finished. -/
  | incompleteTapeCopy (reason : Option String) :
      IsRestatedBy now .protectIncompleteTapeCopy
        [.condition "dataset.on_tape == PARTIAL" .protect reason]
  /-- No more full copies than the demand asks. -/
  | minimumCopies (reason : Option String) :
      IsRestatedBy now (.protectMinimumCopies [])
        [.condition "dataset.has_no_extra_copies" .protect reason]
  /-- A site out of service, by its state or else by its activity. -/
  | nonreadySite (reason reason' : Option String) :
      IsRestatedBy now .protectNonreadySite
        [.condition "site.status != READY" .protect reason,
          .condition "site.active == IGNORE" .protect reason']
  /-- Fewer blocks than the dataset. -/
  | isPartial (reason : Option String) :
      IsRestatedBy now .deletePartial [.condition "replica.is_partial" .delete reason]
  /-- A superseded dataset. -/
  | deprecated (reason : Option String) :
      IsRestatedBy now .deleteDeprecated
        [.condition "dataset.status == DEPRECATED" .delete reason]
  /-- A rank above a threshold, which a word spells. -/
  | unused {threshold : Float} {word : String} (unbroken : Text.IsUnbroken word.toList)
      (spelled : Decimal.literal? word.toList = some threshold) (reason : Option String) :
      IsRestatedBy now (.deleteUnused threshold)
        [.condition ("dataset.usage_rank > " ++ word) .delete reason]
  /-- No complete tape copy, of a dataset that a glob selects. -/
  | diskOnlyByName {pattern : String} (unbroken : Text.IsUnbroken pattern.toList)
      (compiles : ∃ g, Glob.compile pattern = .ok g) (reason : Option String) :
      IsRestatedBy now (.protectByNameDiskOnly pattern true)
        [.condition ("dataset.on_tape != FULL and dataset.name == " ++ pattern) .protect reason]
  /-- No complete tape copy, of a dataset that a glob does not select. -/
  | diskOnlyByOtherName {pattern : String} (unbroken : Text.IsUnbroken pattern.toList)
      (compiles : ∃ g, Glob.compile pattern = .ok g) (reason : Option String) :
      IsRestatedBy now (.protectByNameDiskOnly pattern false)
        [.condition ("dataset.on_tape != FULL and dataset.name != " ++ pattern) .protect reason]
  /-- A dataset that a glob selects, updated before the day of the cutoff, the start of which a word
  tells. -/
  | olderThan {age : Age} {cutoff : Instant} (back : age.before now = .ok cutoff)
      {pattern : String} (unbroken : Text.IsUnbroken pattern.toList)
      (compiles : ∃ g, Glob.compile pattern = .ok g) {word : String}
      (unbroken' : Text.IsUnbroken word.toList)
      (told : Instant.read? word = some (.ofDate cutoff.date)) (update : UpdateTime)
      (reason : Option String) :
      IsRestatedBy now (.deleteByNameOlderThan age pattern update)
        [.condition (update.attribute.name ++ " < " ++ word ++ " and dataset.name == " ++ pattern)
          .delete reason]
  /-- No complete tape copy, and a block newer than the cutoff, which a word tells. -/
  | newDiskOnly {age : Age} {cutoff : Instant} (back : age.before now = .ok cutoff) {word : String}
      (unbroken : Text.IsUnbroken word.toList) (told : Instant.read? word = some cutoff)
      (reason : Option String) :
      IsRestatedBy now (.protectNewDiskOnly age)
        [.condition ("dataset.on_tape != FULL and replica.last_block_created > " ++ word) .protect
          reason]
  /-- A dataset and a replica that are no newer than their cutoffs, which words tell, and no
  access. -/
  | oldUnused {datasetDays replicaDays : Float} {dataset replica : Instant}
      (back : Age.before ⟨datasetDays, .days⟩ now = .ok dataset)
      (back' : Age.before ⟨replicaDays, .days⟩ now = .ok replica) {word word' : String}
      (unbroken : Text.IsUnbroken word.toList) (unbroken' : Text.IsUnbroken word'.toList)
      (told : Instant.read? word = some dataset) (told' : Instant.read? word' = some replica)
      (reason : Option String) :
      IsRestatedBy now (.deleteOldUnused datasetDays replicaDays)
        [.condition ("dataset.last_update <= " ++ word ++ " and replica.last_block_created <= " ++
          word' ++ " and replica.num_access == 0") .delete reason]
  /-- Another owner than a group, or none. -/
  | notOwnedBy {group : String} (unbroken : Text.IsUnbroken group.toList)
      (plain : Glob.IsPlain group.toList) (reason : Option String) :
      IsRestatedBy now (.protectNotOwnedBy group)
        [.condition ("replica.owner != " ++ group) .protect reason]

variable {files : Files} {directory : String} {partition : Option String} {now : Instant}

/-- Definitions can stand in the place of another: all of them can be built, and the rules that they
are built into can stand in the place of the rule. -/
def IsExchangeable (files : Files) (directory : String) (partition : Option String) (now : Instant)
    (cfg : RuleConfig) (cfgs : List RuleConfig) : Prop :=
  ∃ r rules, cfg.build files directory partition now = .ok r ∧
    List.Forall₂ (fun cfg r => cfg.build files directory partition now = .ok r) cfgs rules ∧
      r.IsExchangeable rules

/-- A condition is built into the rule for what its text tells. -/
lemma build_condition {text : String} {ps : List Predicate} (h : Condition.Tells text ps)
    (decision : Decision) (reason : Option String) :
    (RuleConfig.condition text decision reason).build files directory partition now =
      .ok (.condition (.ofCondition ⟨text, ps⟩ decision reason)) := by
  rw [build, h.compile partition]
  rfl

/-- A condition alone can stand in the place of a rule that takes its decision where the predicates
of the condition hold. -/
lemma exchangeable_of_position {cfg : RuleConfig} {r : Rule}
    (hr : cfg.build files directory partition now = .ok r) {text : String} {ps : List Predicate}
    (h : Condition.Tells text ps) {decision : Decision}
    (hp : ∀ v demand, r.position? v demand =
      if ps.all (fun p => p.holds v demand) then some decision else none)
    (reason : Option String) :
    cfg.IsExchangeable files directory partition now [.condition text decision reason] := by
  refine ⟨r, _, hr, .cons (build_condition h decision reason) .nil,
    Rule.isExchangeable_iff.2 fun v demand => ?_⟩
  rw [hp, PolicyStack.firstPosition?, List.findSome?_singleton, Rule.position?_condition]
  rfl

/-- A condition can stand in the place of a protection that applies where its predicates hold. -/
theorem exchangeable_of_protection {cfg : RuleConfig} {p : Protection}
    (hr : cfg.build files directory partition now = .ok (.protection p)) {text : String}
    {ps : List Predicate} (h : Condition.Tells text ps)
    (hp : ∀ v demand, p.applies v demand = ps.all fun p => p.holds v demand)
    (reason : Option String) :
    cfg.IsExchangeable files directory partition now [.condition text .protect reason] := by
  refine exchangeable_of_position hr h (fun v demand => ?_) reason
  rw [Rule.position?_protection, hp]

/-- A condition can stand in the place of a deletion that applies where its predicates hold. -/
theorem exchangeable_of_deletion {cfg : RuleConfig} {d : Deletion}
    (hr : cfg.build files directory partition now = .ok (.deletion d)) {text : String}
    {ps : List Predicate} (h : Condition.Tells text ps)
    (hd : ∀ v demand, d.applies v demand = ps.all fun p => p.holds v demand)
    (reason : Option String) :
    cfg.IsExchangeable files directory partition now [.condition text .delete reason] := by
  refine exchangeable_of_position hr h (fun v demand => ?_) reason
  rw [Rule.position?_deletion, hd]

/-! ## States as numbers -/

/-- A tape copy is compared by its number. -/
lemma holds_onTape_notEqual_full (v : View) (demand : Demand) :
    Predicate.holds ⟨.global .onTape, .notEqual, .number (Coded.code TapeCopy.full)⟩ v demand =
      (v.dataset.onTape != .full) := by
  show (Decimal.ordering? (Coded.code v.dataset.onTape) (Coded.code TapeCopy.full)).any
    Operator.notEqual.accepts = _
  cases v.dataset.onTape <;> rfl

/-- A tape copy that is not finished is told by its number. -/
lemma holds_onTape_equal_unfinished (v : View) (demand : Demand) :
    Predicate.holds ⟨.global .onTape, .equal, .number (Coded.code TapeCopy.unfinished)⟩ v demand =
      (v.dataset.onTape == .unfinished) := by
  show (Decimal.ordering? (Coded.code v.dataset.onTape) (Coded.code TapeCopy.unfinished)).any
    Operator.equal.accepts = _
  cases v.dataset.onTape <;> rfl

/-- A superseded dataset is told by the number of its state. -/
lemma holds_datasetStatus_equal_deprecated (v : View) (demand : Demand) :
    Predicate.holds ⟨.global .datasetStatus, .equal, .number (Coded.code DatasetStatus.deprecated)⟩
      v demand = (v.dataset.status == .deprecated) := by
  show (Decimal.ordering? (Coded.code v.dataset.status) (Coded.code DatasetStatus.deprecated)).any
    Operator.equal.accepts = _
  cases v.dataset.status <;> rfl

/-- A site in service is told by the number of its state. -/
lemma holds_siteStatus_notEqual_ready (v : View) (demand : Demand) :
    Predicate.holds ⟨.global .siteStatus, .notEqual, .number (Coded.code SiteStatus.ready)⟩
      v demand = (v.site.status != .ready) := by
  show (Decimal.ordering? (Coded.code v.site.status) (Coded.code SiteStatus.ready)).any
    Operator.notEqual.accepts = _
  cases v.site.status <;> rfl

/-- A site that takes no part is told by the number of its activity. -/
lemma holds_siteActivity_equal_ignore (v : View) (demand : Demand) :
    Predicate.holds ⟨.global .siteActivity, .equal, .number (Coded.code SiteActivity.ignore)⟩
      v demand = (v.site.activity == .ignore) := by
  show (Decimal.ordering? (Coded.code v.site.activity) (Coded.code SiteActivity.ignore)).any
    Operator.equal.accepts = _
  cases v.site.activity <;> rfl

/-! ## Clauses -/

/-- The clause for datasets without a complete tape copy, in front of another condition. -/
lemma tells_onTape_and {text : String} {ps : List Predicate} (h : Condition.Tells text ps) :
    Condition.Tells ("dataset.on_tape != FULL" ++ " and " ++ text)
      (⟨.global .onTape, .notEqual, .number (Coded.code TapeCopy.full)⟩ :: ps) := by
  have hfirst : Condition.Tells (GlobalAttribute.comparison .onTape .notEqual "FULL") _ :=
    Condition.tells_comparison (by decide) (by decide) rfl
  exact hfirst.join h (by decide)

/-- The clause for a time, in front of another condition. No time is told by the word `and`. -/
lemma tells_time_and {a : GlobalAttribute} (ha : a.valueType = .time) {op : Operator}
    (hop : op.Compares a.valueType) {word : String} (hword : Text.IsUnbroken word.toList)
    {t : Instant} (ht : Instant.read? word = some t) {text : String} {ps : List Predicate}
    (h : Condition.Tells text ps) :
    Condition.Tells (a.comparison op word ++ " and " ++ text) (⟨.global a, op, .time t⟩ :: ps) := by
  have hand : word.toList ≠ Condition.conjunctionWord := by
    intro hand
    obtain rfl : word = "and" := String.toList_inj.1 hand
    have hnone : Instant.read? "and" = none := rfl
    exact absurd (ht.symm.trans hnone) (by simp)
  exact (Condition.tells_time ha hop hword ht).join h
    (Condition.not_suffix_comparison hword.space_notMem hand)

/-! ## Restated rules -/

/-- The two conditions on a site, one after the other, can stand in the place of the protection of
sites out of service. -/
lemma exchangeable_nonreadySite (reason reason' : Option String) :
    protectNonreadySite.IsExchangeable files directory partition now
      [.condition "site.status != READY" .protect reason,
        .condition "site.active == IGNORE" .protect reason'] := by
  have hstatus : Condition.Tells (GlobalAttribute.comparison .siteStatus .notEqual "READY") _ :=
    Condition.tells_comparison (by decide) (by decide) rfl
  have hactivity : Condition.Tells (GlobalAttribute.comparison .siteActivity .equal "IGNORE") _ :=
    Condition.tells_comparison (by decide) (by decide) rfl
  refine ⟨_, _, rfl, .cons (build_condition hstatus .protect reason)
    (.cons (build_condition hactivity .protect reason') .nil),
    Rule.isExchangeable_iff.2 fun v demand => ?_⟩
  rw [Rule.position?_protection, PolicyStack.firstPosition?, List.findSome?_cons,
    List.findSome?_singleton, Rule.position?_condition, Rule.position?_condition]
  simp only [ConditionRule.ofCondition, Condition.holds, List.all_cons, List.all_nil, Bool.and_true,
    holds_siteStatus_notEqual_ready, holds_siteActivity_equal_ignore, Protection.applies]
  by_cases hready : (v.site.status != .ready) = true
  · simp [hready]
  · simp [Bool.eq_false_iff.2 hready]

/-- The conditions on the tape copy and the name of a dataset can stand in the place of the
protection by name. -/
lemma exchangeable_diskOnlyByName {pattern : String} (hword : Text.IsUnbroken pattern.toList)
    {g : Glob} (hg : Glob.compile pattern = .ok g) {op : Operator} {protectMatch : Bool}
    (hop : op = .equal ∧ protectMatch = true ∨ op = .notEqual ∧ protectMatch = false)
    (reason : Option String) :
    (protectByNameDiskOnly pattern protectMatch).IsExchangeable files directory partition now
      [.condition ("dataset.on_tape != FULL" ++ " and " ++
        GlobalAttribute.comparison .datasetName op pattern) .protect reason] := by
  have hbuild : (protectByNameDiskOnly pattern protectMatch).build files directory partition now =
      .ok (.protection (.diskOnlyByName g protectMatch)) := by
    rw [build, Protection.ofName, hg]
    rfl
  have hequality : op = .equal ∨ op = .notEqual := hop.imp And.left And.left
  have htells : Condition.Tells (GlobalAttribute.comparison .datasetName op pattern) _ :=
    Condition.tells_glob rfl hequality hword hg
  refine exchangeable_of_protection hbuild (tells_onTape_and htells) (fun v demand => ?_) reason
  rw [List.all_cons, holds_onTape_notEqual_full, List.all_cons, List.all_nil, Bool.and_true]
  rcases hop with ⟨rfl, rfl⟩ | ⟨rfl, rfl⟩
  · show (_ && g.selects v.dataset.name == true) = (_ && g.selects v.dataset.name)
    rw [beq_true]
  · show (_ && g.selects v.dataset.name == false) = (_ && !g.selects v.dataset.name)
    rw [beq_false]

/-- The conditions on the time of an update and the name of a dataset can stand in the place of the
deletion by name and age. -/
lemma exchangeable_olderThan {age : Age} {cutoff : Instant} (hback : age.before now = .ok cutoff)
    {pattern : String} (hpattern : Text.IsUnbroken pattern.toList) {g : Glob}
    (hg : Glob.compile pattern = .ok g) {word : String} (hword : Text.IsUnbroken word.toList)
    (htold : Instant.read? word = some (.ofDate cutoff.date)) (update : UpdateTime)
    (reason : Option String) :
    (deleteByNameOlderThan age pattern update).IsExchangeable files directory partition now
      [.condition (update.attribute.comparison .less word ++ " and " ++
        GlobalAttribute.comparison .datasetName .equal pattern) .delete reason] := by
  have hbuild : (deleteByNameOlderThan age pattern update).build files directory partition now =
      .ok (.deletion (.olderThan ⟨cutoff.date, age.text⟩ g update)) := by
    rw [build, Deletion.ofNameAndAge, Age.cutoff, Age.dateBefore, hback, hg]
    rfl
  have htype : update.attribute.valueType = .time := by cases update <;> rfl
  have hop : Operator.less.Compares update.attribute.valueType := by
    rw [htype]
    decide
  refine exchangeable_of_deletion hbuild
    (tells_time_and htype hop hword htold (Condition.tells_glob rfl (.inl rfl) hpattern hg))
    (fun v demand => ?_) reason
  have htime : Predicate.holds ⟨.global update.attribute, .less, .time (.ofDate cutoff.date)⟩
      v demand = decide ((update.of v).date < cutoff.date) := by
    rw [← decide_eq_decide.2 Instant.lt_ofDate_iff, ← Instant.less_accepts_ordering]
    cases update <;> rfl
  rw [List.all_cons, List.all_cons, List.all_nil, Bool.and_true, htime, Bool.and_comm]
  rfl

/-- The conditions on the tape copy and the newest block can stand in the place of the protection of
new replicas. -/
lemma exchangeable_newDiskOnly {age : Age} {cutoff : Instant} (hback : age.before now = .ok cutoff)
    {word : String} (hword : Text.IsUnbroken word.toList)
    (htold : Instant.read? word = some cutoff) (reason : Option String) :
    (protectNewDiskOnly age).IsExchangeable files directory partition now
      [.condition ("dataset.on_tape != FULL" ++ " and " ++
        GlobalAttribute.comparison .lastBlockCreated .greater word) .protect reason] := by
  have hbuild : (protectNewDiskOnly age).build files directory partition now =
      .ok (.protection (.newDiskOnly cutoff)) := by
    rw [build, Protection.newerThan, hback]
    rfl
  have htells : Condition.Tells (GlobalAttribute.comparison .lastBlockCreated .greater word) _ :=
    Condition.tells_time rfl (by decide) hword htold
  refine exchangeable_of_protection hbuild (tells_onTape_and htells) (fun v demand => ?_) reason
  have htime : Predicate.holds ⟨.global .lastBlockCreated, .greater, .time cutoff⟩ v demand =
      decide (cutoff < v.replica.lastBlockCreated) :=
    Instant.greater_accepts_ordering
  rw [List.all_cons, List.all_cons, List.all_nil, Bool.and_true, htime, holds_onTape_notEqual_full]
  rfl

/-- The conditions on two times and the accesses can stand in the place of the deletion of old and
unused replicas. -/
lemma exchangeable_oldUnused {datasetDays replicaDays : Float} {dataset replica : Instant}
    (hdataset : Age.before ⟨datasetDays, .days⟩ now = .ok dataset)
    (hreplica : Age.before ⟨replicaDays, .days⟩ now = .ok replica) {word word' : String}
    (hword : Text.IsUnbroken word.toList) (hword' : Text.IsUnbroken word'.toList)
    (htold : Instant.read? word = some dataset) (htold' : Instant.read? word' = some replica)
    (reason : Option String) :
    (deleteOldUnused datasetDays replicaDays).IsExchangeable files directory partition now
      [.condition (GlobalAttribute.comparison .lastUpdate .lessOrEqual word ++ " and " ++
        (GlobalAttribute.comparison .lastBlockCreated .lessOrEqual word' ++ " and " ++
          GlobalAttribute.comparison .accessCount .equal "0")) .delete reason] := by
  have hbuild : (deleteOldUnused datasetDays replicaDays).build files directory partition now =
      .ok (.deletion (.oldUnused dataset replica)) := by
    rw [build, Deletion.ofAges, hdataset, hreplica]
    rfl
  have hcount : Condition.Tells (GlobalAttribute.comparison .accessCount .equal "0")
      [⟨.global .accessCount, .equal, .number (Float.ofNat 0)⟩] :=
    Condition.tells_comparison (by decide) (by decide) rfl
  refine exchangeable_of_deletion hbuild (tells_time_and rfl (by decide) hword htold
    (tells_time_and rfl (by decide) hword' htold' hcount)) (fun v demand => ?_) reason
  have hupdate : Predicate.holds ⟨.global .lastUpdate, .lessOrEqual, .time dataset⟩ v demand =
      decide (v.dataset.lastUpdate ≤ dataset) :=
    Instant.lessOrEqual_accepts_ordering
  have hcreated : Predicate.holds ⟨.global .lastBlockCreated, .lessOrEqual, .time replica⟩
      v demand = decide (v.replica.lastBlockCreated ≤ replica) :=
    Instant.lessOrEqual_accepts_ordering
  have hzero : Predicate.holds ⟨.global .accessCount, .equal, .number (Float.ofNat 0)⟩ v demand =
      (v.replica.accessCount == 0) :=
    Decimal.any_equal_accepts_zero v.replica.accessCount
  rw [List.all_cons, List.all_cons, List.all_cons, List.all_nil, Bool.and_true, hupdate, hcreated,
    hzero, ← Bool.and_assoc]
  rfl

/-- The condition on the owner can stand in the place of the protection of what a group does not
own. What nobody owns has the empty text for an owner, which no group that is written selects. -/
lemma exchangeable_notOwnedBy {group : String} (hword : Text.IsUnbroken group.toList)
    (hplain : Glob.IsPlain group.toList) (reason : Option String) :
    (protectNotOwnedBy group).IsExchangeable files directory partition now
      [.condition (GlobalAttribute.comparison .owner .notEqual group) .protect reason] := by
  obtain ⟨g, hg, hselects⟩ := Glob.selects_of_isPlain hplain
  have hne : group ≠ "" := by
    rintro rfl
    exact hword.1 rfl
  have htells : Condition.Tells (GlobalAttribute.comparison .owner .notEqual group) _ :=
    Condition.tells_glob rfl (.inr rfl) hword hg
  refine exchangeable_of_protection rfl htells (fun v demand => ?_) reason
  have howner : Predicate.holds ⟨.global .owner, .notEqual, .glob g⟩ v demand =
      !g.selects (v.replica.group.getD "") := rfl
  rw [List.all_cons, List.all_nil, Bool.and_true, howner, hselects, Protection.applies]
  cases v.replica.group with
  | none => rw [Option.getD_none, beq_eq_false_iff_ne.2 hne.symm]; rfl
  | some owner => rfl

/-- **Conditions that restate a rule can stand in its place**, in any stack and wherever the rule
stands in it: no decision changes.

**Proof sketch.** By the rule. Each condition compiles to predicates that hold where the rule
applies, so that it takes the position of the rule, and the first position decides. -/
theorem exchangeable_of_isRestatedBy {cfg : RuleConfig} {cfgs : List RuleConfig}
    (h : cfg.IsRestatedBy now cfgs) (files : Files) (directory : String)
    (partition : Option String) : cfg.IsExchangeable files directory partition now cfgs := by
  cases h with
  | incomplete reason =>
    exact exchangeable_of_protection rfl (Condition.tells_name (a := .isIncomplete) rfl)
      (fun _ _ => (Bool.and_true _).symm) reason
  | locked reason =>
    exact exchangeable_of_protection rfl (Condition.tells_name (a := .hasLockedBlock) rfl)
      (fun _ _ => (Bool.and_true _).symm) reason
  | custodial reason =>
    exact exchangeable_of_protection rfl (Condition.tells_name (a := .isCustodial) rfl)
      (fun _ _ => (Bool.and_true _).symm) reason
  | diskOnly reason =>
    have htells : Condition.Tells (GlobalAttribute.comparison .onTape .notEqual "FULL") _ :=
      Condition.tells_comparison (by decide) (by decide) rfl
    refine exchangeable_of_protection rfl htells (fun v demand => ?_) reason
    rw [List.all_cons, List.all_nil, Bool.and_true, holds_onTape_notEqual_full, Protection.applies]
  | incompleteTapeCopy reason =>
    have htells : Condition.Tells (GlobalAttribute.comparison .onTape .equal "PARTIAL") _ :=
      Condition.tells_comparison (by decide) (by decide) rfl
    refine exchangeable_of_protection rfl htells (fun v demand => ?_) reason
    rw [List.all_cons, List.all_nil, Bool.and_true, holds_onTape_equal_unfinished,
      Protection.applies]
  | minimumCopies reason =>
    exact exchangeable_of_protection rfl (Condition.tells_name (a := .hasNoExtraCopies) rfl)
      (fun _ _ => (Bool.and_true _).symm) reason
  | nonreadySite reason reason' => exact exchangeable_nonreadySite reason reason'
  | isPartial reason =>
    exact exchangeable_of_deletion rfl (Condition.tells_name (a := .isPartial) rfl)
      (fun _ _ => (Bool.and_true _).symm) reason
  | deprecated reason =>
    have htells :
        Condition.Tells (GlobalAttribute.comparison .datasetStatus .equal "DEPRECATED") _ :=
      Condition.tells_comparison (by decide) (by decide) rfl
    refine exchangeable_of_deletion rfl htells (fun v demand => ?_) reason
    rw [List.all_cons, List.all_nil, Bool.and_true, holds_datasetStatus_equal_deprecated,
      Deletion.applies]
  | @unused threshold word unbroken spelled reason =>
    have htells : Condition.Tells (GlobalAttribute.comparison .usageRank .greater word) _ :=
      Condition.tells_comparison (by decide) unbroken (Literal.compile_number rfl rfl spelled)
    refine exchangeable_of_deletion rfl htells (fun v demand => ?_) reason
    rw [List.all_cons, List.all_nil, Bool.and_true]
    exact (Decimal.any_greater_accepts demand.usageRank threshold).symm
  | diskOnlyByName unbroken compiles reason =>
    obtain ⟨g, hg⟩ := compiles
    exact exchangeable_diskOnlyByName unbroken hg (.inl ⟨rfl, rfl⟩) reason
  | diskOnlyByOtherName unbroken compiles reason =>
    obtain ⟨g, hg⟩ := compiles
    exact exchangeable_diskOnlyByName unbroken hg (.inr ⟨rfl, rfl⟩) reason
  | @olderThan age cutoff back pattern unbroken compiles word unbroken' told update reason =>
    obtain ⟨g, hg⟩ := compiles
    have htext : update.attribute.name ++ " < " ++ word ++ " and dataset.name == " ++ pattern =
        update.attribute.comparison .less word ++ " and " ++
          GlobalAttribute.comparison .datasetName .equal pattern := by
      rw [← String.toList_inj]
      simp [GlobalAttribute.comparison, GlobalAttribute.name, Operator.text]
    rw [htext]
    exact exchangeable_olderThan back unbroken hg unbroken' told update reason
  | newDiskOnly back unbroken told reason =>
    exact exchangeable_newDiskOnly back unbroken told reason
  | @oldUnused datasetDays replicaDays dataset replica back back' word word' unbroken unbroken' told
      told' reason =>
    have htext : "dataset.last_update <= " ++ word ++ " and replica.last_block_created <= " ++
          word' ++ " and replica.num_access == 0" =
        GlobalAttribute.comparison .lastUpdate .lessOrEqual word ++ " and " ++
          (GlobalAttribute.comparison .lastBlockCreated .lessOrEqual word' ++ " and " ++
            GlobalAttribute.comparison .accessCount .equal "0") := by
      rw [← String.toList_inj]
      simp [GlobalAttribute.comparison, GlobalAttribute.name, Operator.text]
    rw [htext]
    exact exchangeable_oldUnused back back' unbroken unbroken' told told' reason
  | notOwnedBy unbroken plain reason => exact exchangeable_notOwnedBy unbroken plain reason

/-- Counted back from noon of the first of June 2024, ninety days and thirty days are told by words;
the three clauses with them can stand in the place of the deletion. -/
theorem exchangeable_oldUnused_ninety_thirty :
    IsRestatedBy ⟨1717243200, 0⟩ (.deleteOldUnused 90 30)
        [.condition ("dataset.last_update <= " ++ "2024-03-03T12:00:00Z" ++
          " and replica.last_block_created <= " ++ "2024-05-02T12:00:00Z" ++
          " and replica.num_access == 0") .delete none] ∧
      IsExchangeable (fun _ => none) "" none ⟨1717243200, 0⟩ (.deleteOldUnused 90 30)
        [.condition ("dataset.last_update <= " ++ "2024-03-03T12:00:00Z" ++
          " and replica.last_block_created <= " ++ "2024-05-02T12:00:00Z" ++
          " and replica.num_access == 0") .delete none] := by
  have hdataset : Age.before ⟨90, .days⟩ ⟨1717243200, 0⟩ = .ok ⟨1709467200, 0⟩ :=
    except_toOption_eq_some_iff.1 (by decide +kernel)
  have hreplica : Age.before ⟨30, .days⟩ ⟨1717243200, 0⟩ = .ok ⟨1714651200, 0⟩ :=
    except_toOption_eq_some_iff.1 (by decide +kernel)
  have hword : Text.IsUnbroken "2024-03-03T12:00:00Z".toList := by decide
  have hword' : Text.IsUnbroken "2024-05-02T12:00:00Z".toList := by decide
  have htold : Instant.read? "2024-03-03T12:00:00Z" = some ⟨1709467200, 0⟩ := by rfl
  have htold' : Instant.read? "2024-05-02T12:00:00Z" = some ⟨1714651200, 0⟩ := by rfl
  have h := IsRestatedBy.oldUnused hdataset hreplica hword hword' htold htold' none
  exact ⟨h, exchangeable_of_isRestatedBy h (fun _ => none) "" none⟩

end RuleConfig

end ReplicaPolicy
