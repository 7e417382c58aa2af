import ReplicaPolicy.Proofs.ActionList.Loading
import ReplicaPolicy.Proofs.Config.Restating

set_option relaxedAutoImplicit false
set_option autoImplicit false

/-!
# Action lists as conditions

An entry of an action list selects the replicas that meet a condition on the names of the dataset
and of the site. A list that is loaded from a text can be exchanged for the conditions of its
entries, one for each entry, in order.

## Main definitions

* `ReplicaPolicy.ActionEntry.condition`, `predicates` — the condition on what an entry selects.

## Main results

* `ReplicaPolicy.ActionList.exists_load_eq` — every entry that a text writes is added.
* `ReplicaPolicy.ActionList.position?_eq_firstPosition?` — the first entry decides as the first
  condition.
* `ReplicaPolicy.ActionList.exchangeable_load` — the conditions of its entries can stand in the
  place of a list that is loaded.
-/

namespace ReplicaPolicy

/-! ## Entries -/

namespace ActionEntry

/-- The text of the condition on what an entry selects. -/
def condition (e : ActionEntry) : String :=
  "dataset.name == " ++ e.dataset.text ++ " and site.name == " ++ e.site.text

/-- Such a text is made of two comparisons. -/
lemma comparison_and_comparison (dataset site : String) :
    "dataset.name == " ++ dataset ++ " and site.name == " ++ site =
      GlobalAttribute.comparison .datasetName .equal dataset ++ " and " ++
        GlobalAttribute.comparison .siteName .equal site := by
  rw [← String.toList_inj]
  simp [GlobalAttribute.comparison, GlobalAttribute.name, Operator.text]

/-- The predicates of this condition. -/
def predicates (e : ActionEntry) : List Predicate :=
  [⟨.global .datasetName, .equal, .glob e.dataset⟩, ⟨.global .siteName, .equal, .glob e.site⟩]

/-- The predicates hold for what the entry selects. -/
lemma all_predicates_holds (e : ActionEntry) (v : View) (demand : Demand) :
    (e.predicates.all fun p => p.holds v demand) = e.selects v := by
  show (e.dataset.selects v.dataset.name && (e.site.selects v.site.name && true)) = _
  rw [Bool.and_true, Bool.and_comm, selects]

/-- The condition of an entry that a line writes compiles to its predicates. A site may be named
`and`, since nothing comes after it; a dataset may not, and starts with a slash. -/
lemma tells_condition {line : ActionLine} (h : line.IsWellFormed) {e : ActionEntry}
    (he : compile line = .ok e) : Condition.Tells e.condition e.predicates := by
  obtain ⟨hsite, hdataset, -⟩ := compile_eq_ok_iff.1 he
  have hsiteText : e.site.text = line.site := Glob.text_ofText? (Glob.compile_eq_ok_iff.1 hsite)
  have hdatasetText : e.dataset.text = line.dataset :=
    Glob.text_ofText? (Glob.compile_eq_ok_iff.1 hdataset)
  have hfirst :=
    Condition.tells_glob (a := .datasetName) rfl (.inl rfl) h.isUnbroken_dataset hdataset
  have hsecond := Condition.tells_glob (a := .siteName) rfl (.inl rfl) h.isUnbroken_site hsite
  unfold condition
  rw [comparison_and_comparison, hdatasetText, hsiteText]
  refine hfirst.join hsecond (Condition.not_suffix_comparison h.isUnbroken_dataset.space_notMem ?_)
  exact h.dataset_ne (by decide)

end ActionEntry

/-! ## Lists -/

namespace ActionList

/-- **Every entry that a text writes is added**: loading a text ends without complaint. -/
theorem exists_load_eq (l : ActionList) (text : String) :
    ∃ es, List.Forall₂ (fun line e => line.IsWellFormed ∧ ActionEntry.compile line = .ok e)
        (ActionLine.permissive text) es ∧
      l.load text = (⟨l.name, l.entries ++ es⟩, .ok es.length) :=
  ⟨ActionEntry.writtenIn text, ActionEntry.forall₂_writtenIn text, load_eq l text⟩

/-- The rule for the condition of an entry. -/
def conditionRule (reason : ActionEntry → Option String) (e : ActionEntry) : Rule :=
  .condition (.ofCondition ⟨e.condition, e.predicates⟩ e.decision (reason e))

variable {files : Files} {directory : String} {partition : Option String} {now : Instant}

/-- The conditions of the entries that lines write are built into their rules. -/
lemma forall₂_build_conditionRule (reason : ActionEntry → Option String) {lines : List ActionLine}
    {es : List ActionEntry}
    (h : List.Forall₂ (fun line e => line.IsWellFormed ∧ ActionEntry.compile line = .ok e)
      lines es) :
    List.Forall₂ (fun e r =>
      (RuleConfig.condition e.condition e.decision (reason e)).build files directory partition now =
        .ok r) es (es.map (conditionRule reason)) := by
  induction h with
  | nil => exact .nil
  | cons he _ ih =>
    refine .cons ?_ ih
    exact RuleConfig.build_condition (ActionEntry.tells_condition he.1 he.2) _ _

/-- **The first entry decides as the first condition.**

**Proof sketch.** Induction on the entries: an entry selects what its condition holds for. -/
theorem position?_eq_firstPosition? (reason : ActionEntry → Option String) (l : ActionList)
    (v : View) (demand : Demand) :
    (Rule.actionList l).position? v demand =
      PolicyStack.firstPosition? (l.entries.map (conditionRule reason)) v demand := by
  rw [Rule.position?_actionList]
  induction l.entries with
  | nil => rfl
  | cons e es ih =>
    have hrule : (conditionRule reason e).position? v demand =
        if e.selects v then some e.decision else none := by
      rw [← e.all_predicates_holds v demand]
      exact Rule.position?_condition _ v demand
    rw [List.map_cons]
    cases hs : e.selects v with
    | false =>
      rw [hs, if_neg (by decide)] at hrule
      rw [List.find?_cons_of_neg (by simp [hs]), ih, PolicyStack.firstPosition?_cons_of_none hrule]
    | true =>
      rw [hs, if_pos rfl] at hrule
      rw [List.find?_cons_of_pos (by exact hs), PolicyStack.firstPosition?_cons_of_some hrule]
      rfl

/-- **The conditions of its entries can stand in the place of a list that is loaded from a text**,
one for each entry, in order, and with its decision. All of them compile, they take the position
that the list takes, and exchanging the list for them in any stack leaves every decision as it
is. -/
theorem exchangeable_load (name text : String) (reason : ActionEntry → Option String)
    (files : Files) (directory : String) (partition : Option String) (now : Instant) :
    ∃ l, (named name).load text = (l, .ok l.entries.length) ∧
      ∃ rules, List.Forall₂ (fun e r =>
          (RuleConfig.condition e.condition e.decision (reason e)).build files directory partition
            now = .ok r) l.entries rules ∧
        (∀ v demand, (Rule.actionList l).position? v demand =
          PolicyStack.firstPosition? rules v demand) ∧
        (Rule.actionList l).IsExchangeable rules := by
  obtain ⟨es, hes, hload⟩ := exists_load_eq (named name) text
  have hposition := position?_eq_firstPosition? reason ⟨name, es⟩
  exact ⟨⟨name, es⟩, hload, es.map (conditionRule reason), forall₂_build_conditionRule reason hes,
    hposition, Rule.isExchangeable_iff.2 hposition⟩

end ActionList

end ReplicaPolicy
