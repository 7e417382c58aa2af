import ReplicaPolicy.Proofs.CommandLine.Reports
import ReplicaPolicy.Proofs.Config.Reasons
import ReplicaPolicy.Proofs.Text.Lines

set_option relaxedAutoImplicit false
set_option autoImplicit false

/-!
# A line for each decision

Decisions are printed one after the other, each with a line break behind it. As a document, every
decision is on one line. As a text, its names and its reason are printed as they are, and a line
break in one of them breaks the line of the decision.

## Main definitions

* `ReplicaPolicy.CommandLine.Outcome.HasLines` — the lines that an output consists of.
* `ReplicaPolicy.CommandLine.Outcome.TellsEach` — how an output tells decisions line by line.

## Main results

* `ReplicaPolicy.CommandLine.hasLines_unlines` — a printed text has as many lines as its
  line breaks make.
* `ReplicaPolicy.CommandLine.run_tells_each` — the lines of the decisions about an inventory.
-/

namespace ReplicaPolicy

open Text (IsOneLine splitWith)

/-! ## Decisions on one line -/

namespace ReplicaDecision

/-- The text of a decision is on one line exactly when its names and its reason are. -/
lemma isOneLine_text_iff {d : ReplicaDecision} : Text.IsOneLine d.text ↔ d.IsOneLine := by
  have hdecision : Text.IsOneLine d.decision.text := by cases d.decision <;> decide
  have hblank : Text.IsOneLine " " := by decide
  simp only [text, IsOneLine, Text.isOneLine_append]
  constructor
  · rintro ⟨⟨⟨⟨⟨⟨hsite, -⟩, hdataset⟩, -⟩, -⟩, -⟩, hreason⟩
    exact ⟨hsite, hdataset, hreason⟩
  · rintro ⟨hsite, hdataset, hreason⟩
    exact ⟨⟨⟨⟨⟨⟨hsite, hblank⟩, hdataset⟩, hblank⟩, hdecision⟩, hblank⟩, hreason⟩

end ReplicaDecision

/-! ## Lines of a printed text -/

namespace Text

/-- The parts of a text before, between and behind its line breaks. -/
def brokenLines (text : String) : List String :=
  (splitWith (· == '\n') text.toList).map String.ofList

lemma brokenLines_of_isOneLine {text : String} (h : IsOneLine text) :
    brokenLines text = [text] := by
  rw [brokenLines, splitWith_of_forall fun c hc => by simpa using ne_of_mem_of_not_mem hc h]
  simp

/-- Each line break makes one line more. -/
lemma length_brokenLines (text : String) :
    (brokenLines text).length = text.toList.count '\n' + 1 := by
  rw [brokenLines, List.length_map, length_splitWith]
  rfl

end Text

namespace CommandLine

open Text (brokenLines)

namespace Outcome

/-- The output consists of these lines, with a line break behind each. -/
def HasLines (o : Outcome) (lines : List String) : Prop :=
  splitWith (· == '\n') o.output.toList = lines.map String.toList ++ [[]]

/-- There is only one way to cut an output into lines. -/
lemma HasLines.unique {o : Outcome} {lines others : List String} (h : o.HasLines lines)
    (h' : o.HasLines others) : lines = others := by
  have hmap : lines.map String.toList = others.map String.toList :=
    List.append_cancel_right (h.symm.trans h')
  exact List.map_injective_iff.2 (fun _ _ => String.toList_inj.1) hmap

end Outcome

/-- A printed text is cut at its line breaks: at those behind its lines, and at those within. -/
lemma splitWith_unlines (printed : List String) :
    splitWith (· == '\n') (unlines printed).toList =
      (printed.flatMap brokenLines).map String.toList ++ [[]] := by
  induction printed with
  | nil => rfl
  | cons line printed ih =>
    have hcons : (unlines (line :: printed)).toList =
        line.toList ++ '\n' :: (unlines printed).toList := by
      rw [← List.singleton_append, unlines_append, unlines_singleton]
      simp
    have hline : (brokenLines line).map String.toList = splitWith (· == '\n') line.toList := by
      simp [brokenLines]
    rw [hcons, Text.splitWith_append_cons (by decide), ih, List.flatMap_cons, List.map_append,
      hline, List.append_assoc]

/-- What is printed line by line has the printed lines, each cut at its own line breaks. -/
lemma hasLines_unlines {o : Outcome} {printed : List String} (h : o.output = unlines printed) :
    o.HasLines (printed.flatMap brokenLines) := by
  rw [Outcome.HasLines, h, splitWith_unlines]

/-- Printed lines without line breaks are the lines. -/
lemma hasLines_of_isOneLine {o : Outcome} {printed : List String} (h : o.output = unlines printed)
    (hprinted : ∀ line ∈ printed, IsOneLine line) : o.HasLines printed := by
  have hwhole : printed.flatMap brokenLines = printed.flatMap fun line => [line] :=
    List.flatMap_congr fun line hline => Text.brokenLines_of_isOneLine (hprinted line hline)
  have hlines := hasLines_unlines h
  rwa [hwhole, List.flatMap_singleton'] at hlines

/-- Each printed line makes at least one line. -/
lemma length_le_length_flatMap_brokenLines (printed : List String) :
    printed.length ≤ (printed.flatMap brokenLines).length := by
  induction printed with
  | nil => exact le_rfl
  | cons line printed ih =>
    rw [List.flatMap_cons, List.length_append, Text.length_brokenLines, List.length_cons]
    omega

/-- A line break within a printed line makes more lines than were printed.

**Proof sketch.** The printed line with the line break makes at least two lines, and those before
and behind it at least one each. -/
lemma length_lt_length_flatMap_brokenLines {printed : List String} {line : String}
    (hline : line ∈ printed) (hbroken : ¬IsOneLine line) :
    printed.length < (printed.flatMap brokenLines).length := by
  obtain ⟨before, behind, rfl⟩ := List.append_of_mem hline
  have hbreak : 0 < line.toList.count '\n' := List.count_pos_iff.2 (not_not.1 hbroken)
  have hbefore := length_le_length_flatMap_brokenLines before
  have hbehind := length_le_length_flatMap_brokenLines behind
  rw [List.flatMap_append, List.flatMap_cons, List.length_append, List.length_append,
    List.length_append, Text.length_brokenLines, List.length_cons]
  omega

/-! ## The lines of decisions -/

/-- How an output tells decisions about an inventory, which were taken by a stack of some
definition. -/
structure Outcome.TellsEach (o : Outcome) (asJson : Bool) (config : StackConfig) (inv : Inventory)
    (decided : List ReplicaDecision) : Prop where
  /-- They are about replicas of the inventory, in its order. -/
  sublist : (decided.map ReplicaDecision.replica).Sublist (inv.replicas.map fun x => x.1.id)
  /-- They are about all of them if there is no occupancy requirement. -/
  all : config.occupancy = none →
    decided.map ReplicaDecision.replica = inv.replicas.map fun x => x.1.id
  /-- As documents, each has a line. -/
  documents : asJson = true → o.HasLines (decided.map fun d => d.toJson.write)
  /-- As texts, each has a line if no name and no reason has a line break. -/
  texts : asJson = false → (∀ d ∈ decided, d.IsOneLine) →
    o.HasLines (decided.map ReplicaDecision.text)
  /-- If one has, then there are more lines than decisions. -/
  broken : asJson = false → (∃ d ∈ decided, ¬d.IsOneLine) →
    ∃ lines, o.HasLines lines ∧ decided.length < lines.length
  /-- None has, if there is no line break in the names of the inventory and in the texts that the
  definition has for reasons. -/
  unbroken : (∀ text ∈ config.told, IsOneLine text) → (∀ name ∈ inv.names, IsOneLine name) →
    ∀ d ∈ decided, d.IsOneLine

variable {files : Files} {present : Instant} {stack inventory : String}
  {partition now : Option String} {asJson : Bool}

/-- Decisions are taken by the definition of the stack, about the inventory, in the partition that
is given. -/
lemma exists_of_decisions {decided : List ReplicaDecision}
    (h : decisions files present stack inventory partition now = .ok decided) :
    ∃ t config inv, StackConfig.ofFile files stack = .ok config ∧
      Inventory.ofFile files inventory = .ok inv ∧
      StackConfig.evaluate files t { config with partition := partition <|> config.partition } inv =
        .ok decided := by
  obtain ⟨e, rfl⟩ := decisions_eq_ok_iff.1 h
  refine ⟨e.time, e.config, e.inv, StackConfig.ofFile_eq_ok_iff.2 e.isWrittenIn_stack,
    Inventory.ofFile_eq_ok_iff.2 e.isWrittenIn_inventory, ?_⟩
  exact StackConfig.evaluate_eq_ok_iff_selects.2 ⟨e.built, e.selected, e.build_eq, e.selects, rfl⟩

/-- Printed decisions are told line by line. The partition has no part in it. -/
lemma tellsEach_of_evaluate {o : Outcome} {t : Instant} {config : StackConfig} {inv : Inventory}
    {decided : List ReplicaDecision} (ho : o.output = unlines (decided.map (decisionLine asJson)))
    (h : StackConfig.evaluate files t { config with partition } inv = .ok decided) :
    o.TellsEach asJson config inv decided := by
  obtain ⟨s, replicas, -, hselects, hreplicas⟩ := StackConfig.evaluate_eq_ok_iff_selects.1 h
  have hids : decided.map ReplicaDecision.replica = replicas.map fun x => x.1.id := by
    rw [← hreplicas, List.map_map]
    rfl
  constructor
  case sublist => exact hids ▸ hselects.sublist.map _
  case all => exact fun hnone => hselects.eq_of_none hnone ▸ hids
  case documents =>
    rintro rfl
    refine hasLines_of_isOneLine ho fun line hline => ?_
    obtain ⟨d, -, rfl⟩ := List.mem_map.1 hline
    exact d.isOneLine_write
  case texts =>
    rintro rfl hone
    refine hasLines_of_isOneLine ho fun line hline => ?_
    obtain ⟨d, hd, rfl⟩ := List.mem_map.1 hline
    exact ReplicaDecision.isOneLine_text_iff.2 (hone d hd)
  case broken =>
    rintro rfl ⟨d, hd, hbroken⟩
    have hline : ¬IsOneLine d.text := mt ReplicaDecision.isOneLine_text_iff.1 hbroken
    have hlength := length_lt_length_flatMap_brokenLines (List.mem_map_of_mem hd) hline
    rw [List.length_map] at hlength
    exact ⟨_, hasLines_unlines ho, hlength⟩
  case unbroken =>
    have hsame : config.told = StackConfig.told { config with partition } := rfl
    intro htold hnames
    rw [hsame] at htold
    exact StackConfig.isOneLine_of_evaluate htold hnames h

/-- **Every decision has a line of its own, as a document always, and as a text unless a line break
in a name or a reason breaks it.** -/
theorem run_tells_each {arguments : List String}
    (hrequest : Request.ofArguments arguments =
      .run (.evaluate stack inventory partition now asJson))
    (hsuccess : (run files present arguments).exitCode = 0) :
    ∃ config inv decided, StackConfig.ofFile files stack = .ok config ∧
      Inventory.ofFile files inventory = .ok inv ∧
      decisions files present stack inventory partition now = .ok decided ∧
      (run files present arguments).TellsEach asJson config inv decided := by
  have hrun : run files present arguments = .ofResult
      ((decisions files present stack inventory partition now).map
        fun decided => unlines (decided.map (decisionLine asJson))) := run_eq_of_evaluate hrequest
  cases hdecided : decisions files present stack inventory partition now with
  | error fault =>
    rw [hrun, hdecided] at hsuccess
    exact absurd hsuccess Nat.one_ne_zero
  | ok decided =>
    have houtput : (run files present arguments).output =
        unlines (decided.map (decisionLine asJson)) := by
      rw [hrun, hdecided]
      rfl
    obtain ⟨t, config, inv, hconfig, hinv, hevaluate⟩ := exists_of_decisions hdecided
    exact ⟨config, inv, decided, hconfig, hinv, rfl, tellsEach_of_evaluate houtput hevaluate⟩

/-- The files of a stack with one condition, which is written on two lines, and of an inventory with
one replica. -/
def filesOfTwoLines : Files := fun path =>
  if path = "stack.toml" then
    some ("name = \"valid\"\ndefault = \"delete\"\n\n[[rules]]\nkind = \"condition\"\n" ++
      "expr = \"\"\"dataset.status == VALID\n and replica.num_access == 0\"\"\"\n" ++
      "decision = \"protect\"\n")
  else filesOfOneReplica path

/-- The decision about the one replica tells the condition, with its line break. -/
def decisionOfTwoLines : ReplicaDecision :=
  ⟨⟨"T1", "RAW"⟩, .protect,
    "Condition matched: dataset.status == VALID\n and replica.num_access == 0"⟩

lemma decisions_filesOfTwoLines :
    decisions filesOfTwoLines ⟨0, 0⟩ "stack.toml" "inventory.json" none none =
      .ok [decisionOfTwoLines] := by
  have hdecided : (decisions filesOfTwoLines ⟨0, 0⟩ "stack.toml" "inventory.json" none
      none).toOption = some [decisionOfTwoLines] := by
    decide +kernel
  exact except_toOption_eq_some_iff.1 hdecided

/-- As a document, the decision is on one line. -/
theorem run_tells_each_document :
    (run filesOfTwoLines ⟨0, 0⟩ ("evaluate" :: "--json" :: argumentsOfOneReplica)).exitCode = 0 ∧
      (run filesOfTwoLines ⟨0, 0⟩ ("evaluate" :: "--json" :: argumentsOfOneReplica)).HasLines
        [decisionOfTwoLines.toJson.write] := by
  have hrequest : Request.ofArguments ("evaluate" :: "--json" :: argumentsOfOneReplica) =
      .run (.evaluate "stack.toml" "inventory.json" none none true) := by
    decide +kernel
  have hsuccess : (run filesOfTwoLines ⟨0, 0⟩
      ("evaluate" :: "--json" :: argumentsOfOneReplica)).exitCode = 0 := by
    rw [run_eq_of_evaluate hrequest, decisions_filesOfTwoLines]
    rfl
  obtain ⟨config, inv, decided, -, -, hdecided, htells⟩ := run_tells_each hrequest hsuccess
  obtain rfl := Except.ok.inj (decisions_filesOfTwoLines.symm.trans hdecided)
  exact ⟨hsuccess, htells.documents rfl⟩

/-- As a text, the decision is on two lines, and there is no way to cut the output into one. -/
theorem not_run_line_for_each :
    ∃ decided, decisions filesOfTwoLines ⟨0, 0⟩ "stack.toml" "inventory.json" none none =
        .ok decided ∧
      (run filesOfTwoLines ⟨0, 0⟩ ("evaluate" :: argumentsOfOneReplica)).exitCode = 0 ∧
      (run filesOfTwoLines ⟨0, 0⟩ ("evaluate" :: argumentsOfOneReplica)).HasLines
        ["T1 RAW PROTECT Condition matched: dataset.status == VALID",
          " and replica.num_access == 0"] ∧
      ∀ lines, (run filesOfTwoLines ⟨0, 0⟩ ("evaluate" :: argumentsOfOneReplica)).HasLines lines →
        lines.length ≠ decided.length := by
  have hrequest : Request.ofArguments ("evaluate" :: argumentsOfOneReplica) =
      .run (.evaluate "stack.toml" "inventory.json" none none false) := by
    decide +kernel
  have hrun : run filesOfTwoLines ⟨0, 0⟩ ("evaluate" :: argumentsOfOneReplica) =
      ⟨0, unlines [decisionOfTwoLines.text], ""⟩ := by
    rw [run_eq_of_evaluate hrequest, decisions_filesOfTwoLines]
    rfl
  have hbroken : Text.brokenLines decisionOfTwoLines.text =
      ["T1 RAW PROTECT Condition matched: dataset.status == VALID",
        " and replica.num_access == 0"] := by
    decide +kernel
  have hlines := hasLines_unlines (congrArg Outcome.output hrun)
  rw [List.flatMap_singleton, hbroken] at hlines
  refine ⟨_, decisions_filesOfTwoLines, ?_, hlines, fun lines hother => ?_⟩
  · rw [hrun]
  · rw [hother.unique hlines]
    decide

end CommandLine

end ReplicaPolicy
