import ReplicaPolicy.Proofs.CommandLine.Documents
import ReplicaPolicy.Proofs.CommandLine.Evaluation
import ReplicaPolicy.Proofs.CommandLine.Options
import ReplicaPolicy.Proofs.CommandLine.Printing

set_option relaxedAutoImplicit false
set_option autoImplicit false

/-!
# Complete reports

This file says what a complete report is, in terms of what the call, the files and the time come to
and without the work that prints it: it has a line for each decision about a selected replica, for
each rule of the stack that is built, or for each predicate of the condition that is compiled. A
call prints such a report and succeeds, or there is none; then it prints nothing, complains and
fails.

## Main definitions

* `ReplicaPolicy.ReplicaDecision.IsToldBy` — a line tells a decision.
* `ReplicaPolicy.PolicyStack.IsListedBy`, `ReplicaPolicy.Condition.IsListedBy` — lines tell a stack
  or a condition.
* `ReplicaPolicy.CommandLine.Request.IsAnsweredBy` — a text is the report that is asked for.

## Main results

* `ReplicaPolicy.CommandLine.Command.isAnsweredBy_of_lines` — what is printed answers a command.
* `ReplicaPolicy.CommandLine.Command.exists_lines` — a command that can be answered is.
* `ReplicaPolicy.CommandLine.run_all_or_nothing` — a call prints its whole report, or nothing and a
  complaint; the decisions are the same in both forms.
-/

namespace ReplicaPolicy

/-! ## What lines tell -/

/-- A text tells a decision: the names of the site and of the dataset, the decision in capitals and
the reason, with blanks between. -/
inductive ReplicaDecision.IsTextLine : ReplicaDecision → String → Prop
  /-- The replica must stay. -/
  | protect (id : ReplicaId) (reason : String) :
    IsTextLine ⟨id, .protect, reason⟩ (" ".intercalate [id.site, id.dataset, "PROTECT", reason])
  /-- The replica may be removed. -/
  | delete (id : ReplicaId) (reason : String) :
    IsTextLine ⟨id, .delete, reason⟩ (" ".intercalate [id.site, id.dataset, "DELETE", reason])

/-- A line tells a decision as a document, from which it can be read, or as a text. -/
def ReplicaDecision.IsToldBy (asJson : Bool) (d : ReplicaDecision) (line : String) : Prop :=
  if asJson then Text.IsOneLine line ∧ ofDocumentLine? line = some d else d.IsTextLine line

/-- Lines tell a stack: its name and its default decision, and the name of each rule behind its
number, which is counted from one. -/
structure PolicyStack.IsListedBy (s : PolicyStack) (lines : List String) : Prop where
  head : lines[0]? = some ("Stack " ++ s.name ++ " compiled, default " ++ s.default.text)
  rule : ∀ (i : ℕ) (r : Rule), s.rules[i]? = some r → ∃ blanks : String,
    (∀ c ∈ blanks.toList, c = ' ') ∧
      lines[i + 1]? = some (blanks ++ toString (i + 1) ++ ". " ++ r.name)
  length : lines.length = s.rules.length + 1

/-- Lines tell a condition: each of its predicates, by its attribute, its operator and the type of
the attribute, or, if there are none, what a condition could be about. -/
structure Condition.IsListedBy (c : Condition) (lines : List String) : Prop where
  predicates : c.predicates ≠ [] → lines = c.predicates.map fun p =>
    "  " ++ p.subject.name ++ " " ++ p.operator.text ++ " (" ++ p.subject.valueType.word ++ ")"
  attributes : c.predicates = [] →
    lines = "Empty condition, matches every replica. Known attributes:" ::
      Attribute.names.map fun name => "  " ++ name

/-- A decision is told by the line that is printed for it. -/
lemma ReplicaDecision.isToldBy_decisionLine (asJson : Bool) (d : ReplicaDecision) :
    d.IsToldBy asJson (CommandLine.decisionLine asJson d) := by
  cases asJson with
  | true => exact ⟨d.isOneLine_write, d.ofDocumentLine?_write⟩
  | false =>
    obtain ⟨id, decision, reason⟩ := d
    cases decision with
    | protect => exact .protect id reason
    | delete => exact .delete id reason

/-- Decisions are told by the lines that are printed for them. -/
lemma ReplicaDecision.forall₂_isToldBy (asJson : Bool) (decided : List ReplicaDecision) :
    List.Forall₂ (ReplicaDecision.IsToldBy asJson) decided
      (decided.map (CommandLine.decisionLine asJson)) :=
  List.forall₂_map_right_iff.2 (List.forall₂_same.2 fun d _ => d.isToldBy_decisionLine asJson)

/-- A stack is told by the lines that are printed for it. -/
lemma PolicyStack.isListedBy_stackLines (s : PolicyStack) :
    s.IsListedBy (CommandLine.stackLines s) where
  head := rfl
  rule := by
    intro i r hr
    have hline : (CommandLine.stackLines s)[i + 1]? = some (CommandLine.ruleLine r i) := by
      simp [CommandLine.stackLines, hr]
    refine ⟨"  " ++ String.ofList (List.replicate (2 - (toString (i + 1)).length) ' '), ?_, ?_⟩
    · simp only [String.toList_append, String.toList_ofList, List.mem_append]
      rintro c (hc | hc)
      · exact List.eq_of_mem_replicate (n := 2) hc
      · exact List.eq_of_mem_replicate hc
    · have hblanks : CommandLine.ruleLine r i = "  " ++ CommandLine.entryNumber (i + 1) ++ ". " ++
          r.name := rfl
      rw [hline, hblanks, CommandLine.entryNumber, ← String.append_assoc]
  length := by simp [CommandLine.stackLines]

/-- A condition is told by the lines that are printed for it. -/
lemma Condition.isListedBy_conditionLines (c : Condition) :
    c.IsListedBy (CommandLine.conditionLines c) where
  predicates := by
    intro hne
    rw [CommandLine.conditionLines, if_neg (by simpa using hne)]
    rfl
  attributes := by
    intro hempty
    rw [CommandLine.conditionLines, hempty]
    rfl

namespace CommandLine

open ReplicaDecision (forall₂_isToldBy)

/-! ## What is asked for -/

/-- Lines answer a command. -/
inductive Command.IsAnsweredBy (files : Files) (present : Instant) :
    Command → List String → Prop
  /-- Each decision of the evaluation has a line, in order. -/
  | evaluate {stack inventory : String} {partition now : Option String} {asJson : Bool}
    {lines : List String} (e : Evaluation files present stack inventory partition now)
    (h : List.Forall₂ (ReplicaDecision.IsToldBy asJson) e.decided lines) :
    IsAnsweredBy files present (.evaluate stack inventory partition now asJson) lines
  /-- The lines tell the stack of the compilation. -/
  | check {stack : String} {lines : List String} (c : Compilation files present stack)
    (h : c.built.IsListedBy lines) : IsAnsweredBy files present (.check stack) lines
  /-- The lines tell the condition. -/
  | condition {text : String} {partition : Option String} {c : Condition} {lines : List String}
    (hc : Condition.compile partition text = .ok c) (h : c.IsListedBy lines) :
    IsAnsweredBy files present (.condition text partition) lines

/-- A text is the complete report that is asked for. -/
inductive Request.IsAnsweredBy (files : Files) (present : Instant) : Request → String → Prop
  /-- The lines that answer a command. -/
  | run {command : Command} {lines : List String} (h : command.IsAnsweredBy files present lines) :
    IsAnsweredBy files present (.run command) (unlines lines)
  /-- Help. -/
  | help (about : Help) : IsAnsweredBy files present (.help about) about.text
  /-- The version. -/
  | version : IsAnsweredBy files present .version versionText

variable {files : Files} {present : Instant}

/-- What a command prints answers it.

**Proof sketch.** By the command. What the lines are computed from is an evaluation, a compilation
or a condition, and each of its members is told by its line. -/
lemma Command.isAnsweredBy_of_lines {command : Command} {lines : List String}
    (h : command.lines files present = .ok lines) : command.IsAnsweredBy files present lines := by
  cases command with
  | evaluate stack inventory partition now asJson =>
    obtain ⟨decided, hdecided, rfl⟩ := except_map_eq_ok_iff.1 h
    obtain ⟨e, rfl⟩ := decisions_eq_ok_iff.1 hdecided
    exact .evaluate e (forall₂_isToldBy asJson _)
  | check stack =>
    obtain ⟨s, hs, rfl⟩ := except_map_eq_ok_iff.1 h
    obtain ⟨c, rfl⟩ := stackAt_eq_ok_iff.1 hs
    exact .check c c.built.isListedBy_stackLines
  | condition text partition =>
    obtain ⟨c, hc, rfl⟩ := except_map_eq_ok_iff.1 h
    exact .condition hc c.isListedBy_conditionLines

/-- A command that can be answered does not fail. -/
lemma Command.exists_lines {command : Command} {lines : List String}
    (h : command.IsAnsweredBy files present lines) :
    ∃ printed, command.lines files present = .ok printed := by
  cases h with
  | evaluate e => exact ⟨_, except_map_eq_ok_iff.2 ⟨_, decisions_eq_ok_iff.2 ⟨e, rfl⟩, rfl⟩⟩
  | check c => exact ⟨_, except_map_eq_ok_iff.2 ⟨_, stackAt_eq_ok_iff.2 ⟨c, rfl⟩, rfl⟩⟩
  | condition hc => exact ⟨_, except_map_eq_ok_iff.2 ⟨_, hc, rfl⟩⟩

/-- A call of a command succeeds with a complete report, or fails where there is none. -/
lemma run_of_command (files : Files) (present : Instant) {arguments : List String}
    {command : Command} (h : Request.ofArguments arguments = .run command) :
    (∃ lines, command.IsAnsweredBy files present lines ∧
      run files present arguments = ⟨0, unlines lines, ""⟩) ∨
    (∀ lines, ¬command.IsAnsweredBy files present lines) ∧
      ∃ fault : Fault, run files present arguments = ⟨1, "", s!"Error: {fault.message}"⟩ := by
  rw [run_eq_of_command h]
  cases hlines : command.lines files present with
  | ok lines => exact .inl ⟨lines, Command.isAnsweredBy_of_lines hlines, rfl⟩
  | error fault =>
    refine .inr ⟨fun lines hanswered => ?_, fault, rfl⟩
    obtain ⟨printed, hprinted⟩ := Command.exists_lines hanswered
    exact absurd (hlines.symm.trans hprinted) (by simp)

/-! ## All or nothing -/

/-- **A call is all or nothing.** Where the arguments make sense, the program exits with 0, prints
the complete report that is asked for and does not complain, or there is no such report, and it
exits with 1, prints nothing and complains with the word for an error in front. And where two calls
ask for the same decisions, once as texts and once as documents, both have one evaluation and print
its decisions in the same order, or there is none and both fail in the same way; the argument that
asks for documents can be put before any others. Every command whose paths are not empty is what its
arguments ask for. -/
theorem run_all_or_nothing (files : Files) (present : Instant) :
    (∀ arguments, Request.ofArguments arguments ≠ .refused →
      (∃ report, (Request.ofArguments arguments).IsAnsweredBy files present report ∧
        run files present arguments = ⟨0, report, ""⟩) ∨
      (∀ report, ¬(Request.ofArguments arguments).IsAnsweredBy files present report) ∧
        ∃ fault : Fault, run files present arguments = ⟨1, "", s!"Error: {fault.message}"⟩) ∧
    (∀ arguments others stack inventory partition now,
      Request.ofArguments arguments = .run (.evaluate stack inventory partition now false) →
      Request.ofArguments others = .run (.evaluate stack inventory partition now true) →
      (∃ (e : Evaluation files present stack inventory partition now)
          (texts documents : List String),
        List.Forall₂ (ReplicaDecision.IsToldBy false) e.decided texts ∧
        List.Forall₂ (ReplicaDecision.IsToldBy true) e.decided documents ∧
        run files present arguments = ⟨0, unlines texts, ""⟩ ∧
        run files present others = ⟨0, unlines documents, ""⟩) ∨
      IsEmpty (Evaluation files present stack inventory partition now) ∧
        ∃ fault : Fault, run files present arguments = ⟨1, "", s!"Error: {fault.message}"⟩ ∧
          run files present others = ⟨1, "", s!"Error: {fault.message}"⟩) ∧
    (∀ arguments stack inventory partition now,
      Request.ofArguments ("evaluate" :: arguments) =
          .run (.evaluate stack inventory partition now false) →
        Request.ofArguments ("evaluate" :: "--json" :: arguments) =
          .run (.evaluate stack inventory partition now true)) ∧
    ∀ command : Command, command.HasPaths →
      Request.ofArguments command.arguments = .run command := by
  refine ⟨?_, ?_, fun _ _ _ _ _ => Request.ofArguments_json,
    fun _ => Request.ofArguments_arguments⟩
  · intro arguments haccepted
    cases hrequest : Request.ofArguments arguments with
    | refused => exact absurd hrequest haccepted
    | version => exact .inl ⟨_, .version, by rw [run, hrequest]⟩
    | help about => exact .inl ⟨_, .help about, by rw [run, hrequest]⟩
    | run command =>
      rcases run_of_command files present hrequest with
        ⟨lines, hlines, hrun⟩ | ⟨hnone, hfails⟩
      · exact .inl ⟨_, .run hlines, hrun⟩
      · refine .inr ⟨?_, hfails⟩
        rintro _ ⟨hlines⟩
        exact hnone _ hlines
  · intro arguments others stack inventory partition now htexts hdocuments
    rw [run_eq_of_evaluate htexts, run_eq_of_evaluate hdocuments]
    cases hdecided : decisions files present stack inventory partition now with
    | ok decided =>
      obtain ⟨e, rfl⟩ := decisions_eq_ok_iff.1 hdecided
      exact .inl ⟨e, _, _, forall₂_isToldBy false _, forall₂_isToldBy true _, rfl, rfl⟩
    | error fault =>
      refine .inr ⟨⟨fun e => ?_⟩, fault, rfl, rfl⟩
      exact absurd (hdecided.symm.trans (decisions_eq_ok_iff.2 ⟨e, rfl⟩)) (by simp)

/-- The files of a stack without rules that deletes, and of an inventory with one replica. -/
def filesOfOneReplica : Files := fun path =>
  if path = "stack.toml" then some "name = \"all\"\ndefault = \"delete\""
  else if path = "inventory.json" then
    some ("\x7b\"sites\":[\x7b\"name\":\"T1\",\"status\":\"READY\"\x7d],\"datasets\":[\x7b" ++
      "\"name\":\"RAW\",\"status\":\"VALID\",\"on_tape\":\"NONE\"," ++
      "\"last_update\":\"2024-01-01T00:00:00Z\",\"replicas\":[\x7b" ++
      "\"site\":\"T1\",\"last_block_created\":\"2024-01-01T00:00:00Z\"\x7d]\x7d]\x7d")
  else none

/-- The arguments that ask for the decisions about the one replica, after the name of the
command. -/
def argumentsOfOneReplica : List String :=
  ["--stack", "stack.toml", "--inventory", "inventory.json"]

/-- The one replica is decided in both forms: its decision is printed as a text, and with one more
argument as a document. -/
theorem run_all_or_nothing_one_replica :
    (∃ report, (Request.ofArguments ("evaluate" :: argumentsOfOneReplica)).IsAnsweredBy
          filesOfOneReplica ⟨0, 0⟩ report ∧
        run filesOfOneReplica ⟨0, 0⟩ ("evaluate" :: argumentsOfOneReplica) = ⟨0, report, ""⟩) ∧
    ∃ (e : Evaluation filesOfOneReplica ⟨0, 0⟩ "stack.toml" "inventory.json" none none)
        (texts documents : List String),
      e.decided = [⟨⟨"T1", "RAW"⟩, .delete, PolicyStack.defaultReason⟩] ∧
      List.Forall₂ (ReplicaDecision.IsToldBy false) e.decided texts ∧
      List.Forall₂ (ReplicaDecision.IsToldBy true) e.decided documents ∧
      run filesOfOneReplica ⟨0, 0⟩ ("evaluate" :: argumentsOfOneReplica) =
        ⟨0, unlines texts, ""⟩ ∧
      run filesOfOneReplica ⟨0, 0⟩ ("evaluate" :: "--json" :: argumentsOfOneReplica) =
        ⟨0, unlines documents, ""⟩ := by
  have hall := run_all_or_nothing filesOfOneReplica ⟨0, 0⟩
  have htexts : Request.ofArguments ("evaluate" :: argumentsOfOneReplica) =
      .run (.evaluate "stack.toml" "inventory.json" none none false) := by
    decide +kernel
  have hdocuments := hall.2.2.1 _ _ _ _ _ htexts
  have hdecided : (decisions filesOfOneReplica ⟨0, 0⟩ "stack.toml" "inventory.json" none
      none).toOption = some [⟨⟨"T1", "RAW"⟩, .delete, PolicyStack.defaultReason⟩] := by
    decide +kernel
  have hok := except_toOption_eq_some_iff.1 hdecided
  obtain ⟨e₀, -⟩ := decisions_eq_ok_iff.1 hok
  constructor
  · rcases hall.1 _ (by rw [htexts]; exact Request.noConfusion) with hwhole | ⟨hnone, -⟩
    · exact hwhole
    · rw [htexts] at hnone
      exact absurd (.run (.evaluate e₀ (forall₂_isToldBy false _))) (hnone _)
  · rcases hall.2.1 _ _ _ _ _ _ htexts hdocuments with
      ⟨e, texts, documents, hprinted⟩ | ⟨hnone, -⟩
    · have he : e.decided = _ := Except.ok.inj ((decisions_eq_ok_iff.2 ⟨e, rfl⟩).symm.trans hok)
      exact ⟨e, texts, documents, he, hprinted⟩
    · exact hnone.elim e₀

end CommandLine

end ReplicaPolicy
