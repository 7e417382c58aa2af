import Mathlib.Tactic.Lemma
import ReplicaPolicy.CommandLine.Run
import ReplicaPolicy.Proofs.Results

set_option relaxedAutoImplicit false
set_option autoImplicit false

/-!
# Reports are printed as a whole or not at all

A command prints line after line, and a failure takes back nothing of what is printed before it.
Still no command leaves a part of its report. Whatever can fail is done before the first line. What
is done between lines could fail by its kind, but never does: a decision can always be written as a
document, and the name of the attribute of a predicate always names it.

## Main definitions

* `ReplicaPolicy.CommandLine.Printing.Prints` — work that prints some lines and does not fail.
* `ReplicaPolicy.CommandLine.Printing.Reports` — work that prints the lines of a result, or fails
  with its fault before it prints.
* `ReplicaPolicy.CommandLine.Command.lines` — the lines that a command prints.

## Main results

* `ReplicaPolicy.CommandLine.Printing.prints_forM` — a loop prints the lines of its rounds.
* `ReplicaPolicy.CommandLine.Printing.reports_bind` — printing comes after all that can fail.
* `ReplicaPolicy.CommandLine.reports_perform` — every command prints its lines or fails at once.
* `ReplicaPolicy.CommandLine.run_eq_of_command` — the outcome of a call.

## Design

What work prints is told relative to what was printed before, so that the lines of a sequence, of a
loop and of a whole command are put together from those of their parts.
-/

namespace ReplicaPolicy.CommandLine

/-! ## Work that prints -/

/-- Lines with a line break after each. -/
def unlines (lines : List String) : String :=
  String.join (lines.map fun line => line ++ "\n")

@[simp]
lemma unlines_nil : unlines [] = "" := rfl

@[simp]
lemma unlines_singleton (line : String) : unlines [line] = line ++ "\n" := by
  simp [unlines]

@[simp]
lemma unlines_append (lines others : List String) :
    unlines (lines ++ others) = unlines lines ++ unlines others := by
  simp [unlines]

namespace Printing

/-- The work prints some lines after whatever was printed before, and does not fail. -/
def Prints (work : Printing Unit) (lines : List String) : Prop :=
  ∀ printed, work.after printed = (.ok (), printed ++ unlines lines)

/-- The work prints the lines of a result as a whole, or fails with its fault and prints nothing. -/
def Reports (work : Printing Unit) : Except Fault (List String) → Prop
  | .ok lines => work.Prints lines
  | .error fault => ∀ printed, work.after printed = (.error fault, printed)

lemma prints_printLine (line : String) : (printLine line).Prints [line] := by
  intro printed
  rw [after_printLine, unlines_singleton]

lemma prints_pure : Prints (pure ()) [] := by
  intro printed
  rw [after_pure, unlines_nil, String.append_empty]

/-- The lines of a sequence are those of the first part and then those of the second. -/
lemma Prints.bind {work next : Printing Unit} {lines others : List String}
    (h : work.Prints lines) (h' : next.Prints others) :
    Prints (work >>= fun _ => next) (lines ++ others) := by
  intro printed
  rw [after_bind, h]
  dsimp only
  rw [h', unlines_append, String.append_assoc]

/-- What is computed without failure before printing does not show. -/
lemma Prints.after_ok {α : Type} {result : Except Fault α} {a : α} {next : α → Printing Unit}
    {lines : List String} (h : result = .ok a) (h' : (next a).Prints lines) :
    Prints (liftM result >>= next) lines := by
  intro printed
  rw [after_bind, after_lift, h]
  exact h' printed

/-- **A loop prints the lines of its rounds**, where every round prints one line and does not
fail.

**Proof sketch.** Induction on the list that the loop goes through. -/
theorem prints_forM {α : Type} {round : α → Printing Unit} {line : α → String} (l : List α)
    (h : ∀ a, (round a).Prints [line a]) : Prints (l.forM round) (l.map line) := by
  induction l with
  | nil => exact prints_pure
  | cons a l ih => exact (h a).bind ih

/-- **Printing that comes after all that can fail reports as a whole or not at all.** -/
theorem reports_bind {α : Type} (result : Except Fault α) {next : α → Printing Unit}
    {lines : α → List String} (h : ∀ a, (next a).Prints (lines a)) :
    Reports (liftM result >>= next) (result.map lines) := by
  cases result with
  | ok a => exact Prints.after_ok rfl (h a)
  | error fault =>
    intro printed
    rw [after_bind, after_lift]

end Printing

open Printing

/-! ## The lines of each command -/

/-- The line about a decision, as a document or as a text. -/
def decisionLine (asJson : Bool) (d : ReplicaDecision) : String :=
  if asJson then d.toJson.write else d.text

/-- The lines about a stack: its name and its default decision, and its rules. -/
def stackLines (s : PolicyStack) : List String :=
  stackLine s :: s.rules.zipIdx.map fun (rule, i) => ruleLine rule i

/-- The lines about what a condition could be about. -/
def attributeLines : List String :=
  emptyLine :: Attribute.names.map nameLine

/-- The lines about a condition: its predicates, or what it could be about if it has none. -/
def conditionLines (c : Condition) : List String :=
  (if c.predicates.isEmpty then attributeLines else []) ++
    c.predicates.map fun p => predicateLine p p.subject.valueType

/-- A decision is printed on one line: that it is written as a document never fails. -/
lemma prints_printDecision (asJson : Bool) (d : ReplicaDecision) :
    (printDecision asJson d).Prints [decisionLine asJson d] := by
  cases asJson with
  | false => exact prints_printLine d.text
  | true => exact Prints.after_ok d.written_eq (prints_printLine d.toJson.write)

lemma prints_printStack (s : PolicyStack) : (printStack s).Prints (stackLines s) :=
  (prints_printLine (stackLine s)).bind (prints_forM _ fun _ => prints_printLine _)

/-- A predicate is printed on one line: its attribute is always found by its name. -/
lemma prints_printPredicate (p : Predicate) :
    (printPredicate p).Prints [predicateLine p p.subject.valueType] := by
  have hlookup : Attribute.lookup p.subject.name = .ok p.subject.unbound := by
    simp [Attribute.lookup, BoundAttribute.name, Attribute.ofName?_name]
  exact Prints.after_ok hlookup (prints_printLine _)

lemma prints_printAttributes : printAttributes.Prints attributeLines :=
  (prints_printLine emptyLine).bind (prints_forM _ fun name => prints_printLine (nameLine name))

lemma prints_printCondition (c : Condition) : (printCondition c).Prints (conditionLines c) := by
  have hpredicates : Prints (c.predicates.forM printPredicate)
      (c.predicates.map fun p => predicateLine p p.subject.valueType) :=
    prints_forM _ prints_printPredicate
  unfold printCondition conditionLines
  split
  · exact prints_printAttributes.bind hpredicates
  · exact hpredicates

/-- The lines that a command prints, or the fault with which it fails. -/
def Command.lines (files : Files) (present : Instant) : Command → Except Fault (List String)
  | .evaluate stack inventory partition now asJson =>
    (decisions files present stack inventory partition now).map (List.map (decisionLine asJson))
  | .check stack => (stackAt files present stack).map stackLines
  | .condition text partition => (Condition.compile partition text).map conditionLines

/-- **Every command prints its lines as a whole, or fails before it prints.** -/
theorem reports_perform (files : Files) (present : Instant) (command : Command) :
    (command.perform files present).Reports (command.lines files present) := by
  cases command with
  | evaluate stack inventory partition now asJson =>
    exact reports_bind _ fun decided => prints_forM decided (prints_printDecision asJson)
  | check stack => exact reports_bind _ prints_printStack
  | condition text partition => exact reports_bind _ prints_printCondition

/-! ## Outcomes -/

/-- Success with a whole report and no complaint, or failure with a complaint and no output. -/
def Outcome.ofResult : Except Fault String → Outcome
  | .ok report => ⟨0, report, ""⟩
  | .error fault => ⟨1, "", s!"Error: {fault.message}"⟩

/-- Work that reports as a whole or not at all has the outcome of its result. -/
lemma Printing.Reports.outcome_eq {work : Printing Unit} {result : Except Fault (List String)}
    (h : work.Reports result) : work.outcome = .ofResult (result.map unlines) := by
  cases result with
  | ok lines =>
    have hprints : work.Prints lines := h
    simp [Printing.outcome, hprints "", Except.map, Outcome.ofResult]
  | error fault =>
    have hfails : ∀ printed, work.after printed = (.error fault, printed) := h
    simp [Printing.outcome, hfails "", Except.map, Outcome.ofResult]

/-- A call of a command has the outcome of the lines that it prints. -/
lemma run_eq_of_command {files : Files} {present : Instant} {arguments : List String}
    {command : Command} (h : Request.ofArguments arguments = .run command) :
    run files present arguments = .ofResult ((command.lines files present).map unlines) := by
  rw [run, h]
  exact (reports_perform files present command).outcome_eq

/-- A call for decisions has the outcome of a line for each decision. -/
lemma run_eq_of_evaluate {files : Files} {present : Instant} {arguments : List String}
    {stack inventory : String} {partition now : Option String} {asJson : Bool}
    (h : Request.ofArguments arguments = .run (.evaluate stack inventory partition now asJson)) :
    run files present arguments = .ofResult
      ((decisions files present stack inventory partition now).map
        fun decided => unlines (decided.map (decisionLine asJson))) := by
  rw [run_eq_of_command h, Command.lines]
  cases decisions files present stack inventory partition now <;> rfl

end ReplicaPolicy.CommandLine
