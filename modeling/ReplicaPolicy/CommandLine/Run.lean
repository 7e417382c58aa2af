import ReplicaPolicy.CommandLine.Help
import ReplicaPolicy.Config.Build
import ReplicaPolicy.Config.Reader
import ReplicaPolicy.Inventory.Reader
import ReplicaPolicy.Json.Writer

set_option relaxedAutoImplicit false
set_option autoImplicit false

/-!
# Running commands

A command prints lines as it goes, and may fail at any of its steps; what is printed before a
failure stays printed. The files and the present time are given to it.

## Main definitions

* `ReplicaPolicy.CommandLine.Printing`, `Printing.after` — work that prints lines and may fail.
* `ReplicaPolicy.CommandLine.Command.perform` — the work of a command.
* `ReplicaPolicy.CommandLine.Outcome`, `run` — what a call of the program leads to.

## Main results

* `ReplicaPolicy.ReplicaDecision.written_eq` — every decision can be written as a document.
* `ReplicaPolicy.CommandLine.after_bind` — work is continued from what it has printed.
-/

namespace ReplicaPolicy

/-- The decision about a replica as a document. -/
def ReplicaDecision.toJson (d : ReplicaDecision) : Json :=
  Json.ofFields [
    ("replica", Json.ofFields [
      ("site", Json.ofText d.replica.site), ("dataset", Json.ofText d.replica.dataset)]),
    ("decision", Json.ofText d.decision.word),
    ("reason", Json.ofText d.reason)]

/-- The written document of a decision. -/
def ReplicaDecision.written (d : ReplicaDecision) : Except Fault String :=
  match d.toJson.write? with
  | some text => .ok text
  | none => .error .malformedDocument

theorem ReplicaDecision.written_eq (d : ReplicaDecision) : d.written = .ok d.toJson.write := by
  have hwritable : d.toJson.isWritable = true := by
    simp [toJson, Json.isWritable_ofFields]
  simp [written, Json.write?, hwritable]

namespace CommandLine

/-! ## Printing -/

/-- Work that prints and may fail. It leads to what it gives or to why it fails, and to all that is
printed by then: a failure takes nothing back. -/
abbrev Printing := ExceptT Fault (StateM String)

/-- What some work leads to where some text has been printed before. -/
def Printing.after {α : Type} (work : Printing α) (printed : String) : Except Fault α × String :=
  work.run.run printed

theorem after_pure {α : Type} (a : α) (printed : String) :
    Printing.after (pure a) printed = (.ok a, printed) := rfl

/-- What is only computed prints nothing. -/
theorem after_lift {α : Type} (result : Except Fault α) (printed : String) :
    Printing.after (liftM result) printed = (result, printed) := rfl

/-- Work is continued from what it gives and from what it has printed, and ends where it fails. -/
theorem after_bind {α β : Type} (work : Printing α) (next : α → Printing β) (printed : String) :
    Printing.after (work >>= next) printed =
      match work.after printed with
      | (.ok a, printed) => (next a).after printed
      | (.error fault, printed) => (.error fault, printed) := by
  rw [Printing.after, ExceptT.run_bind, StateT.run_bind, Printing.after]
  rcases work.run.run printed with ⟨fault | a, printed⟩ <;> rfl

/-- Prints a line. -/
def printLine (line : String) : Printing Unit :=
  modify fun printed => printed ++ (line ++ "\n")

theorem after_printLine (line printed : String) :
    (printLine line).after printed = (.ok (), printed ++ (line ++ "\n")) := rfl

/-- Prints a decision on one line, as a document or as a text. -/
def printDecision (asJson : Bool) (d : ReplicaDecision) : Printing Unit := do
  if asJson then
    printLine (← d.written)
  else
    printLine d.text

/-- A number with blanks before it up to two places. -/
def entryNumber (n : Nat) : String :=
  let digits := toString n
  String.ofList (List.replicate (2 - digits.length) ' ') ++ digits

/-- The line with the name of a stack and its default decision. -/
def stackLine (s : PolicyStack) : String :=
  s!"Stack {s.name} compiled, default {s.default.text}"

/-- The line about the rule at an index of a stack. -/
def ruleLine (rule : Rule) (i : Nat) : String :=
  s!"  {entryNumber (i + 1)}. {rule.name}"

/-- Prints what is to be said about a stack. -/
def printStack (s : PolicyStack) : Printing Unit := do
  printLine (stackLine s)
  s.rules.zipIdx.forM fun (rule, i) => printLine (ruleLine rule i)

/-- The line above the attributes that a condition could be about. -/
def emptyLine : String := "Empty condition, matches every replica. Known attributes:"

/-- The line about the attribute of a name. -/
def nameLine (name : String) : String :=
  s!"  {name}"

/-- Prints what a condition could be about. -/
def printAttributes : Printing Unit := do
  printLine emptyLine
  Attribute.names.forM fun name => printLine (nameLine name)

/-- The line about a predicate, whose attribute has values of a type. -/
def predicateLine (p : Predicate) (type : ValueType) : String :=
  s!"  {p.subject.name} {p.operator.text} ({type.word})"

/-- Prints a predicate with the type of the attribute that its name names. -/
def printPredicate (p : Predicate) : Printing Unit := do
  let a ← Attribute.lookup p.subject.name
  printLine (predicateLine p a.valueType)

/-- Prints the predicates of a condition, or what it could be about if it has none. -/
def printCondition (c : Condition) : Printing Unit := do
  if c.predicates.isEmpty then
    printAttributes
  c.predicates.forM printPredicate

/-! ## Commands -/

/-- The time that a text tells, or the present if there is no text. -/
def referenceTime (present : Instant) : Option String → Except Fault Instant
  | none => .ok present
  | some text =>
    match Instant.read? text with
    | some t => .ok t
    | none => .error (.invalidSetting (.unreadableNow text))

/-- The decisions about the inventory at a path by the stack at a path. A partition that is given
takes the place of that in the definition of the stack. -/
def decisions (files : Files) (present : Instant) (stack inventory : String)
    (partition now : Option String) : Except Fault (List ReplicaDecision) := do
  let now ← referenceTime present now
  let config ← StackConfig.ofFile files stack
  let config := { config with partition := partition <|> config.partition }
  let inv ← Inventory.ofFile files inventory
  config.evaluate files now inv

/-- The stack at a path, with ages counted back from a time. -/
def stackAt (files : Files) (now : Instant) (path : String) : Except Fault PolicyStack := do
  let config ← StackConfig.ofFile files path
  config.build files now

/-- The work of a command. -/
def Command.perform (files : Files) (present : Instant) : Command → Printing Unit
  | .evaluate stack inventory partition now asJson => do
    let decided ← decisions files present stack inventory partition now
    decided.forM (printDecision asJson)
  | .check stack => do
    let stack ← stackAt files present stack
    printStack stack
  | .condition text partition => do
    let condition ← Condition.compile partition text
    printCondition condition

/-- What a call of the program leads to. -/
structure Outcome where
  /-- The exit code: 0 for success, 1 for a failure, 2 for arguments that make no sense. -/
  exitCode : Nat
  /-- What is printed. -/
  output : String
  /-- The complaint, without the line break after it. -/
  complaint : String
  deriving DecidableEq, Repr

/-- What is said about arguments that make no sense. -/
def usageComplaint : String :=
  s!"error: invalid arguments\n\nUsage: {programName} <COMMAND>\n\n" ++
    "For more information, try '--help'."

/-- The outcome of some work: all that it has printed, and the complaint if it has failed. -/
def Printing.outcome (work : Printing Unit) : Outcome :=
  match work.after "" with
  | (.ok (), printed) => ⟨0, printed, ""⟩
  | (.error fault, printed) => ⟨1, printed, s!"Error: {fault.message}"⟩

/-- The outcome of a call of the program. -/
def run (files : Files) (present : Instant) (arguments : List String) : Outcome :=
  match Request.ofArguments arguments with
  | .refused => ⟨2, "", usageComplaint⟩
  | .version => ⟨0, versionText, ""⟩
  | .help about => ⟨0, about.text, ""⟩
  | .run command => (command.perform files present).outcome

end CommandLine

end ReplicaPolicy
