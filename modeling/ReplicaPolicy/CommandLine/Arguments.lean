import ReplicaPolicy.Files.Path

set_option relaxedAutoImplicit false
set_option autoImplicit false

/-!
# Arguments of the command line

The first argument names a command, and options follow. An option starts with two hyphens; its
value follows it, as the next argument or after an equals sign. A next argument that starts with a
hyphen is no value, unless it is the hyphen alone. Options may come in any order, each at most
once. Two hyphens alone end the options, and nothing may follow them.

## Main definitions

* `ReplicaPolicy.CommandLine.Topic`, `OptionSpec`, `Topic.options` — commands and their options.
* `ReplicaPolicy.CommandLine.scan` — the options that some arguments give.
* `ReplicaPolicy.CommandLine.Command`, `Request` — what is asked for.
* `ReplicaPolicy.CommandLine.Request.ofArguments` — what some arguments ask for.
-/

namespace ReplicaPolicy.CommandLine

/-! ## Commands and their options -/

/-- What an option takes. -/
inductive OptionKind where
  /-- Nothing. -/
  | flag
  /-- A text. -/
  | text
  /-- A path, which is not empty. -/
  | path
  deriving DecidableEq, Repr

/-- An option of a command. -/
structure OptionSpec where
  /-- The name, without its hyphens. -/
  name : String
  /-- What it takes. -/
  kind : OptionKind
  /-- It must be given. -/
  isRequired : Bool
  /-- What it is for. -/
  about : String
  deriving DecidableEq, Repr

/-- A command. -/
inductive Topic where
  /-- Decides the replicas of an inventory. -/
  | evaluate
  /-- Compiles a stack definition. -/
  | check
  /-- Compiles a condition. -/
  | condition
  deriving DecidableEq, Repr

namespace Topic

/-- The commands in the order in which they are listed. -/
def all : List Topic := [.evaluate, .check, .condition]

/-- The name of a command. -/
def name : Topic → String
  | .evaluate => "evaluate"
  | .check => "check"
  | .condition => "condition"

/-- The command of a name. -/
def ofName? (text : String) : Option Topic :=
  all.find? fun topic => topic.name == text

/-- What a command does. -/
def about : Topic → String
  | .evaluate => "Decide every replica of an inventory with a policy stack"
  | .check => "Compile a stack definition and list its entries"
  | .condition => "Compile a condition and list its predicates"

/-- The options of a command. -/
def options : Topic → List OptionSpec
  | .evaluate => [
    ⟨"stack", .path, true, "TOML stack definition"⟩,
    ⟨"inventory", .path, true, "JSON inventory snapshot"⟩,
    ⟨"partition", .text, false, "Partition for occupancy and partition-scoped conditions"⟩,
    ⟨"now", .text, false, "Reference time for age thresholds (defaults to the current time)"⟩,
    ⟨"json", .flag, false, "Print one JSON object per decision"⟩]
  | .check => [⟨"stack", .path, true, ""⟩]
  | .condition => [⟨"expr", .text, true, ""⟩, ⟨"partition", .text, false, ""⟩]

end Topic

/-! ## Options as given -/

/-- The options that are given, each with its value; a flag has the empty value. -/
abbrev Given := List (String × String)

/-- What the arguments after a command say. -/
inductive Scan where
  /-- They give options. -/
  | given (options : Given)
  /-- They ask for help. -/
  | help
  /-- They make no sense. -/
  | refused
  deriving DecidableEq, Repr

/-- The characters of a long option after its hyphens: its name, and the value after an equals
sign, if there is one. -/
def splitValue (cs : List Char) : String × Option String :=
  let name := cs.takeWhile (· != '=')
  (String.ofList name, (cs.drop name.length).tail?.map String.ofList)

/-- Whether an argument can be the value of the option before it. -/
def isValue (argument : String) : Bool :=
  argument == "-" || argument.toList.head? != some '-'

/-- Whether an option can be given a value at this point. -/
def accepts (given : Given) (spec : OptionSpec) (value : String) : Bool :=
  (given.lookup spec.name).isNone && !(spec.kind == .path && value.isEmpty)

/-- The options that some arguments give beside those given before. -/
def scan (specs : List OptionSpec) (given : Given) (arguments : List String) : Scan :=
  match arguments with
  | [] => .given given
  | argument :: rest =>
    match argument.toList with
    | ['-', '-'] => if rest.isEmpty then .given given else .refused
    | '-' :: '-' :: cs =>
      let (name, attached) := splitValue cs
      if name == "help" then if attached.isSome then .refused else .help
      else
        match specs.find? fun spec => spec.name == name with
        | none => .refused
        | some spec =>
          match spec.kind == .flag, attached, rest with
          | true, none, rest =>
            if accepts given spec "" then scan specs ((name, "") :: given) rest else .refused
          | true, some _, _ => .refused
          | false, some value, rest =>
            if accepts given spec value then scan specs ((name, value) :: given) rest
            else .refused
          | false, none, value :: rest =>
            if isValue value && accepts given spec value then
              scan specs ((name, value) :: given) rest
            else .refused
          | false, none, [] => .refused
    | '-' :: 'h' :: _ => .help
    | _ => .refused
  termination_by arguments.length

/-- The options that the arguments after a command give, if all that must be given are. -/
def scanAll (specs : List OptionSpec) (arguments : List String) : Scan :=
  match scan specs [] arguments with
  | .given given =>
    if specs.all fun spec => !spec.isRequired || (given.lookup spec.name).isSome then .given given
    else .refused
  | other => other

/-! ## Requests -/

/-- A command with its options. -/
inductive Command where
  /-- Decides the replicas of an inventory. -/
  | evaluate (stack inventory : String) (partition now : Option String) (asJson : Bool)
  /-- Compiles a stack definition. -/
  | check (stack : String)
  /-- Compiles a condition. -/
  | condition (text : String) (partition : Option String)
  deriving DecidableEq, Repr

/-- The command with the options that are given. -/
def Command.ofGiven? (given : Given) : Topic → Option Command
  | .evaluate => do
    some (.evaluate (← given.lookup "stack") (← given.lookup "inventory")
      (given.lookup "partition") (given.lookup "now") (given.lookup "json").isSome)
  | .check => do some (.check (← given.lookup "stack"))
  | .condition => do some (.condition (← given.lookup "expr") (given.lookup "partition"))

/-- What help is asked about. -/
inductive Help where
  /-- The program. -/
  | program
  /-- A command. -/
  | topic (topic : Topic)
  /-- The command that gives help. -/
  | help
  deriving DecidableEq, Repr

/-- What the arguments ask for. -/
inductive Request where
  /-- To run a command. -/
  | run (command : Command)
  /-- Help. -/
  | help (about : Help)
  /-- The version of the program. -/
  | version
  /-- Nothing that makes sense. -/
  | refused
  deriving DecidableEq, Repr

namespace Request

/-- The name of the command that gives help. -/
def helpName : String := "help"

/-- What the arguments after a command ask for. -/
def ofTopic (topic : Topic) (arguments : List String) : Request :=
  match scanAll topic.options arguments with
  | .help => .help (.topic topic)
  | .refused => .refused
  | .given given =>
    match Command.ofGiven? given topic with
    | some command => .run command
    | none => .refused

/-- What help the arguments after the command for it ask for. -/
def ofHelp : List String → Request
  | [] => .help .program
  | [name] =>
    if name == helpName then .help .help
    else
      match Topic.ofName? name with
      | some topic => .help (.topic topic)
      | none => .refused
  | _ => .refused

/-- What some arguments ask for. -/
def ofArguments : List String → Request
  | [] => .refused
  | argument :: rest =>
    if argument == "--help" then .help .program
    else if argument == "--version" then .version
    else
      match argument.toList with
      | '-' :: '-' :: _ => .refused
      | '-' :: 'h' :: _ => .help .program
      | '-' :: 'V' :: _ => .version
      | _ =>
        if argument == helpName then ofHelp rest
        else
          match Topic.ofName? argument with
          | some topic => ofTopic topic rest
          | none => .refused

end Request

end ReplicaPolicy.CommandLine
