import ReplicaPolicy.CommandLine.Arguments

set_option relaxedAutoImplicit false
set_option autoImplicit false

/-!
# Help of the command line

Help tells what a command does, how it is called, and what its options are for. The texts for
options and commands start in one column, two blanks after the longest name.

## Main definitions

* `ReplicaPolicy.CommandLine.programName`, `versionText` — what the program is.
* `ReplicaPolicy.CommandLine.Help.text` — the text of help.
-/

namespace ReplicaPolicy.CommandLine

/-- The name of the program. -/
def programName : String := "detox"

/-- The name of the program with its version. -/
def versionText : String := s!"{programName} 0.1.0\n"

/-- The text with blanks after it up to a length. -/
def pad (length : Nat) (text : String) : String :=
  text ++ String.ofList (List.replicate (length - text.length) ' ')

/-- Some names with texts for them, in two columns. -/
def columns (rows : List (String × String)) : String :=
  let width := (rows.map fun row => row.1.length).foldl max 0
  String.join (rows.map fun (name, text) => s!"  {pad width name}  {text}\n")

/-- The names of the commands, and what they do. -/
def commandRows : List (String × String) :=
  Topic.all.map (fun topic => (topic.name, topic.about)) ++
    [(Request.helpName, "Print this message or the help of the given subcommand(s)")]

/-- An option as it is written in a call. -/
def OptionSpec.usage (spec : OptionSpec) : String :=
  match spec.kind with
  | .flag => s!"--{spec.name}"
  | .text | .path => s!"--{spec.name} <{spec.name.map Char.toUpper}>"

/-- The options of a command, and what they are for. -/
def optionRows (specs : List OptionSpec) : List (String × String) :=
  specs.map (fun spec => (s!"    {spec.usage}", spec.about)) ++ [("-h, --help", "Print help")]

/-- How a command is called. -/
def usageLine (topic : Topic) : String :=
  let isOptional := topic.options.any fun spec => !spec.isRequired
  let required := topic.options.filter fun spec => spec.isRequired
  let words := [programName, topic.name] ++ (if isOptional then ["[OPTIONS]"] else []) ++
    required.map OptionSpec.usage
  " ".intercalate words

/-- The text of help. -/
def Help.text : Help → String
  | .program =>
    s!"Usage: {programName} <COMMAND>\n\nCommands:\n" ++ columns commandRows ++
      "\nOptions:\n" ++ columns [("-h, --help", "Print help"), ("-V, --version", "Print version")]
  | .topic t =>
    s!"{t.about}\n\nUsage: {usageLine t}\n\nOptions:\n" ++ columns (optionRows t.options)
  | .help =>
    "Print this message or the help of the given subcommand(s)\n\n" ++
      s!"Usage: {programName} {Request.helpName} [COMMAND]...\n\nArguments:\n" ++
      columns [("[COMMAND]...", "Print help for the subcommand(s)")]

end ReplicaPolicy.CommandLine
