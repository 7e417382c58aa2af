import ReplicaPolicy.CommandLine.Run
import Std.Time.DateTime.Timestamp

set_option relaxedAutoImplicit false
set_option autoImplicit false

/-!
# The program

The files that a call can need are read beforehand; the rest is `CommandLine.run`.

## Main definitions

* `ReplicaPolicy.Program.files` — the files that some arguments can need.
* `main` — the program.
-/

namespace ReplicaPolicy.Program

open CommandLine

/-- The text at a path, if it can be read. -/
def readText (path : String) : IO (Option String) := do
  try
    return some (← IO.FS.readFile path)
  catch _ =>
    return none

/-- The texts at some paths. -/
def readTexts (paths : List String) : IO (List (String × Option String)) :=
  paths.mapM fun path => do return (path, ← readText path)

/-- The files that some texts at paths make up. -/
def filesOf (texts : List (String × Option String)) : Files :=
  fun path => (texts.lookup path).join

/-- The stack definition and the inventory that some arguments name. -/
def namedPaths (arguments : List String) : List String :=
  match Request.ofArguments arguments with
  | .run (.evaluate stack inventory _ _ _) => [stack, inventory]
  | .run (.check stack) => [stack]
  | _ => []

/-- The list files that the first of some paths to definitions asks for. -/
def listPaths (files : Files) : List String → List String
  | [] => []
  | stack :: _ =>
    match StackConfig.ofFile files stack with
    | .ok config => config.listPaths
    | .error _ => []

/-- The files that some arguments can need. -/
def files (arguments : List String) : IO Files := do
  let paths := namedPaths arguments
  let named ← readTexts paths
  let listed ← readTexts (listPaths (filesOf named) paths)
  return filesOf (named ++ listed)

/-- The present time. -/
def present : IO Instant := do
  let now ← Std.Time.Timestamp.now
  let nanos := now.toNanosecondsSinceUnixEpoch.toInt
  return ⟨nanos / Instant.nanosPerSecond, (nanos % Instant.nanosPerSecond).toNat⟩

end ReplicaPolicy.Program

open ReplicaPolicy in
/-- The program: prints what the call leads to, and gives its exit code. -/
def main (arguments : List String) : IO UInt32 := do
  let outcome := CommandLine.run (← Program.files arguments) (← Program.present) arguments
  IO.print outcome.output
  if !outcome.complaint.isEmpty then
    IO.eprintln outcome.complaint
  return outcome.exitCode.toUInt32
