import ReplicaPolicy.Fault
import ReplicaPolicy.Text.Blank
import ReplicaPolicy.Text.Word

set_option relaxedAutoImplicit false
set_option autoImplicit false

/-!
# Lines of action lists

A line of a list file that is an entry reads: `Keep` or `Delete`, the glob of sites, and the glob
of datasets, with blanks between them; what follows the third after a blank does not count. The
glob of sites is made of ASCII letters, digits, underscores and stars. The glob of datasets has
three parts, each after a slash, made of word characters, stars and hyphens.

## Main definitions

* `ReplicaPolicy.ActionLine` — an entry as written.
* `ReplicaPolicy.ActionLine.ofLine?` — the entry that a line writes.
* `ReplicaPolicy.ActionLine.scan` — the lines of a text, each with its number and its entry.
* `ReplicaPolicy.ActionLine.strict` — the entries of a text without other lines.
-/

namespace ReplicaPolicy

/-- An entry of an action list as written. -/
structure ActionLine where
  /-- The word for the action. -/
  action : String
  /-- The glob of sites. -/
  site : String
  /-- The glob of datasets. -/
  dataset : String
  deriving DecidableEq, Repr

namespace ActionLine

/-! ## Parts of a line -/

/-- The characters of a glob of sites. -/
def isSiteChar (c : Char) : Bool :=
  c.isAlphanum || c == '_' || c == '*'

/-- The characters of the parts of a glob of datasets. -/
def isDatasetChar (c : Char) : Bool :=
  Text.isWord c || c == '*' || c == '-'

/-- The run of marked characters at the start of a text, and the rest, if the run is not empty. -/
def takeRun? (marked : Char → Bool) (cs : List Char) : Option (List Char × List Char) :=
  let run := cs.takeWhile marked
  if run.isEmpty then none else some (run, cs.dropWhile marked)

/-- The word for an action at the start of a text, and the rest. -/
def takeAction? (cs : List Char) : Option (List Char × List Char) :=
  match cs with
  | 'K' :: 'e' :: 'e' :: 'p' :: rest => some (['K', 'e', 'e', 'p'], rest)
  | 'D' :: 'e' :: 'l' :: 'e' :: 't' :: 'e' :: rest =>
    some (['D', 'e', 'l', 'e', 't', 'e'], rest)
  | _ => none

/-- The rest of a text after the blanks it starts with, if it starts with one. -/
def afterBlanks? (cs : List Char) : Option (List Char) :=
  (takeRun? Text.isBlank cs).map Prod.snd

/-- One part of a glob of datasets, its slash included, and the rest. -/
def takePart? : List Char → Option (List Char × List Char)
  | '/' :: cs => (takeRun? isDatasetChar cs).map fun (run, rest) => ('/' :: run, rest)
  | _ => none

/-- A glob of datasets at the start of a text, and the rest. -/
def takeDataset? (cs : List Char) : Option (List Char × List Char) := do
  let (first, cs) ← takePart? cs
  let (second, cs) ← takePart? cs
  let (third, cs) ← takePart? cs
  some (first ++ second ++ third, cs)

/-- The text ends here, or a blank follows. -/
def atEnd (cs : List Char) : Bool :=
  cs.head?.all Text.isBlank

/-! ## Lines -/

/-- The entry that a line writes. -/
def ofLine? (line : List Char) : Option ActionLine := do
  let (action, cs) ← takeAction? (Text.trim line)
  let cs ← afterBlanks? cs
  let (site, cs) ← takeRun? isSiteChar cs
  let cs ← afterBlanks? cs
  let (dataset, cs) ← takeDataset? cs
  if atEnd cs then some ⟨String.ofList action, String.ofList site, String.ofList dataset⟩
  else none

/-- A line that is blank or a comment: one that starts with a number sign. -/
def isRemark (line : List Char) : Bool :=
  (Text.trim line).head?.all (· == '#')

/-- A line of a text: its number, counted from one, and what it says. -/
structure Numbered where
  /-- The number of the line. -/
  number : Nat
  /-- The line as read. -/
  line : List Char
  deriving DecidableEq, Repr

/-- The lines of a text with their numbers. -/
def scan (text : String) : List Numbered :=
  (Text.lines text.toList).zipIdx.map fun (line, i) => ⟨i + 1, line⟩

/-- The entries that a text writes, lines that are no entry passed over. -/
def permissive (text : String) : List ActionLine :=
  (Text.lines text.toList).filterMap ofLine?

/-- The lines of a text that are no entry. -/
def ignored (text : String) : List Numbered :=
  (scan text).filter fun n => (ofLine? n.line).isNone

/-- The entries that some lines write, or the complaint about the first line that is neither an
entry nor a remark. -/
def strictFrom : List Numbered → Except Fault (List ActionLine)
  | [] => .ok []
  | n :: rest =>
    if isRemark n.line then strictFrom rest
    else
      match ofLine? n.line with
      | some entry => (strictFrom rest).map (entry :: ·)
      | none => .error (.invalidActionLine n.number (String.ofList n.line))

/-- The entries that a text writes, or the complaint about the first line that is neither an
entry nor a remark. -/
def strict (text : String) : Except Fault (List ActionLine) :=
  strictFrom (scan text)

end ActionLine

end ReplicaPolicy
