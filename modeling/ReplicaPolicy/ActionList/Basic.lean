import ReplicaPolicy.ActionList.Line
import ReplicaPolicy.Decision
import ReplicaPolicy.Event
import ReplicaPolicy.Files.Path
import ReplicaPolicy.Glob.Syntax
import ReplicaPolicy.Inventory.Basic

set_option relaxedAutoImplicit false
set_option autoImplicit false

/-!
# Action lists

An action list takes decisions about the replicas that pairs of globs select, one glob for the
site and one for the dataset. The first entry that selects a replica decides it. Lists grow at
the end: by single entries, by the lines of a text, and by the lines of files.

## Main definitions

* `ReplicaPolicy.ActionEntry`, `ActionEntry.compile`, `ActionEntry.selects` — entries.
* `ReplicaPolicy.ActionList` — a named list of entries.
* `ReplicaPolicy.ActionList.add`, `load`, `loadStrict`, `loadFile`, `loadFiles` — how it grows.
* `ReplicaPolicy.ActionList.evaluate` — the decision about a replica.

## Main results

* `ReplicaPolicy.ActionList.entries_add` — adding puts the entry at the end.
* `ReplicaPolicy.ActionEntry.decision_of_compile` — `Keep` protects, any other word deletes.
-/

namespace ReplicaPolicy

/-! ## Entries -/

/-- The decision of a word: `Keep` protects, any other word deletes. -/
def ActionEntry.decisionOf (action : String) : Decision :=
  if action = "Keep" then .protect else .delete

/-- A decision about the replicas that two globs select. -/
structure ActionEntry where
  /-- The decision. -/
  decision : Decision
  /-- Which sites. -/
  site : Glob
  /-- Which datasets. -/
  dataset : Glob
  /-- The word for the decision as written. -/
  action : String
  /-- The decision is that of the word. -/
  decision_eq : decision = ActionEntry.decisionOf action
  deriving DecidableEq, Repr

namespace ActionEntry

/-- The entry that three texts write. -/
def compile (line : ActionLine) : Except Fault ActionEntry := do
  let site ← Glob.compile line.site
  let dataset ← Glob.compile line.dataset
  .ok ⟨decisionOf line.action, site, dataset, line.action, rfl⟩

/-- Whether the entry selects a replica. -/
def selects (e : ActionEntry) (v : View) : Bool :=
  e.site.selects v.site.name && e.dataset.selects v.dataset.name

/-- The verdict on the replicas that the entry selects. -/
def verdict (e : ActionEntry) : Verdict :=
  ⟨e.decision, s!"Pattern match: (action, site, dataset) = ({e.action}, {e.site.text}, " ++
    s!"{e.dataset.text})", none⟩

theorem decision_of_compile {line : ActionLine} {e : ActionEntry} (h : compile line = .ok e) :
    e.decision = decisionOf line.action := by
  unfold compile at h
  cases hs : Glob.compile line.site with
  | error f => simp [hs, bind, Except.bind] at h
  | ok s =>
    cases hd : Glob.compile line.dataset with
    | error f => simp [hs, hd, bind, Except.bind] at h
    | ok d =>
      simp only [hs, hd, bind, Except.bind, Except.ok.injEq] at h
      exact h ▸ rfl

end ActionEntry

/-! ## Lists -/

/-- A named list of entries. -/
structure ActionList where
  /-- The name, under which its decisions are reported. -/
  name : String
  /-- The entries in order. -/
  entries : List ActionEntry
  deriving DecidableEq, Repr

namespace ActionList

/-- The name of a list that is given none. -/
def defaultName : String := "ActionList"

/-- The list of a name without entries. -/
def named (name : String) : ActionList :=
  ⟨name, []⟩

/-- The list with the entry that three texts write at its end. -/
def add (l : ActionList) (line : ActionLine) : Except Fault ActionList :=
  (ActionEntry.compile line).map fun e => { l with entries := l.entries ++ [e] }

theorem entries_add {l m : ActionList} {line : ActionLine} (h : l.add line = .ok m) :
    ∃ e, ActionEntry.compile line = .ok e ∧ m = { l with entries := l.entries ++ [e] } := by
  unfold add at h
  cases hc : ActionEntry.compile line with
  | error f => simp [hc, Except.map] at h
  | ok e => exact ⟨e, rfl, by simpa [hc, Except.map] using h.symm⟩

/-! ## Growing

A list grows as far as it can. Each way of growing gives the list that results, and the number of
entries that were added or the complaint that ended the growth. -/

/-- A list after it has grown, with the number of new entries or a complaint. -/
abbrev Grown := ActionList × Except Fault Nat

/-- Adds entries up to the first one that cannot be added; `added` were added before. -/
def addFrom (l : ActionList) (added : Nat) : List ActionLine → Grown
  | [] => (l, .ok added)
  | line :: lines =>
    match l.add line with
    | .error fault => (l, .error fault)
    | .ok l => l.addFrom (added + 1) lines

/-- Adds the entries that a text writes; other lines are passed over. -/
def load (l : ActionList) (text : String) : Grown :=
  l.addFrom 0 (ActionLine.permissive text)

/-- Adds the entries that a text writes, if every other line is a remark. -/
def loadStrict (l : ActionList) (text : String) : Grown :=
  match ActionLine.strict text with
  | .error fault => (l, .error fault)
  | .ok lines => l.addFrom 0 lines

/-- Adds the entries of a file. -/
def loadFile (files : Files) (l : ActionList) (path : String) : Grown :=
  match files path with
  | none => (l, .error .unreadableFile)
  | some text => l.load text

/-- Adds the entries of a file, if every other line is a remark. -/
def loadFileStrict (files : Files) (l : ActionList) (path : String) : Grown :=
  match files path with
  | none => (l, .error .unreadableFile)
  | some text => l.loadStrict text

/-- Grows a list by one path after the other, up to the first complaint; `added` entries were
added before. -/
def growFrom (grow : ActionList → String → Grown) (l : ActionList) (added : Nat) :
    List String → Grown
  | [] => (l, .ok added)
  | path :: paths =>
    match grow l path with
    | (l, .error fault) => (l, .error fault)
    | (l, .ok n) => growFrom grow l (added + n) paths

/-- Adds the entries of some files. -/
def loadFiles (files : Files) (l : ActionList) (paths : List String) : Grown :=
  growFrom (loadFile files) l 0 paths

/-- Adds the entries of some files, if every other line is a remark. -/
def loadFilesStrict (files : Files) (l : ActionList) (paths : List String) : Grown :=
  growFrom (loadFileStrict files) l 0 paths

/-- The list of the entries of a file, named for the file. -/
def ofFile (files : Files) (path : String) : Except Fault ActionList :=
  match (named path).loadFile files path with
  | (_, .error fault) => .error fault
  | (l, .ok _) => .ok l

/-! ## Deciding -/

/-- The verdict of the first entry that selects a replica. -/
def evaluate (l : ActionList) (v : View) : Option Verdict :=
  (l.entries.find? fun e => e.selects v).map ActionEntry.verdict

/-! ## Events -/

/-- What is noted while a text is loaded. -/
def loadEvents (l : ActionList) (text : String) : List Event :=
  (ActionLine.ignored text).map fun n => .ignoredLine l.name n.number (String.ofList n.line)

/-- What is noted while a file is loaded. -/
def loadFileEvents (files : Files) (l : ActionList) (path : String) : List Event :=
  match files path with
  | none => []
  | some text =>
    l.loadEvents text ++
      match l.load text with
      | (_, .ok n) => [.loadedActions n path]
      | (_, .error _) => []

/-- What is noted while some files are loaded. -/
def loadFilesEvents (files : Files) (l : ActionList) : List String → List Event
  | [] => []
  | path :: paths =>
    l.loadFileEvents files path ++
      match l.loadFile files path with
      | (l, .ok _) => l.loadFilesEvents files paths
      | (_, .error _) => []

end ActionList

end ReplicaPolicy
