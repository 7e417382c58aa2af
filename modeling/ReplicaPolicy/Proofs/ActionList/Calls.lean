import ReplicaPolicy.Proofs.ActionList.Strictness

set_option relaxedAutoImplicit false
set_option autoImplicit false

/-!
# Lists that grow call by call

A list is grown by calls, some of which may fail. What a call adds, and whether it is complained
about, does not depend on the list. So the list after some calls is the list before them with the
gains of the calls at its end, and a call that fails leaves nothing behind but the entries of files
that were read before the one that cannot be read.

## Main definitions

* `ReplicaPolicy.ActionList.Call`, `Call.perform` — calls and what they do to a list.
* `ReplicaPolicy.ActionList.Call.gain`, `Call.complaint?` — what a call adds, and why it fails.
* `ReplicaPolicy.ActionList.Call.Accounts` — what holds of a list after a call, and of its outcome.
* `ReplicaPolicy.ActionList.run` — the list after some calls.

## Main results

* `ReplicaPolicy.ActionList.loadFiles_eq` — files are loaded up to the first that cannot be read.
* `ReplicaPolicy.ActionList.Call.perform_eq` — a call adds its gain to any list.
* `ReplicaPolicy.ActionList.run_eq` — a run adds the gains of its calls.
* `ReplicaPolicy.ActionList.run_accounted` — every call of a run is accounted for.
-/

namespace ReplicaPolicy

namespace ActionList

open ActionEntry (writtenIn)
open ActionLine (firstMalformed?)

/-! ## Files -/

/-- The texts of some files, up to the first file that cannot be read. -/
def readable (files : Files) : List String → List String
  | [] => []
  | path :: paths =>
    match files path with
    | none => []
    | some text => text :: readable files paths

/-- The entries of some files, up to the first file that cannot be read. -/
def writtenInFiles (files : Files) (paths : List String) : List ActionEntry :=
  (readable files paths).flatMap writtenIn

/-- The complaint about some files, if one of them cannot be read. -/
def unreadable? (files : Files) (paths : List String) : Option Fault :=
  if paths.all fun path => (files path).isSome then none else some .unreadableFile

/-- If one of some files cannot be read, then the texts are those of the files before the first such
file. -/
lemma exists_of_unreadable? {files : Files} {paths : List String} {fault : Fault}
    (h : unreadable? files paths = some fault) :
    ∃ before path after, paths = before ++ path :: after ∧ files path = none ∧
      List.Forall₂ (fun path text => files path = some text) before (readable files paths) := by
  induction paths with
  | nil => exact absurd h (by simp [unreadable?])
  | cons path paths ih =>
    cases hp : files path with
    | none => exact ⟨[], path, paths, rfl, hp, by simp [readable, hp]⟩
    | some text =>
      have hrest : unreadable? files paths = some fault := by simpa [unreadable?, hp] using h
      obtain ⟨before, unread, after, rfl, hunread, hbefore⟩ := ih hrest
      refine ⟨path :: before, unread, after, rfl, hunread, ?_⟩
      simp only [readable, hp]
      exact .cons hp hbefore

/-- The outcome of what adds `n` entries unless it is complained about. -/
def outcome (n : ℕ) : Option Fault → Except Fault ℕ
  | none => .ok n
  | some fault => .error fault

/-- A success is a count. -/
lemma outcome_eq_ok_iff {n k : ℕ} {complaint : Option Fault} :
    outcome n complaint = .ok k ↔ complaint = none ∧ n = k := by
  cases complaint <;> simp [outcome]

/-- A failure is a complaint. -/
lemma outcome_eq_error_iff {n : ℕ} {complaint : Option Fault} {fault : Fault} :
    outcome n complaint = .error fault ↔ complaint = some fault := by
  cases complaint <;> simp [outcome]

/-- A list that grows by some files has their entries at its end. They are counted with those that
were added before. -/
lemma growFrom_loadFile (files : Files) (paths : List String) (added : ℕ) (l : ActionList) :
    growFrom (loadFile files) l added paths =
      (l.extend (writtenInFiles files paths),
        outcome (added + (writtenInFiles files paths).length) (unreadable? files paths)) := by
  induction paths generalizing added l with
  | nil => simp [growFrom, writtenInFiles, readable, unreadable?, outcome]
  | cons path paths ih =>
    cases hp : files path with
    | none => simp [growFrom, loadFile, writtenInFiles, readable, unreadable?, outcome, hp]
    | some text =>
      have hload : l.loadFile files path = l.load text := by rw [loadFile, hp]
      have hwritten : writtenInFiles files (path :: paths) =
          writtenIn text ++ writtenInFiles files paths := by simp [writtenInFiles, readable, hp]
      have hunreadable : unreadable? files (path :: paths) = unreadable? files paths := by
        simp [unreadable?, hp]
      rw [growFrom, hload, load_eq]
      dsimp only
      rw [ih, hwritten, hunreadable, extend_extend, List.length_append, Nat.add_assoc]

/-- **Files are loaded up to the first that cannot be read**, which is complained about. -/
lemma loadFiles_eq (files : Files) (l : ActionList) (paths : List String) :
    l.loadFiles files paths =
      (l.extend (writtenInFiles files paths),
        outcome (writtenInFiles files paths).length (unreadable? files paths)) := by
  rw [loadFiles, growFrom_loadFile, Nat.zero_add]

/-- A file is loaded as the only one of some files. -/
lemma loadFile_eq_loadFiles (files : Files) (l : ActionList) (path : String) :
    l.loadFile files path = l.loadFiles files [path] := by
  rw [loadFiles, growFrom]
  rcases l.loadFile files path with ⟨m, _ | n⟩ <;> simp [growFrom]

/-! ## Calls -/

/-- A call by which a list grows. -/
inductive Call where
  /-- Adds an entry. -/
  | add (line : ActionLine)
  /-- Adds the entries that a text writes. -/
  | load (text : String)
  /-- Adds the entries that a text writes, if every other line is a remark. -/
  | loadStrict (text : String)
  /-- Adds the entries of a file. -/
  | loadFile (path : String)
  /-- Adds the entries of some files. -/
  | loadFiles (paths : List String)

namespace Call

/-- The list after a call, with the number of new entries or a complaint. -/
def perform (files : Files) (l : ActionList) : Call → Grown
  | add line => l.addFrom 0 [line]
  | load text => l.load text
  | loadStrict text => l.loadStrict text
  | loadFile path => l.loadFile files path
  | loadFiles paths => l.loadFiles files paths

/-- The entries that a call adds. -/
def gain (files : Files) : Call → List ActionEntry
  | add line => (ActionEntry.compile line).toOption.toList
  | load text => writtenIn text
  | loadStrict text => if (firstMalformed? text).isSome then [] else writtenIn text
  | loadFile path => writtenInFiles files [path]
  | loadFiles paths => writtenInFiles files paths

/-- The complaint about a call. -/
def complaint? (files : Files) : Call → Option Fault
  | add line =>
    match ActionEntry.compile line with
    | .error fault => some fault
    | .ok _ => none
  | load _ => none
  | loadStrict text =>
    (firstMalformed? text).map fun n => .invalidActionLine n.number (String.ofList n.line)
  | loadFile path => unreadable? files [path]
  | loadFiles paths => unreadable? files paths

/-- **A call adds its gain to any list**, and its outcome does not depend on the list. -/
theorem perform_eq (files : Files) (l : ActionList) (call : Call) :
    call.perform files l =
      (l.extend (call.gain files), outcome (call.gain files).length (call.complaint? files)) := by
  cases call with
  | add line =>
    simp only [perform, gain, complaint?, addFrom, ActionList.add]
    cases ActionEntry.compile line <;> simp [Except.map, Except.toOption, outcome, extend]
  | load text => exact load_eq l text
  | loadStrict text =>
    simp only [perform, gain, complaint?, loadStrict_eq, load_eq]
    cases firstMalformed? text <;> simp [outcome]
  | loadFile path => exact (loadFile_eq_loadFiles files l path).trans (loadFiles_eq files l [path])
  | loadFiles paths => exact loadFiles_eq files l paths

/-- What holds of the list `m` that a call makes of the list `l`, and of the outcome of the call. -/
structure Accounts (files : Files) (l : ActionList) (call : Call) (m : ActionList)
    (result : Except Fault ℕ) : Prop where
  /-- The entries that were there stay in front. -/
  keeps : l.entries <+: m.entries
  /-- A success counts the new entries. -/
  counts : ∀ n, result = .ok n → m.entries.length = l.entries.length + n
  /-- An entry that is complained about leaves the list as it was. -/
  of_add : ∀ line fault, call = add line → result = .error fault → m = l
  /-- A text is loaded without complaint. -/
  of_load : ∀ text, call = load text → ∃ n, result = .ok n
  /-- A strict list that is complained about stays as it was, and the complaint is about a line. -/
  of_loadStrict : ∀ text fault, call = loadStrict text → result = .error fault →
    m = l ∧ ∃ number line, fault = .invalidActionLine number line
  /-- A file that is complained about leaves the list as it was. -/
  of_loadFile : ∀ path fault, call = loadFile path → result = .error fault → m = l
  /-- Of some files, only those before the one that is complained about have added their entries. -/
  of_loadFiles : ∀ paths fault, call = loadFiles paths → result = .error fault →
    ∃ before path after texts, paths = before ++ path :: after ∧ files path = none ∧
      List.Forall₂ (fun path text => files path = some text) before texts ∧
      m = l.extend (texts.flatMap writtenIn)

/-- **Every call is accounted for.** -/
theorem accounts_perform (files : Files) (l : ActionList) (call : Call) :
    call.Accounts files l (call.perform files l).1 (call.perform files l).2 := by
  rw [perform_eq]
  constructor
  case keeps => exact List.prefix_append l.entries _
  case counts =>
    intro n hn
    obtain ⟨-, rfl⟩ := outcome_eq_ok_iff.1 hn
    exact List.length_append
  case of_add =>
    rintro line fault rfl h
    have hcomplaint := outcome_eq_error_iff.1 h
    simp only [complaint?] at hcomplaint
    cases hc : ActionEntry.compile line with
    | error reason => simp [gain, hc, Except.toOption]
    | ok e => exact absurd hcomplaint (by simp [hc])
  case of_load =>
    rintro text rfl
    exact ⟨_, outcome_eq_ok_iff.2 ⟨rfl, rfl⟩⟩
  case of_loadStrict =>
    rintro text fault rfl h
    obtain ⟨n, hn, rfl⟩ := Option.map_eq_some_iff.1 (outcome_eq_error_iff.1 h)
    exact ⟨by simp [gain, hn], n.number, String.ofList n.line, rfl⟩
  case of_loadFile =>
    rintro path fault rfl h
    cases hp : files path with
    | none => simp [gain, writtenInFiles, readable, hp]
    | some text =>
      exact absurd (outcome_eq_error_iff.1 h) (by simp [complaint?, unreadable?, hp])
  case of_loadFiles =>
    rintro paths fault rfl h
    obtain ⟨before, path, after, hpaths, hpath, hbefore⟩ :=
      exists_of_unreadable? (outcome_eq_error_iff.1 h)
    exact ⟨before, path, after, readable files paths, hpaths, hpath, hbefore, rfl⟩

end Call

/-! ## Runs -/

/-- The list after some calls, each of which finds files of its own. -/
def run (l : ActionList) (calls : List (Files × Call)) : ActionList :=
  calls.foldl (fun l c => (c.2.perform c.1 l).1) l

/-- **A run adds the gains of its calls**, one after the other. -/
theorem run_eq (l : ActionList) (calls : List (Files × Call)) :
    l.run calls = l.extend (calls.flatMap fun c => c.2.gain c.1) := by
  induction calls generalizing l with
  | nil => exact (extend_nil l).symm
  | cons c calls ih =>
    have hstep : l.run (c :: calls) = (l.extend (c.2.gain c.1)).run calls := by
      rw [run, List.foldl_cons, Call.perform_eq]
      rfl
    rw [hstep, ih, extend_extend, List.flatMap_cons]

/-- **Every call of a run is accounted for**, whatever came before it. Entries that were there stay
in front. A success counts the entries that it added. Loading a text succeeds, and strict loading
complains about a line or succeeds. A complaint about an entry, a text or a file leaves the list as
it was; a complaint about one of some files leaves the entries of the files before it.

**Proof sketch.** What a call adds does not depend on the list. -/
theorem run_accounted (l : ActionList) (calls : List (Files × Call)) :
    l.entries <+: (l.run calls).entries ∧
      ∀ before files call after, calls = before ++ (files, call) :: after →
        call.Accounts files (l.run before) (l.run (before ++ [(files, call)]))
          (call.perform files (l.run before)).2 := by
  constructor
  · rw [run_eq]
    exact List.prefix_append l.entries _
  · rintro before files call after -
    have hnext : l.run (before ++ [(files, call)]) = (call.perform files (l.run before)).1 := by
      rw [run, List.foldl_append]
      rfl
    rw [hnext]
    exact call.accounts_perform files (l.run before)

/-- Calls that fail: an entry with a range that goes backwards, a line without a dataset, a file
that cannot be read, and such a file among others. -/
def failingCalls : List (Files × Call) :=
  [(keptFiles, .add ⟨"Keep", "T[2-1]", "/*/*/RAW"⟩), (keptFiles, .loadStrict "\nKeep T2"),
    (keptFiles, .loadFile "lost.list"),
    (keptFiles, .loadFiles ["kept.list", "lost.list", "kept.list"])]

/-- The first three calls leave a list without entries, and the last one leaves the entries of its
first file. -/
theorem run_accounted_failing_calls :
    (named "kept").run (failingCalls.take 1) = named "kept" ∧
    (named "kept").run (failingCalls.take 2) = (named "kept").run (failingCalls.take 1) ∧
    (named "kept").run (failingCalls.take 3) = (named "kept").run (failingCalls.take 2) ∧
    ∃ before path after texts, ["kept.list", "lost.list", "kept.list"] = before ++ path :: after ∧
      keptFiles path = none ∧
      List.Forall₂ (fun path text => keptFiles path = some text) before texts ∧
      (named "kept").run failingCalls =
        ((named "kept").run (failingCalls.take 3)).extend (texts.flatMap writtenIn) := by
  obtain ⟨-, haccounts⟩ := run_accounted (named "kept") failingCalls
  exact ⟨(haccounts [] _ _ _ rfl).of_add _ _ rfl rfl,
    ((haccounts (failingCalls.take 1) _ _ _ rfl).of_loadStrict _ _ rfl rfl).1,
    (haccounts (failingCalls.take 2) _ _ _ rfl).of_loadFile _ _ rfl rfl,
    (haccounts (failingCalls.take 3) _ _ _ rfl).of_loadFiles _ _ rfl rfl⟩

end ActionList

end ReplicaPolicy
