import ReplicaPolicy.Proofs.ActionList.Calls
import ReplicaPolicy.Proofs.Text.Lines

set_option relaxedAutoImplicit false
set_option autoImplicit false

/-!
# Joined texts of lists

Two texts with a newline between them are loaded as the one after the other, and so are files as
their texts with newlines between. A strict list refuses the whole if it refuses a part; a complaint
about the second part then counts the lines of the first.

## Main definitions

* `ReplicaPolicy.ActionLine.numbered` — lines with their numbers.
* `ReplicaPolicy.ActionLine.Numbered.down` — a line as many lines further down.

## Main results

* `ReplicaPolicy.ActionLine.scan_join` — the numbered lines of joined texts.
* `ReplicaPolicy.ActionLine.firstMalformed?_join` — the first malformed line of joined texts.
* `ReplicaPolicy.ActionEntry.writtenIn_join` — joined texts write the entries of both.
* `ReplicaPolicy.ActionList.loadFiles_eq_load` — files are loaded as their texts are.
* `ReplicaPolicy.ActionList.load_join` — joined texts are loaded one after the other.
-/

namespace ReplicaPolicy

/-- Two texts with a newline between them, character by character. -/
lemma toList_join (text other : String) :
    (text ++ "\n" ++ other).toList = text.toList ++ '\n' :: other.toList := by
  simp

/-! ## Lines -/

namespace ActionLine

/-- Lines with their numbers, counted from one. -/
def numbered (lines : List (List Char)) : List Numbered :=
  lines.zipIdx.map fun (line, i) => ⟨i + 1, line⟩

/-- A line with `k` more lines before it. -/
def Numbered.down (k : ℕ) (n : Numbered) : Numbered :=
  ⟨n.number + k, n.line⟩

/-- Behind some lines, other lines are as many lines further down. -/
lemma numbered_append (lines others : List (List Char)) :
    numbered (lines ++ others) =
      numbered lines ++ (numbered others).map (Numbered.down lines.length) := by
  rw [numbered, List.zipIdx_append, List.map_append,
    List.zipIdx_eq_map_add (l := others) (i := 0 + lines.length), List.map_map, numbered, numbered,
    List.map_map]
  refine congrArg _ (List.map_congr_left ?_)
  rintro ⟨line, i⟩ -
  have hnumber : 0 + lines.length + i + 1 = i + 1 + lines.length := by omega
  exact congrArg (Numbered.mk · line) hnumber

/-- A line is found among numbered lines if one is marked. -/
lemma isSome_find?_numbered (p : List Char → Bool) (lines : List (List Char)) :
    ((numbered lines).find? fun n => p n.line).isSome = lines.any p := by
  have hlines : (numbered lines).map Numbered.line = lines := by
    rw [numbered, List.map_map]
    exact List.zipIdx_map_fst 0 lines
  rw [Bool.eq_iff_iff, List.find?_isSome]
  conv_rhs => rw [← hlines]
  simp

/-- **The numbered lines of joined texts.** Those of the second text are further down by the
newlines of the first and the one between. -/
lemma scan_join (text other : String) :
    scan (text ++ "\n" ++ other) = numbered (Text.linesBefore text.toList) ++
      (scan other).map (Numbered.down (text.toList.count '\n' + 1)) := by
  rw [← Text.length_linesBefore]
  show numbered (Text.lines _) = _
  rw [toList_join, Text.lines_append_newline, numbered_append]
  rfl

/-- An entry is read from a line without its carriage return as from the line. -/
lemma ofLine?_dropCarriageReturn (line : List Char) :
    ofLine? (Text.dropCarriageReturn line) = ofLine? line := by
  rw [ofLine?, ofLine?, Text.trim_dropCarriageReturn]

/-- A line is malformed if it is without its carriage return. -/
lemma isMalformed_dropCarriageReturn (line : List Char) :
    isMalformed (Text.dropCarriageReturn line) = isMalformed line := by
  rw [isMalformed, isMalformed, ofLine?_dropCarriageReturn, isRemark, isRemark,
    Text.trim_dropCarriageReturn]

/-- A text with a newline behind it has a malformed line if the text has one. -/
lemma isSome_find?_linesBefore (text : String) :
    ((numbered (Text.linesBefore text.toList)).find? fun n => isMalformed n.line).isSome =
      (firstMalformed? text).isSome := by
  rw [isSome_find?_numbered, Text.any_linesBefore rfl isMalformed_dropCarriageReturn,
    ← isSome_find?_numbered]
  rfl

/-- **The first malformed line of joined texts** is that of the second text, further down, if the
first text has none. -/
lemma firstMalformed?_join {text : String} (h : firstMalformed? text = none) (other : String) :
    firstMalformed? (text ++ "\n" ++ other) =
      (firstMalformed? other).map (Numbered.down (text.toList.count '\n' + 1)) := by
  have hnone : ((numbered (Text.linesBefore text.toList)).find? fun n => isMalformed n.line) =
      none := by
    rw [← Option.isNone_iff_eq_none, ← Option.not_isSome, isSome_find?_linesBefore, h]
    rfl
  rw [firstMalformed?, scan_join, List.find?_append, hnone, Option.none_or, List.find?_map]
  rfl

/-- Joined texts have no malformed line just if neither of them has one. -/
lemma firstMalformed?_join_eq_none_iff {text other : String} :
    firstMalformed? (text ++ "\n" ++ other) = none ↔
      firstMalformed? text = none ∧ firstMalformed? other = none := by
  cases h : firstMalformed? text with
  | none => rw [firstMalformed?_join h, Option.map_eq_none_iff]; simp
  | some n =>
    have hsome := isSome_find?_linesBefore text
    obtain ⟨m, hm⟩ := Option.isSome_iff_exists.1 (hsome.trans (by rw [h]; rfl))
    rw [firstMalformed?, scan_join, List.find?_append, hm]
    simp

end ActionLine

/-! ## Entries -/

namespace ActionEntry

/-- The entries of joined texts, as written. -/
lemma permissive_join (text other : String) :
    ActionLine.permissive (text ++ "\n" ++ other) =
      ActionLine.permissive text ++ ActionLine.permissive other := by
  rw [ActionLine.permissive, toList_join, Text.lines_append_newline, List.filterMap_append,
    Text.filterMap_linesBefore rfl ActionLine.ofLine?_dropCarriageReturn]
  rfl

/-- **Joined texts write the entries of both.** -/
theorem writtenIn_join (text other : String) :
    writtenIn (text ++ "\n" ++ other) = writtenIn text ++ writtenIn other := by
  rw [writtenIn, permissive_join, List.filterMap_append]
  rfl

/-- Texts with newlines between them write the entries of all of them. -/
lemma writtenIn_intercalate (texts : List String) :
    writtenIn ("\n".intercalate texts) = texts.flatMap writtenIn := by
  induction texts with
  | nil => rfl
  | cons text texts ih =>
    cases texts with
    | nil => simp
    | cons other texts =>
      rw [String.intercalate_cons_cons, writtenIn_join, ih]
      rfl

end ActionEntry

/-! ## Lists -/

namespace ActionList

open ActionEntry (writtenIn)
open ActionLine (firstMalformed? Numbered)

/-- Files that can be read write the entries of their texts, and none is complained about. -/
lemma writtenInFiles_of_forall₂ {files : Files} {paths texts : List String}
    (h : List.Forall₂ (fun path text => files path = some text) paths texts) :
    writtenInFiles files paths = texts.flatMap writtenIn ∧ unreadable? files paths = none := by
  induction h with
  | nil => exact ⟨rfl, rfl⟩
  | cons hpath _ ih =>
    obtain ⟨hwritten, hunreadable⟩ := ih
    refine ⟨?_, by simpa [unreadable?, hpath] using hunreadable⟩
    rw [List.flatMap_cons, ← hwritten]
    simp [writtenInFiles, readable, hpath]

/-- **Files that can be read are loaded as their texts are**, with newlines between. -/
lemma loadFiles_eq_load {files : Files} {paths texts : List String}
    (h : List.Forall₂ (fun path text => files path = some text) paths texts) (l : ActionList) :
    l.loadFiles files paths = l.load ("\n".intercalate texts) := by
  obtain ⟨hwritten, hunreadable⟩ := writtenInFiles_of_forall₂ h
  rw [loadFiles_eq, load_eq, hwritten, hunreadable, ActionEntry.writtenIn_intercalate]
  rfl

/-- A text is loaded strictly without complaint just if it has no malformed line. -/
lemma exists_loadStrict_eq_ok_iff {l : ActionList} {text : String} :
    (∃ n, (l.loadStrict text).2 = .ok n) ↔ firstMalformed? text = none := by
  rw [loadStrict_eq, load_eq]
  cases firstMalformed? text <;> simp

/-- A complaint about a text that is loaded strictly is one about its first malformed line. -/
lemma loadStrict_eq_error_iff {l : ActionList} {text : String} {fault : Fault} :
    (l.loadStrict text).2 = .error fault ↔
      ∃ n, firstMalformed? text = some n ∧
        fault = .invalidActionLine n.number (String.ofList n.line) := by
  rw [loadStrict_eq, load_eq]
  cases firstMalformed? text <;> simp [eq_comm]

/-- **Joined texts are loaded one after the other.** A text with a newline and another text behind
it leaves the list that the one and then the other leaves, and the number of its entries is the sum
of theirs. Files that can be read are loaded, to the same list and number, as their texts with
newlines between. The whole is loaded strictly just if both texts are, into whatever lists. A
complaint about the second text, where there is none about the first, is a complaint about the same
line of the whole, numbered after the newlines of the first text and the one between.

**Proof sketch.** The lines of the whole are those of both texts, but for the end of the first:
there a carriage return may be gone or an empty line have come, and neither an entry nor a remark
depends on that. -/
theorem load_join (l : ActionList) :
    (∀ text other : String, ∃ n n' : ℕ, (l.load text).2 = .ok n ∧
      ((l.load text).1.load other).2 = .ok n' ∧
      l.load (text ++ "\n" ++ other) = (((l.load text).1.load other).1, .ok (n + n'))) ∧
    (∀ (files : Files) (paths texts : List String),
      List.Forall₂ (fun path text => files path = some text) paths texts →
        ∃ m n, l.loadFiles files paths = (m, .ok n) ∧
          l.load ("\n".intercalate texts) = (m, .ok n)) ∧
    (∀ (other : ActionList) (text text' : String),
      (∃ n, (l.loadStrict (text ++ "\n" ++ text')).2 = .ok n) ↔
        (∃ n, (l.loadStrict text).2 = .ok n) ∧ ∃ n, (other.loadStrict text').2 = .ok n) ∧
    ∀ (other : ActionList) (text text' : String) (fault : Fault),
      (∃ n, (l.loadStrict text).2 = .ok n) → (other.loadStrict text').2 = .error fault →
        ∃ number line, fault = .invalidActionLine number line ∧
          (l.loadStrict (text ++ "\n" ++ text')).2 =
            .error (.invalidActionLine (number + 1 + text.toList.count '\n') line) := by
  refine ⟨fun text other => ?_, fun files paths texts h => ?_, fun other text text' => ?_,
    fun other text text' fault hfirst hsecond => ?_⟩
  · refine ⟨(writtenIn text).length, (writtenIn other).length, by rw [load_eq], by rw [load_eq], ?_⟩
    simp only [load_eq, extend_extend]
    rw [ActionEntry.writtenIn_join, List.length_append]
  · have hload := load_eq l ("\n".intercalate texts)
    exact ⟨_, _, (loadFiles_eq_load h l).trans hload, hload⟩
  · rw [exists_loadStrict_eq_ok_iff, exists_loadStrict_eq_ok_iff, exists_loadStrict_eq_ok_iff,
      ActionLine.firstMalformed?_join_eq_none_iff]
  · have hnone := exists_loadStrict_eq_ok_iff.1 hfirst
    obtain ⟨n, hn, rfl⟩ := loadStrict_eq_error_iff.1 hsecond
    refine ⟨n.number, String.ofList n.line, rfl, loadStrict_eq_error_iff.2
      ⟨n.down (text.toList.count '\n' + 1), ?_, ?_⟩⟩
    · rw [ActionLine.firstMalformed?_join hnone, hn]
      rfl
    · have hnumber : n.number + 1 + text.toList.count '\n' =
          n.number + (text.toList.count '\n' + 1) := by omega
      rw [hnumber]
      rfl

/-- The text of a list of raw data to keep, in two lines of which the second ends in a carriage
return and a newline. -/
def keptText : String := "# for good\nKeep * /*/*/RAW\r\n"

/-- A file that is loaded twice is loaded as its text with a newline and the text again. A line that
is the second of a text is complained about as the fifth behind two lines and an empty one. -/
theorem load_join_of_two_lines :
    List.Forall₂ (fun path text => keptFiles path = some text) ["kept.list", "kept.list"]
      [keptText, keptText] ∧
    (∃ m n, (named "kept").loadFiles keptFiles ["kept.list", "kept.list"] = (m, .ok n) ∧
      (named "kept").load ("\n".intercalate [keptText, keptText]) = (m, .ok n)) ∧
    (∃ n, ((named "kept").loadStrict keptText).2 = .ok n) ∧
    ((named "kept").loadStrict "\nKeep T2 /bad\n").2 =
      .error (.invalidActionLine 2 "Keep T2 /bad") ∧
    ((named "kept").loadStrict (keptText ++ "\n" ++ "\nKeep T2 /bad\n")).2 =
      .error (.invalidActionLine 5 "Keep T2 /bad") := by
  obtain ⟨-, hfiles, -, hstrict⟩ := load_join (named "kept")
  have hpaths : List.Forall₂ (fun path text => keptFiles path = some text)
      ["kept.list", "kept.list"] [keptText, keptText] := .cons rfl (.cons rfl .nil)
  have hfirst : ∃ n, ((named "kept").loadStrict keptText).2 = .ok n :=
    exists_loadStrict_eq_ok_iff.2 (by decide +kernel)
  have hsecond : ((named "kept").loadStrict "\nKeep T2 /bad\n").2 =
      .error (.invalidActionLine 2 "Keep T2 /bad") :=
    loadStrict_eq_error_iff.2 ⟨⟨2, "Keep T2 /bad".toList⟩, by decide +kernel, rfl⟩
  obtain ⟨number, line, hfault, hwhole⟩ :=
    hstrict (named "kept") keptText "\nKeep T2 /bad\n" _ hfirst hsecond
  obtain ⟨rfl, rfl⟩ := Fault.invalidActionLine.inj hfault
  exact ⟨hpaths, hfiles keptFiles _ _ hpaths, hfirst, hsecond, hwhole⟩

end ActionList

end ReplicaPolicy
