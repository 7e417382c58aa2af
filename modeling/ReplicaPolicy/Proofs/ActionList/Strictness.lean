import ReplicaPolicy.Proofs.ActionList.Loading
import ReplicaPolicy.Proofs.Config.Build

set_option relaxedAutoImplicit false
set_option autoImplicit false

/-!
# Strict lists

A strict list refuses a text with a line that is neither an entry nor a remark. Such a line is
malformed. Apart from that, a text is loaded strictly as it is loaded without complaint about such
lines, and so a definition that can be built with strict lists is built into the same stack without.

## Main definitions

* `ReplicaPolicy.ActionLine.isMalformed`, `firstMalformed?` — the lines that a strict list refuses.
* `ReplicaPolicy.StackConfig.withStrict` — a definition with its lists made strict, or not strict.

## Main results

* `ReplicaPolicy.ActionLine.strictFrom_eq` — the first malformed line is complained about.
* `ReplicaPolicy.ActionLine.exists_of_find?_scan` — lines are numbered from one.
* `ReplicaPolicy.ActionList.loadStrict_eq` — a text is loaded strictly as it is loaded.
* `ReplicaPolicy.StackConfig.build_withStrict_false` — strict lists are built as others are.
* `ReplicaPolicy.ActionList.loadStrict_agrees` — all of this.
-/

namespace ReplicaPolicy

/-! ## Lines -/

namespace ActionLine

/-- A line that is neither an entry nor a remark. -/
def isMalformed (line : List Char) : Bool :=
  (ofLine? line).isNone && !isRemark line

/-- A line is not malformed if it is a remark unless it is an entry. -/
lemma isMalformed_eq_false_iff {line : List Char} :
    isMalformed line = false ↔ (ofLine? line = none → isRemark line = true) := by
  rw [isMalformed]
  cases ofLine? line <;> simp

/-- A line is malformed if it is no entry and no remark. -/
lemma isMalformed_iff {line : List Char} :
    isMalformed line = true ↔ ofLine? line = none ∧ isRemark line = false := by
  simp [isMalformed]

/-- A remark is no entry: it has no word for an action. -/
lemma ofLine?_of_isRemark {line : List Char} (h : isRemark line = true) : ofLine? line = none := by
  unfold isRemark at h
  unfold ofLine?
  cases ht : Text.trim line with
  | nil => rfl
  | cons c cs =>
    obtain rfl : c = '#' := by simpa [ht] using h
    rfl

/-- **The first malformed line is complained about**; without one, the entries are those of all
lines.

**Proof sketch.** Induction on the lines. A remark is passed over, and it is no entry. -/
lemma strictFrom_eq (lines : List Numbered) :
    strictFrom lines = match lines.find? (fun n => isMalformed n.line) with
      | some n => .error (.invalidActionLine n.number (String.ofList n.line))
      | none => .ok (lines.filterMap fun n => ofLine? n.line) := by
  induction lines with
  | nil => rfl
  | cons n lines ih =>
    cases hr : isRemark n.line with
    | true =>
      have hnone := ofLine?_of_isRemark hr
      have hwell : isMalformed n.line = false := isMalformed_eq_false_iff.2 fun _ => hr
      rw [strictFrom, if_pos hr, ih, List.find?_cons_of_neg (by simp [hwell])]
      simp only [List.filterMap_cons, hnone]
    | false =>
      rw [strictFrom, if_neg (by simp [hr])]
      cases ho : ofLine? n.line with
      | none =>
        have hmalformed : isMalformed n.line = true := isMalformed_iff.2 ⟨ho, hr⟩
        rw [List.find?_cons_of_pos (by exact hmalformed)]
      | some entry =>
        have hwell : isMalformed n.line = false := isMalformed_eq_false_iff.2 (by simp [ho])
        rw [List.find?_cons_of_neg (by simp [hwell]), ih]
        simp only [List.filterMap_cons, ho]
        cases lines.find? fun n => isMalformed n.line <;> rfl

/-- The lines of a text are gone through. -/
lemma map_line_scan (text : String) :
    (scan text).map Numbered.line = Text.lines text.toList := by
  rw [scan, List.map_map]
  exact List.zipIdx_map_fst 0 _

/-- Each line of a text has its number. -/
lemma getElem?_scan (text : String) (i : ℕ) :
    (scan text)[i]? = (Text.lines text.toList)[i]?.map fun line => ⟨i + 1, line⟩ := by
  rw [scan, List.getElem?_map, List.getElem?_zipIdx, Option.map_map]
  simp [Function.comp_def]

/-- **Lines are numbered from one**: the number of a line that is found is one more than the number
of lines before it. -/
lemma exists_of_find?_scan {text : String} {p : List Char → Bool} {n : Numbered}
    (h : (scan text).find? (fun n => p n.line) = some n) :
    ∃ before after, Text.lines text.toList = before ++ n.line :: after ∧ p n.line = true ∧
      (∀ other ∈ before, p other = false) ∧ n.number = before.length + 1 := by
  obtain ⟨hn, front, back, hscan, hfront⟩ := List.find?_eq_some_iff_append.1 h
  refine ⟨front.map Numbered.line, back.map Numbered.line, ?_, hn, ?_, ?_⟩
  · rw [← map_line_scan, hscan, List.map_append, List.map_cons]
  · intro other hother
    obtain ⟨m, hm, rfl⟩ := List.mem_map.1 hother
    simpa using hfront m hm
  · have hat : (scan text)[front.length]? = some n := by rw [hscan]; simp
    rw [getElem?_scan, Option.map_eq_some_iff] at hat
    obtain ⟨line, -, rfl⟩ := hat
    rw [List.length_map]

/-- The first malformed line of a text. -/
def firstMalformed? (text : String) : Option Numbered :=
  (scan text).find? fun n => isMalformed n.line

/-- There is none if no line is malformed. -/
lemma firstMalformed?_eq_none_iff {text : String} :
    firstMalformed? text = none ↔
      ∀ line ∈ Text.lines text.toList, ofLine? line = none → isRemark line = true := by
  rw [firstMalformed?, List.find?_eq_none, ← map_line_scan]
  simp [isMalformed_eq_false_iff]

end ActionLine

/-! ## Lists -/

namespace ActionList

open ActionLine (firstMalformed?)

/-- No line is malformed if every line that is passed over is a remark. -/
lemma firstMalformed?_eq_none_iff_passesOver {text : String} :
    firstMalformed? text = none ↔
      ∀ line ∈ Text.lines text.toList, PassesOver line → ActionLine.isRemark line = true := by
  rw [ActionLine.firstMalformed?_eq_none_iff]
  refine forall₂_congr fun line hline => ?_
  rw [passesOver_iff (Text.newline_notMem_of_mem_lines hline)]

/-- **A text is loaded strictly as it is loaded**, unless a line is malformed. Then the first such
line is complained about, and nothing is added. -/
lemma loadStrict_eq (l : ActionList) (text : String) :
    l.loadStrict text = match firstMalformed? text with
      | some n => (l, .error (.invalidActionLine n.number (String.ofList n.line)))
      | none => l.load text := by
  have hentries : ((ActionLine.scan text).filterMap fun n => ActionLine.ofLine? n.line) =
      ActionLine.permissive text := by
    rw [ActionLine.permissive, ← ActionLine.map_line_scan, List.filterMap_map]
    rfl
  rw [loadStrict, ActionLine.strict, ActionLine.strictFrom_eq, hentries]
  show _ = match firstMalformed? text with | some _ => _ | none => _
  rw [firstMalformed?]
  cases (ActionLine.scan text).find? fun n => ActionLine.isMalformed n.line <;> rfl

/-- A text that is loaded strictly is loaded. -/
lemma load_of_loadStrict {l m : ActionList} {text : String} {n : ℕ}
    (h : l.loadStrict text = (m, .ok n)) : l.load text = (m, .ok n) := by
  rw [loadStrict_eq] at h
  cases hf : firstMalformed? text with
  | none => simpa only [hf] using h
  | some first =>
    rw [hf] at h
    exact absurd (Prod.mk.inj h).2 (by simp)

/-- Growing by each path as far as another way of growing does gives the same list. -/
lemma growFrom_eq_of_ok {grow grow' : ActionList → String → Grown}
    (h : ∀ l path m n, grow l path = (m, .ok n) → grow' l path = (m, .ok n)) {paths : List String}
    {l m : ActionList} {added n : ℕ} (hgrow : growFrom grow l added paths = (m, .ok n)) :
    growFrom grow' l added paths = (m, .ok n) := by
  induction paths generalizing l added with
  | nil => exact hgrow
  | cons path paths ih =>
    rw [growFrom] at hgrow ⊢
    rcases hp : grow l path with ⟨l', _ | k⟩
    · rw [hp] at hgrow
      exact absurd (Prod.mk.inj hgrow).2 (by simp)
    · rw [hp] at hgrow
      rw [h l path l' k hp]
      exact ih hgrow

/-- A file that is loaded strictly is loaded. -/
lemma loadFile_of_loadFileStrict {files : Files} {l m : ActionList} {path : String} {n : ℕ}
    (h : l.loadFileStrict files path = (m, .ok n)) : l.loadFile files path = (m, .ok n) := by
  rw [loadFileStrict] at h
  rw [loadFile]
  cases hp : files path with
  | none =>
    rw [hp] at h
    exact absurd (Prod.mk.inj h).2 (by simp)
  | some text =>
    rw [hp] at h
    exact load_of_loadStrict h

end ActionList

/-! ## Definitions -/

/-- A rule with its list made strict, or not strict. -/
def RuleConfig.withStrict (strict : Bool) : RuleConfig → RuleConfig
  | .actionList name paths entries _ => .actionList name paths entries strict
  | cfg => cfg

/-- The definition with all its lists made strict, or not strict. -/
def StackConfig.withStrict (strict : Bool) (c : StackConfig) : StackConfig :=
  { c with rules := c.rules.map (RuleConfig.withStrict strict) }

namespace RuleConfig

variable {files : Files} {directory : String} {partition : Option String} {now : Instant}

/-- A rule has the same ages with its list made strict, or not strict. -/
lemma ages_withStrict (strict : Bool) (cfg : RuleConfig) :
    (cfg.withStrict strict).ages = cfg.ages := by
  cases cfg <;> rfl

/-- A list is made from its files first, then from its own entries. -/
lemma buildList_eq_ok_iff {name : Option String} {paths : List String} {entries : List ActionLine}
    {strict : Bool} {m : ActionList} :
    buildList files directory name paths entries strict = .ok m ↔
      ∃ l n, (if strict then ActionList.loadFilesStrict else ActionList.loadFiles) files
          (.named (name.getD ActionList.defaultName)) (paths.map (Path.join directory)) =
            (l, .ok n) ∧
        entries.foldlM ActionList.add l = .ok m := by
  have hgrown : ∀ g : ActionList.Grown,
      (do let _ ← g.2; entries.foldlM ActionList.add g.1 : Except Fault ActionList) = .ok m ↔
        ∃ l n, g = (l, .ok n) ∧ entries.foldlM ActionList.add l = .ok m := by
    rintro ⟨l, _ | n⟩ <;> simp [bind, Except.bind]
  rw [← hgrown]
  cases strict <;> rfl

/-- A list that can be built strictly is built as it is without being strict. -/
lemma buildList_of_strict {name : Option String} {paths : List String} {entries : List ActionLine}
    {strict : Bool} {m : ActionList}
    (h : buildList files directory name paths entries strict = .ok m) :
    buildList files directory name paths entries false = .ok m := by
  cases strict with
  | false => exact h
  | true =>
    obtain ⟨l, n, hload, hentries⟩ := buildList_eq_ok_iff.1 h
    refine buildList_eq_ok_iff.2 ⟨l, n, ?_, hentries⟩
    exact ActionList.growFrom_eq_of_ok (fun _ _ _ _ => ActionList.loadFile_of_loadFileStrict) hload

/-- A rule that can be built is built as it is without its list being strict. -/
lemma build_withStrict_false {cfg : RuleConfig} {r : Rule}
    (h : cfg.build files directory partition now = .ok r) :
    (cfg.withStrict false).build files directory partition now = .ok r := by
  cases cfg with
  | actionList name paths entries strict =>
    obtain ⟨m, hm, rfl⟩ := except_map_eq_ok_iff.1 h
    exact except_map_eq_ok_iff.2 ⟨m, buildList_of_strict hm, rfl⟩
  | _ => exact h

end RuleConfig

namespace StackConfig

/-- **A definition that can be built is built into the same stack without strict lists.** -/
lemma build_withStrict_false {files : Files} {now : Instant} {c : StackConfig} {s : PolicyStack}
    (h : c.build files now = .ok s) : (c.withStrict false).build files now = .ok s := by
  obtain ⟨hcheck, hname, hdefault, hrules⟩ := build_eq_ok_iff.1 h
  obtain ⟨hname', hoccupancy, hages⟩ := check_eq_ok_iff.1 hcheck
  have hcheck' : (c.withStrict false).check = .ok () := by
    refine check_eq_ok_iff.2 ⟨hname', hoccupancy, fun r hr => ?_⟩
    obtain ⟨cfg, hcfg, rfl⟩ := List.mem_map.1 hr
    rw [RuleConfig.ages_withStrict]
    exact hages cfg hcfg
  refine build_eq_ok_iff.2 ⟨hcheck', hname, hdefault, ?_⟩
  exact List.forall₂_map_left_iff.2 (hrules.imp fun _ _ => RuleConfig.build_withStrict_false)

end StackConfig

/-! ## Strict lists and others -/

namespace ActionList

/-- **Strict lists agree with other ones.** Other lists load a text line by line. A text is loaded
strictly without complaint just if every line that they pass over is a remark. Then the list and the
number of its new entries are those of other lists. Otherwise the complaint has the number, counted
from one, and the text of the first line that other lists pass over and that is no remark. So a
definition that can be built, whichever of its lists are strict, is built into the same stack
without any list being strict. -/
theorem loadStrict_agrees (files : Files) (now : Instant) :
    (∀ (l : ActionList) (text : String),
      l.load text = growFrom load l 0 ((Text.lines text.toList).map String.ofList) ∧
      ((∃ n, (l.loadStrict text).2 = .ok n) ↔
        ∀ line ∈ Text.lines text.toList, PassesOver line → ActionLine.isRemark line = true) ∧
      (∀ n, (l.loadStrict text).2 = .ok n → l.loadStrict text = l.load text) ∧
      ∀ fault, (l.loadStrict text).2 = .error fault →
        ∃ before line after, Text.lines text.toList = before ++ line :: after ∧
          (∀ other ∈ before, PassesOver other → ActionLine.isRemark other = true) ∧
          PassesOver line ∧ ActionLine.isRemark line = false ∧
          fault = .invalidActionLine (before.length + 1) (String.ofList line)) ∧
    ∀ (c : StackConfig) (s : PolicyStack), c.build files now = .ok s →
      (c.withStrict false).build files now = .ok s := by
  refine ⟨fun l text => ⟨load_eq_growFrom l text, ?_⟩,
    fun c s => StackConfig.build_withStrict_false⟩
  rw [loadStrict_eq, ← firstMalformed?_eq_none_iff_passesOver]
  cases hf : ActionLine.firstMalformed? text with
  | none =>
    have hload := load_eq l text
    refine ⟨iff_of_true ⟨_, congrArg Prod.snd hload⟩ rfl, fun _ _ => rfl, fun fault hfault => ?_⟩
    exact absurd ((congrArg Prod.snd hload).symm.trans hfault) (by simp)
  | some n =>
    refine ⟨by simp, fun _ hok => absurd hok (by simp), fun fault hfault => ?_⟩
    obtain ⟨before, after, hlines, hmalformed, hbefore, hnumber⟩ :=
      ActionLine.exists_of_find?_scan hf
    have hpasses : ∀ line ∈ before ++ n.line :: after,
        (PassesOver line ↔ ActionLine.ofLine? line = none) := fun line hline =>
      passesOver_iff (Text.newline_notMem_of_mem_lines (hlines ▸ hline))
    obtain ⟨hentry, hremark⟩ := ActionLine.isMalformed_iff.1 hmalformed
    refine ⟨before, n.line, after, hlines, fun other hother hother' => ?_,
      (hpasses n.line (by simp)).2 hentry, hremark, ?_⟩
    · have hnone := (hpasses other (List.mem_append_left _ hother)).1 hother'
      exact ActionLine.isMalformed_eq_false_iff.1 (hbefore other hother) hnone
    · rw [← hnumber]
      exact (Except.error.inj hfault).symm

/-- The files of which only one can be read: a list of raw data to keep. -/
def keptFiles : Files := fun path =>
  if path = "kept.list" then some "# for good\nKeep * /*/*/RAW\r\n" else none

/-- A list with a remark is loaded strictly as it is loaded. Of a text whose fourth line has no glob
of datasets, the fourth line is complained about. A definition with a strict list of a file is built
into the stack that it is built into without being strict. -/
theorem loadStrict_agrees_fourth_line :
    (∃ n, ((named "kept").loadStrict "# for good\nKeep * /*/*/RAW\r\n").2 = .ok n ∧
      (named "kept").loadStrict "# for good\nKeep * /*/*/RAW\r\n" =
        (named "kept").load "# for good\nKeep * /*/*/RAW\r\n") ∧
    (∃ before line after,
      Text.lines "Keep * /*/*/RECO\n\n# comment\nKeep T2 /bad\n".toList = before ++ line :: after ∧
      (∀ other ∈ before, PassesOver other → ActionLine.isRemark other = true) ∧
      PassesOver line ∧ ActionLine.isRemark line = false ∧
      Fault.invalidActionLine 4 "Keep T2 /bad" =
        .invalidActionLine (before.length + 1) (String.ofList line)) ∧
    ∃ s, (StackConfig.ofRules .delete [.actionList none ["kept.list"] [] true]).build keptFiles
        ⟨0, 0⟩ = .ok s ∧
      (StackConfig.ofRules .delete [.actionList none ["kept.list"] [] false]).build keptFiles
        ⟨0, 0⟩ = .ok s := by
  obtain ⟨hlists, hbuilds⟩ := loadStrict_agrees keptFiles ⟨0, 0⟩
  refine ⟨?_, ?_, ?_⟩
  · obtain ⟨-, haccepts, hsame, -⟩ := hlists (named "kept") "# for good\nKeep * /*/*/RAW\r\n"
    have hnone : ActionLine.firstMalformed? "# for good\nKeep * /*/*/RAW\r\n" = none := by
      decide +kernel
    obtain ⟨n, hn⟩ := haccepts.2 (firstMalformed?_eq_none_iff_passesOver.1 hnone)
    exact ⟨n, hn, hsame n hn⟩
  · have hfirst : ActionLine.firstMalformed? "Keep * /*/*/RECO\n\n# comment\nKeep T2 /bad\n" =
        some ⟨4, "Keep T2 /bad".toList⟩ := by decide +kernel
    refine (hlists (named "kept") "Keep * /*/*/RECO\n\n# comment\nKeep T2 /bad\n").2.2.2 _ ?_
    rw [loadStrict_eq, hfirst]
    rfl
  · obtain ⟨s, hs⟩ := exists_of_isOk (x :=
      (StackConfig.ofRules .delete [.actionList none ["kept.list"] [] true]).build keptFiles ⟨0, 0⟩)
      (by decide +kernel)
    exact ⟨s, hs, hbuilds _ s hs⟩

end ActionList

end ReplicaPolicy
