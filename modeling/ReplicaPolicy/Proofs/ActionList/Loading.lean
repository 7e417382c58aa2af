import ReplicaPolicy.Proofs.ActionList.Line
import ReplicaPolicy.Proofs.Text.Lines

set_option relaxedAutoImplicit false
set_option autoImplicit false

/-!
# Lists that are loaded from texts

A list that is loaded from a text has the entries that the lines of the text write at its end, and
loading ends without complaint: what a line writes always compiles. So what a text adds to a list
does not depend on the list.

## Main definitions

* `ReplicaPolicy.ActionEntry.writtenIn` — the entries that a text writes.
* `ReplicaPolicy.ActionList.extend` — a list with some more entries.
* `ReplicaPolicy.ActionList.PassesOver` — lines that add nothing.

## Main results

* `ReplicaPolicy.ActionEntry.compile_eq_ok_iff` — what an entry is compiled to.
* `ReplicaPolicy.ActionEntry.forall₂_writtenIn` — the lines of a text are compiled one for one.
* `ReplicaPolicy.ActionList.load_eq` — what loading a text does.
* `ReplicaPolicy.ActionList.load_eq_growFrom` — a text is loaded line by line.
* `ReplicaPolicy.ActionList.passesOver_iff` — the lines that write no entry add nothing.
* `ReplicaPolicy.ActionList.load_line` — what loading a single line does.
-/

namespace ReplicaPolicy

/-! ## Entries -/

namespace ActionEntry

/-- An entry is compiled glob by glob. Its decision is that of its word. -/
lemma compile_eq_ok_iff {line : ActionLine} {e : ActionEntry} :
    compile line = .ok e ↔
      Glob.compile line.site = .ok e.site ∧ Glob.compile line.dataset = .ok e.dataset ∧
        line.action = e.action := by
  obtain ⟨decision, site, dataset, action, rfl⟩ := e
  simp only [compile, except_bind_eq_ok_iff]
  constructor
  · rintro ⟨site', hsite, dataset', hdataset, h⟩
    obtain ⟨-, rfl, rfl, rfl⟩ := ActionEntry.mk.inj (Except.ok.inj h)
    exact ⟨hsite, hdataset, rfl⟩
  · rintro ⟨hsite, hdataset, rfl⟩
    exact ⟨site, hsite, dataset, hdataset, rfl⟩

/-- The entries that a text writes. -/
def writtenIn (text : String) : List ActionEntry :=
  (ActionLine.permissive text).filterMap fun line => (compile line).toOption

/-- Well-formed lines are compiled one for one. -/
lemma forall₂_filterMap_compile {lines : List ActionLine} (h : ∀ line ∈ lines, line.IsWellFormed) :
    List.Forall₂ (fun line e => line.IsWellFormed ∧ compile line = .ok e) lines
      (lines.filterMap fun line => (compile line).toOption) := by
  induction lines with
  | nil => exact .nil
  | cons line lines ih =>
    have hline := h line List.mem_cons_self
    obtain ⟨e, he, -⟩ := hline.exists_compile
    simp only [List.filterMap_cons, except_toOption_eq_some_iff.2 he]
    exact .cons ⟨hline, he⟩ (ih fun other hother => h other (List.mem_cons_of_mem line hother))

/-- **The lines of a text are compiled one for one.** -/
theorem forall₂_writtenIn (text : String) :
    List.Forall₂ (fun line e => line.IsWellFormed ∧ compile line = .ok e)
      (ActionLine.permissive text) (writtenIn text) := by
  refine forall₂_filterMap_compile fun line hline => ?_
  obtain ⟨cs, -, hcs⟩ := List.mem_filterMap.1 hline
  exact ActionLine.isWellFormed_of_ofLine? hcs

end ActionEntry

/-! ## Lists -/

namespace ActionList

open ActionEntry (writtenIn)

/-- The list with some more entries at its end. -/
def extend (l : ActionList) (es : List ActionEntry) : ActionList :=
  { l with entries := l.entries ++ es }

@[simp]
lemma extend_nil (l : ActionList) : l.extend [] = l := by
  simp [extend]

@[simp]
lemma extend_extend (l : ActionList) (es es' : List ActionEntry) :
    (l.extend es).extend es' = l.extend (es ++ es') := by
  simp [extend]

/-- Entries that compile are all added. -/
lemma addFrom_of_compile {lines : List ActionLine} {es : List ActionEntry}
    (h : List.Forall₂ (fun line e => ActionEntry.compile line = .ok e) lines es) (l : ActionList)
    (added : ℕ) :
    l.addFrom added lines = (l.extend es, .ok (added + es.length)) := by
  induction h generalizing l added with
  | nil => simp [addFrom]
  | @cons line e lines es he _ ih =>
    have hadd : l.add line = .ok (l.extend [e]) := by
      rw [add, he]
      rfl
    rw [addFrom, hadd]
    dsimp only
    rw [ih]
    simp [Nat.add_assoc, Nat.add_comm 1]

/-- **Loading a text adds the entries that it writes**, and ends without complaint. -/
theorem load_eq (l : ActionList) (text : String) :
    l.load text = (l.extend (writtenIn text), .ok (writtenIn text).length) := by
  have hcompile := (ActionEntry.forall₂_writtenIn text).imp fun _ _ h => h.2
  rw [load, addFrom_of_compile hcompile, Nat.zero_add]

/-! ## Lines -/

/-- A single line writes the entry that is read from it. -/
lemma permissive_of_line {line : String} (h : '\n' ∉ line.toList) :
    ActionLine.permissive line = (ActionLine.ofLine? line.toList).toList := by
  have hsplit : Text.splitWith (· == '\n') line.toList = [line.toList] :=
    Text.splitWith_of_forall fun c hc => by simpa using ne_of_mem_of_not_mem hc h
  rw [ActionLine.permissive, Text.lines, hsplit]
  cases line.toList with
  | nil => rfl
  | cons c cs => cases ho : ActionLine.ofLine? (c :: cs) <;> simp [ho]

/-- A text writes what its lines write, each by itself. -/
lemma writtenIn_eq_flatMap (text : String) :
    writtenIn text = ((Text.lines text.toList).map String.ofList).flatMap writtenIn := by
  rw [writtenIn, ActionLine.permissive, List.filterMap_eq_flatMap_toList ActionLine.ofLine?,
    List.filterMap_flatMap, List.flatMap_map]
  refine List.flatMap_congr fun line hline => ?_
  have hnewline : '\n' ∉ (String.ofList line).toList := by
    rw [String.toList_ofList]
    exact Text.newline_notMem_of_mem_lines hline
  rw [writtenIn, permissive_of_line hnewline, String.toList_ofList]

/-- Loading some texts one after the other adds the entries of all. -/
lemma growFrom_load (texts : List String) (l : ActionList) (added : ℕ) :
    growFrom load l added texts =
      (l.extend (texts.flatMap writtenIn), .ok (added + (texts.flatMap writtenIn).length)) := by
  induction texts generalizing l added with
  | nil => simp [growFrom]
  | cons text texts ih =>
    rw [growFrom, load_eq]
    dsimp only
    rw [ih, extend_extend, List.flatMap_cons, List.length_append, Nat.add_assoc]

/-- **A text is loaded line by line**, each line as it is loaded by itself. -/
theorem load_eq_growFrom (l : ActionList) (text : String) :
    l.load text = growFrom load l 0 ((Text.lines text.toList).map String.ofList) := by
  rw [growFrom_load, ← writtenIn_eq_flatMap, load_eq, Nat.zero_add]

/-- Loading passes over a line that adds nothing to any list by itself. -/
def PassesOver (line : List Char) : Prop :=
  ∀ l : ActionList, l.load (String.ofList line) = (l, .ok 0)

/-- **The lines that write no entry are passed over**, and no others.

**Proof sketch.** What a line writes compiles, so a line that writes an entry adds one. -/
theorem passesOver_iff {line : List Char} (h : '\n' ∉ line) :
    PassesOver line ↔ ActionLine.ofLine? line = none := by
  have hchars : '\n' ∉ (String.ofList line).toList := by rwa [String.toList_ofList]
  have hline : ActionLine.permissive (String.ofList line) = (ActionLine.ofLine? line).toList := by
    rw [permissive_of_line hchars, String.toList_ofList]
  have hcount := (ActionEntry.forall₂_writtenIn (String.ofList line)).length_eq
  rw [hline] at hcount
  constructor
  · intro hpasses
    have hload := hpasses (named defaultName)
    rw [load_eq] at hload
    have hnone : (writtenIn (String.ofList line)).length = 0 := Except.ok.inj (Prod.mk.inj hload).2
    rw [hnone] at hcount
    simpa using hcount
  · intro hnone l
    have hwritten : writtenIn (String.ofList line) = [] := by
      rw [← List.length_eq_zero_iff, ← hcount, hnone]
      rfl
    rw [load_eq, hwritten, extend_nil]
    rfl

/-- A line of which an entry makes the first three words adds this entry. -/
lemma exists_load_of_isReadFrom (l : ActionList) {line : String} (h : '\n' ∉ line.toList)
    {written : ActionLine} (hread : written.IsReadFrom line.toList) :
    ∃ e, l.load line = (l.extend [e], .ok 1) ∧ ActionEntry.compile written = .ok e := by
  have hlines : ActionLine.permissive line = [written] := by
    rw [permissive_of_line h, ActionLine.ofLine?_eq_some_iff.2 hread]
    rfl
  have hwritten := ActionEntry.forall₂_writtenIn line
  rw [hlines, List.forall₂_cons_left_iff] at hwritten
  obtain ⟨e, es, ⟨-, he⟩, hes, hwritten⟩ := hwritten
  obtain rfl := List.forall₂_nil_left_iff.1 hes
  refine ⟨e, ?_, he⟩
  rw [load_eq, hwritten]
  rfl

/-- A line of which no entry makes the first three words adds nothing. -/
lemma load_of_forall_not_isReadFrom (l : ActionList) {line : String} (h : '\n' ∉ line.toList)
    (hnone : ∀ written : ActionLine, ¬ written.IsReadFrom line.toList) :
    l.load line = (l, .ok 0) := by
  have hline : ActionLine.ofLine? line.toList = none := by
    refine Option.eq_none_iff_forall_ne_some.2 fun written hwritten => ?_
    exact hnone written (ActionLine.ofLine?_eq_some_iff.1 hwritten)
  simpa using (passesOver_iff h).2 hline l

/-- **A line is an entry just if its first three words make one.** Loading a line then adds this
entry, with the word for its action, its two globs and the decision of the word, whatever comes
after the three words. Loading any other line adds nothing.

**Proof sketch.** A line is read as its first three words, and what is read from a line compiles. -/
theorem load_line (l : ActionList) {line : String} (h : '\n' ∉ line.toList) :
    ((∃ e, l.load line = (l.extend [e], .ok 1)) ↔
      ∃ written : ActionLine, written.IsReadFrom line.toList) ∧
    (∀ written : ActionLine, written.IsReadFrom line.toList →
      ∃ e, l.load line = (l.extend [e], .ok 1) ∧ e.action = written.action ∧
        Glob.compile written.site = .ok e.site ∧ Glob.compile written.dataset = .ok e.dataset ∧
        (written.action = "Keep" ∧ e.decision = .protect ∨
          written.action = "Delete" ∧ e.decision = .delete)) ∧
    ((∀ written : ActionLine, ¬ written.IsReadFrom line.toList) → l.load line = (l, .ok 0)) := by
  have hskips := load_of_forall_not_isReadFrom l h
  refine ⟨⟨?_, ?_⟩, ?_, hskips⟩
  · rintro ⟨e, hload⟩
    by_contra hnone
    rw [hskips fun written hread => hnone ⟨written, hread⟩] at hload
    exact absurd (Except.ok.inj (Prod.mk.inj hload).2) (by decide)
  · rintro ⟨written, hread⟩
    obtain ⟨e, hload, -⟩ := exists_load_of_isReadFrom l h hread
    exact ⟨e, hload⟩
  · intro written hread
    obtain ⟨e, hload, he⟩ := exists_load_of_isReadFrom l h hread
    obtain ⟨hsite, hdataset, haction⟩ := ActionEntry.compile_eq_ok_iff.1 he
    refine ⟨e, hload, haction.symm, hsite, hdataset, ?_⟩
    rw [ActionEntry.decision_of_compile he]
    exact hread.1.action.imp (fun hkeep => ⟨hkeep, by rw [hkeep]; rfl⟩)
      fun hdelete => ⟨hdelete, by rw [hdelete]; rfl⟩

/-- An entry with a blank in front of it and other words after it is added. A line whose dataset has
a fourth part adds nothing. -/
theorem load_line_with_other_words :
    (∃ e, (named "kept").load " Keep\tT2_CH_*  /*/*/RAW-v1 for good" =
        ((named "kept").extend [e], .ok 1) ∧
      e.action = "Keep" ∧ Glob.compile "T2_CH_*" = .ok e.site ∧
      Glob.compile "/*/*/RAW-v1" = .ok e.dataset ∧ e.decision = .protect) ∧
    (named "kept").load "Keep T2_CH_* /A/B/C/D" = (named "kept", .ok 0) := by
  have hline : '\n' ∉ " Keep\tT2_CH_*  /*/*/RAW-v1 for good".toList := by decide
  have hread : (⟨"Keep", "T2_CH_*", "/*/*/RAW-v1"⟩ : ActionLine).IsReadFrom
      " Keep\tT2_CH_*  /*/*/RAW-v1 for good".toList :=
    ActionLine.ofLine?_eq_some_iff.1 (by decide +kernel)
  have hnone : ∀ written : ActionLine, ¬ written.IsReadFrom "Keep T2_CH_* /A/B/C/D".toList := by
    intro written hwritten
    have hfourth : ActionLine.ofLine? "Keep T2_CH_* /A/B/C/D".toList = none := by decide +kernel
    exact absurd (hfourth.symm.trans (ActionLine.ofLine?_eq_some_iff.2 hwritten)) (by simp)
  obtain ⟨e, hload, haction, hsite, hdataset, hdecision⟩ :=
    (load_line (named "kept") hline).2.1 _ hread
  refine ⟨⟨e, hload, haction, hsite, hdataset, ?_⟩, ?_⟩
  · rcases hdecision with ⟨-, h⟩ | ⟨h, -⟩
    · exact h
    · exact absurd h (by decide)
  · exact (load_line (named "kept") (by decide)).2.2 hnone

end ActionList

end ReplicaPolicy
