import ReplicaPolicy.ActionList.Basic
import ReplicaPolicy.Proofs.Glob.Plain
import ReplicaPolicy.Proofs.Results
import ReplicaPolicy.Proofs.Text.Words

set_option relaxedAutoImplicit false
set_option autoImplicit false

/-!
# What a line of an action list writes

A line writes an entry if its first three words make one. The globs of such an entry have no
brackets, so that it can be added to a list, and keeps its globs as they are written.

## Main definitions

* `ReplicaPolicy.ActionLine.IsEntry` — the grammar of entries.
* `ReplicaPolicy.ActionLine.IsReadFrom` — an entry and a line whose first three words it makes.
* `ReplicaPolicy.ActionLine.IsWellFormed` — an entry that can be compiled.

## Main results

* `ReplicaPolicy.Text.isBlank_of_isWord` — word characters are no blanks.
* `ReplicaPolicy.ActionLine.ofLine?_eq_some_iff` — lines are read by their first three words.
* `ReplicaPolicy.ActionLine.isWellFormed_of_ofLine?` — lines write well-formed entries.
* `ReplicaPolicy.ActionLine.IsWellFormed.exists_compile` — well-formed entries compile.
-/

namespace ReplicaPolicy

/-! ## Characters -/

namespace Text

/-- The code points of the blanks. -/
def blankCodes : List Nat :=
  [9, 10, 11, 12, 13, 0x20, 0x85, 0xA0, 0x1680, 0x2000, 0x2001, 0x2002, 0x2003, 0x2004, 0x2005,
    0x2006, 0x2007, 0x2008, 0x2009, 0x200A, 0x2028, 0x2029, 0x202F, 0x205F, 0x3000]

/-- The blanks are these. -/
lemma toNat_mem_blankCodes {c : Char} (h : isBlank c = true) : c.toNat ∈ blankCodes := by
  simp only [isBlank, Bool.or_eq_true, Bool.and_eq_true, decide_eq_true_eq, beq_iff_eq] at h
  simp only [blankCodes, List.mem_cons, List.not_mem_nil, or_false]
  omega

/-- **Word characters are no blanks.** -/
theorem isBlank_of_isWord {c : Char} (h : isWord c = true) : isBlank c = false := by
  have hnone : ∀ n ∈ blankCodes, isWord (Char.ofNat n) = false := by decide +kernel
  by_contra hblank
  have hword := hnone c.toNat (toNat_mem_blankCodes (by simpa using hblank))
  rw [Char.ofNat_toNat] at hword
  exact absurd (h.symm.trans hword) (by decide)

end Text

namespace ActionLine

/-- A character of a glob: no blank and no bracket. -/
def IsGlobChar (c : Char) : Prop :=
  Text.isBlank c = false ∧ c ≠ '['

/-- Word characters can stand in a glob. -/
lemma isGlobChar_of_isWord {c : Char} (h : Text.isWord c = true) : IsGlobChar c := by
  refine ⟨Text.isBlank_of_isWord h, ?_⟩
  rintro rfl
  exact absurd h (by decide)

/-- The characters of a glob of sites can stand in a glob. -/
lemma isGlobChar_of_isSiteChar {c : Char} (h : isSiteChar c = true) : IsGlobChar c := by
  simp only [isSiteChar, Bool.or_eq_true, beq_iff_eq] at h
  rcases h with (h | rfl) | rfl
  · exact isGlobChar_of_isWord (Text.isWord_of_isAlphanum h)
  · exact ⟨by decide, by decide⟩
  · exact ⟨by decide, by decide⟩

/-- The characters of a glob of datasets can stand in a glob. -/
lemma isGlobChar_of_isDatasetChar {c : Char} (h : isDatasetChar c = true) : IsGlobChar c := by
  simp only [isDatasetChar, Bool.or_eq_true, beq_iff_eq] at h
  rcases h with (h | rfl) | rfl
  · exact isGlobChar_of_isWord h
  · exact ⟨by decide, by decide⟩
  · exact ⟨by decide, by decide⟩

/-! ## Parts of a line -/

/-- A text of marked characters that is not empty. -/
def IsRun (marked : Char → Bool) (cs : List Char) : Prop :=
  cs ≠ [] ∧ ∀ c ∈ cs, marked c = true

/-- A glob of datasets as a line has it: three parts, each after a slash. -/
def IsDataset (cs : List Char) : Prop :=
  ∃ first second third, cs = '/' :: first ++ '/' :: second ++ '/' :: third ∧
    IsRun isDatasetChar first ∧ IsRun isDatasetChar second ∧ IsRun isDatasetChar third

/-- A run of characters that are no blanks is one word. -/
lemma IsRun.isUnbroken {marked : Char → Bool} {cs : List Char} (h : IsRun marked cs)
    (hmarked : ∀ {c}, marked c = true → Text.isBlank c = false) : Text.IsUnbroken cs :=
  ⟨h.1, fun c hc => hmarked (h.2 c hc)⟩

/-- A glob of datasets starts with a slash. -/
lemma IsDataset.head? {cs : List Char} (h : IsDataset cs) : cs.head? = some '/' := by
  obtain ⟨first, second, third, rfl, -⟩ := h
  rfl

/-- A glob of datasets has characters of globs. -/
lemma IsDataset.isGlobChar {cs : List Char} (h : IsDataset cs) : ∀ c ∈ cs, IsGlobChar c := by
  obtain ⟨first, second, third, rfl, hfirst, hsecond, hthird⟩ := h
  have hpart : ∀ {run}, IsRun isDatasetChar run → ∀ c ∈ '/' :: run, IsGlobChar c := fun hrun =>
    List.forall_mem_cons.2 ⟨⟨by decide, by decide⟩, fun c hc =>
      isGlobChar_of_isDatasetChar (hrun.2 c hc)⟩
  simp only [List.forall_mem_append]
  exact ⟨⟨hpart hfirst, hpart hsecond⟩, hpart hthird⟩

/-- A run is taken off a text as far as it goes. -/
lemma takeRun?_eq_some_iff {marked : Char → Bool} {cs run rest : List Char} :
    takeRun? marked cs = some (run, rest) ↔
      cs = run ++ rest ∧ IsRun marked run ∧ Text.Stops marked rest := by
  unfold takeRun?
  dsimp only
  constructor
  · intro h
    obtain ⟨hne, h⟩ := Option.ite_none_left_eq_some.1 h
    obtain ⟨rfl, rfl⟩ := Prod.mk.inj (Option.some.inj h)
    exact ⟨List.takeWhile_append_dropWhile.symm,
      ⟨by simpa using hne, fun c hc => List.mem_takeWhile_imp hc⟩, Text.stops_dropWhile marked cs⟩
  · rintro ⟨rfl, ⟨hne, hrun⟩, hstops⟩
    rw [Text.takeWhile_of_stops hrun hstops, Text.dropWhile_of_stops hrun hstops, if_neg]
    simpa using hne

/-- A word for an action is taken off a text. -/
lemma takeAction?_eq_some_iff {cs action rest : List Char} :
    takeAction? cs = some (action, rest) ↔
      (action = "Keep".toList ∨ action = "Delete".toList) ∧ cs = action ++ rest := by
  constructor
  · intro h
    unfold takeAction? at h
    split at h
    · obtain ⟨rfl, rfl⟩ := Prod.mk.inj (Option.some.inj h)
      exact ⟨.inl rfl, rfl⟩
    · obtain ⟨rfl, rfl⟩ := Prod.mk.inj (Option.some.inj h)
      exact ⟨.inr rfl, rfl⟩
    · exact absurd h (by simp)
  · rintro ⟨rfl | rfl, rfl⟩ <;> rfl

/-- Blanks are passed over, at least one. -/
lemma afterBlanks?_eq_some_iff {cs rest : List Char} :
    afterBlanks? cs = some rest ↔
      ∃ blanks, cs = blanks ++ rest ∧ IsRun Text.isBlank blanks ∧ Text.Stops Text.isBlank rest := by
  simp only [afterBlanks?, Option.map_eq_some_iff, Prod.exists, takeRun?_eq_some_iff]
  constructor
  · rintro ⟨blanks, _, h, rfl⟩
    exact ⟨blanks, h⟩
  · rintro ⟨blanks, h⟩
    exact ⟨blanks, rest, h, rfl⟩

/-- A part of a glob of datasets is taken off a text. -/
lemma takePart?_eq_some_iff {cs part rest : List Char} :
    takePart? cs = some (part, rest) ↔
      ∃ run, part = '/' :: run ∧ cs = part ++ rest ∧ IsRun isDatasetChar run ∧
        Text.Stops isDatasetChar rest := by
  constructor
  · intro h
    unfold takePart? at h
    split at h
    · obtain ⟨⟨run, _⟩, hrun, hpart⟩ := Option.map_eq_some_iff.1 h
      obtain ⟨rfl, rfl⟩ := Prod.mk.inj hpart
      obtain ⟨rfl, hmaximal⟩ := takeRun?_eq_some_iff.1 hrun
      exact ⟨run, rfl, rfl, hmaximal⟩
    · exact absurd h (by simp)
  · rintro ⟨run, rfl, rfl, hrun⟩
    exact Option.map_eq_some_iff.2 ⟨(run, rest), takeRun?_eq_some_iff.2 ⟨rfl, hrun⟩, rfl⟩

/-- A glob of datasets is taken off a text: its parts end at the slashes. -/
lemma takeDataset?_eq_some_iff {cs dataset rest : List Char} :
    takeDataset? cs = some (dataset, rest) ↔
      cs = dataset ++ rest ∧ IsDataset dataset ∧ Text.Stops isDatasetChar rest := by
  have hslash : ∀ cs, Text.Stops isDatasetChar ('/' :: cs) := by
    rintro cs c hc
    obtain rfl := Option.some.inj hc
    decide
  simp only [takeDataset?, Option.bind_eq_bind, Option.bind_eq_some_iff, Prod.exists,
    takePart?_eq_some_iff]
  constructor
  · rintro ⟨_, _, ⟨first, rfl, rfl, hfirst, -⟩, _, _, ⟨second, rfl, rfl, hsecond, -⟩, _, _,
      ⟨third, rfl, rfl, hthird, hstops⟩, h⟩
    obtain ⟨rfl, rfl⟩ := Prod.mk.inj (Option.some.inj h)
    exact ⟨by simp, ⟨first, second, third, rfl, hfirst, hsecond, hthird⟩, hstops⟩
  · rintro ⟨rfl, ⟨first, second, third, rfl, hfirst, hsecond, hthird⟩, hstops⟩
    exact ⟨_, _, ⟨first, rfl, by simp, hfirst, hslash _⟩,
      _, _, ⟨second, rfl, rfl, hsecond, hslash _⟩, _, _, ⟨third, rfl, rfl, hthird, hstops⟩, rfl⟩

/-- A blank follows, or nothing does. -/
lemma atEnd_iff {cs : List Char} : atEnd cs = true ↔ Text.Stops (fun c => !Text.isBlank c) cs := by
  rw [atEnd, Text.Stops]
  cases cs <;> simp

/-! ## Lines -/

/-- An entry as a line can have it. -/
structure IsEntry (line : ActionLine) : Prop where
  /-- The word for the action is one of two. -/
  action : line.action = "Keep" ∨ line.action = "Delete"
  /-- The glob of sites has its characters. -/
  site : IsRun isSiteChar line.site.toList
  /-- The glob of datasets has three parts. -/
  dataset : IsDataset line.dataset.toList

/-- The first three words of a line are those of an entry. What comes after them does not count. -/
def IsReadFrom (entry : ActionLine) (line : List Char) : Prop :=
  entry.IsEntry ∧ ∃ others, Text.words line =
    entry.action.toList :: entry.site.toList :: entry.dataset.toList :: others

namespace IsEntry

variable {line : ActionLine}

/-- The action is one word. -/
lemma isUnbroken_action (h : line.IsEntry) : Text.IsUnbroken line.action.toList := by
  rcases h.action with h | h <;> rw [h] <;> decide

/-- The glob of sites is one word. -/
lemma isUnbroken_site (h : line.IsEntry) : Text.IsUnbroken line.site.toList :=
  h.site.isUnbroken fun hc => (isGlobChar_of_isSiteChar hc).1

/-- The glob of datasets is one word. -/
lemma isUnbroken_dataset (h : line.IsEntry) : Text.IsUnbroken line.dataset.toList := by
  refine ⟨?_, fun c hc => (h.dataset.isGlobChar c hc).1⟩
  intro hnil
  exact absurd (hnil ▸ h.dataset.head?) (by simp)

end IsEntry

/-- A run of other characters ends at a blank or with the text. -/
lemma stops_of_stops_word {marked : Char → Bool}
    (hmarked : ∀ {c}, marked c = true → Text.isBlank c = false) {rest : List Char}
    (h : Text.Stops (fun c => !Text.isBlank c) rest) : Text.Stops marked rest := by
  intro c hc
  have hblank : (!Text.isBlank c) = false := h c hc
  by_contra hm
  simp [hmarked (by simpa using hm)] at hblank

/-- A word goes no further than to a blank. -/
lemma stops_blanks_append {blanks rest : List Char} (h : IsRun Text.isBlank blanks) :
    Text.Stops (fun c => !Text.isBlank c) (blanks ++ rest) := by
  obtain ⟨c, blanks, rfl⟩ := List.exists_cons_of_ne_nil h.1
  intro d hd
  obtain rfl := Option.some.inj hd
  simpa using h.2 c List.mem_cons_self

/-- Blanks go no further than to a word. -/
lemma stops_word_append {word rest : List Char} (h : Text.IsUnbroken word) :
    Text.Stops Text.isBlank (word ++ rest) := by
  obtain ⟨c, word, rfl⟩ := List.exists_cons_of_ne_nil h.1
  intro d hd
  obtain rfl := Option.some.inj hd
  exact h.2 c List.mem_cons_self

/-- A word after the end of another one comes after blanks. -/
lemma exists_blanks_of_words {cs word : List Char} {others : List (List Char)}
    (h : Text.words cs = word :: others) (hstops : Text.Stops (fun c => !Text.isBlank c) cs) :
    ∃ blanks rest, cs = blanks ++ (word ++ rest) ∧ IsRun Text.isBlank blanks ∧
      Text.Stops (fun c => !Text.isBlank c) rest ∧ Text.words rest = others := by
  obtain ⟨blanks, rest, rfl, hblanks, hword, hrest⟩ := Text.words_eq_cons_iff.1 h
  refine ⟨blanks, rest, rfl, ⟨?_, hblanks⟩, hrest⟩
  rintro rfl
  obtain ⟨c, word, rfl⟩ := List.exists_cons_of_ne_nil hword.1
  have hblank : (!Text.isBlank c) = false := hstops c rfl
  simp [hword.2 c List.mem_cons_self] at hblank

/-- Three words with blanks between them are the first words of a text. -/
lemma words_of_parts {action site dataset blanks blanks' rest : List Char}
    (haction : Text.IsUnbroken action) (hblanks : IsRun Text.isBlank blanks)
    (hsite : Text.IsUnbroken site) (hblanks' : IsRun Text.isBlank blanks')
    (hdataset : Text.IsUnbroken dataset) (hend : Text.Stops (fun c => !Text.isBlank c) rest) :
    Text.words (action ++ (blanks ++ (site ++ (blanks' ++ (dataset ++ rest))))) =
      action :: site :: dataset :: Text.words rest := by
  rw [Text.words_append_of_isUnbroken haction (stops_blanks_append hblanks),
    Text.words_blanks_append hblanks.2,
    Text.words_append_of_isUnbroken hsite (stops_blanks_append hblanks'),
    Text.words_blanks_append hblanks'.2, Text.words_append_of_isUnbroken hdataset hend]

/-- The first three words of a line are those of an entry if the line, without the blanks at its
ends, starts with its parts, with blanks between them. -/
lemma isReadFrom_iff {line : List Char} {entry : ActionLine} :
    entry.IsReadFrom line ↔ entry.IsEntry ∧ ∃ blanks blanks' rest,
      Text.trim line = entry.action.toList ++ (blanks ++ (entry.site.toList ++
        (blanks' ++ (entry.dataset.toList ++ rest)))) ∧
      IsRun Text.isBlank blanks ∧ IsRun Text.isBlank blanks' ∧
      Text.Stops (fun c => !Text.isBlank c) rest := by
  rw [IsReadFrom, ← Text.words_trim line]
  refine and_congr_right fun hentry => ⟨?_, ?_⟩
  · rintro ⟨others, hwords⟩
    obtain ⟨rest, hline, haction, hwords⟩ := Text.exists_rest_of_words_trim hwords
    obtain ⟨blanks, rest, rfl, hblanks, hsite, hwords⟩ := exists_blanks_of_words hwords haction
    obtain ⟨blanks', rest, rfl, hblanks', hdataset, -⟩ := exists_blanks_of_words hwords hsite
    exact ⟨blanks, blanks', rest, hline, hblanks, hblanks', hdataset⟩
  · rintro ⟨blanks, blanks', rest, hline, hblanks, hblanks', hend⟩
    refine ⟨Text.words rest, ?_⟩
    rw [hline, words_of_parts hentry.isUnbroken_action hblanks hentry.isUnbroken_site hblanks'
      hentry.isUnbroken_dataset hend]

/-- **The entry that a line writes is the one that its first three words make.**

**Proof sketch.** The parts of an entry are taken off a line one after the other, each as far as it
goes. None of them has blanks, and blanks are asked for after each, so that it goes as far as the
word. -/
theorem ofLine?_eq_some_iff {line : List Char} {entry : ActionLine} :
    ofLine? line = some entry ↔ entry.IsReadFrom line := by
  rw [isReadFrom_iff]
  simp only [ofLine?, Option.bind_eq_bind, Option.bind_eq_some_iff, Prod.exists,
    takeAction?_eq_some_iff, afterBlanks?_eq_some_iff, takeRun?_eq_some_iff,
    takeDataset?_eq_some_iff]
  constructor
  · rintro ⟨action, _, ⟨haction, hline⟩, _, ⟨blanks, rfl, hblanks, -⟩, site, _, ⟨rfl, hsite, -⟩, _,
      ⟨blanks', rfl, hblanks', -⟩, dataset, rest, ⟨rfl, hdataset, -⟩, h⟩
    obtain ⟨hend, h⟩ := Option.ite_none_right_eq_some.1 h
    obtain rfl := Option.some.inj h
    refine ⟨⟨haction.imp (fun h => ?_) (fun h => ?_), ?_, ?_⟩, blanks, blanks', rest, ?_, hblanks,
      hblanks', atEnd_iff.1 hend⟩
    · rw [h, String.ofList_toList]
    · rw [h, String.ofList_toList]
    · rwa [String.toList_ofList]
    · rwa [String.toList_ofList]
    · simpa only [String.toList_ofList] using hline
  · rintro ⟨hentry, blanks, blanks', rest, hline, hblanks, hblanks', hend⟩
    have hsite : Text.Stops isSiteChar (blanks' ++ (entry.dataset.toList ++ rest)) :=
      stops_of_stops_word (fun hc => (isGlobChar_of_isSiteChar hc).1) (stops_blanks_append hblanks')
    have hdataset : Text.Stops isDatasetChar rest :=
      stops_of_stops_word (fun hc => (isGlobChar_of_isDatasetChar hc).1) hend
    refine ⟨entry.action.toList, _, ⟨?_, hline⟩,
      _, ⟨blanks, rfl, hblanks, stops_word_append hentry.isUnbroken_site⟩,
      entry.site.toList, _, ⟨rfl, hentry.site, hsite⟩,
      _, ⟨blanks', rfl, hblanks', stops_word_append hentry.isUnbroken_dataset⟩,
      entry.dataset.toList, rest, ⟨rfl, hentry.dataset, hdataset⟩, ?_⟩
    · exact hentry.action.imp (congrArg String.toList) (congrArg String.toList)
    · rw [if_pos (atEnd_iff.2 hend)]
      simp only [String.ofList_toList]

/-! ## Well-formed entries -/

/-- An entry as it can be compiled: both globs are words without brackets, and that of datasets
starts with a slash. -/
structure IsWellFormed (line : ActionLine) : Prop where
  /-- The glob of sites is not empty. -/
  site_ne_nil : line.site.toList ≠ []
  /-- It has characters of globs. -/
  site : ∀ c ∈ line.site.toList, IsGlobChar c
  /-- The glob of datasets starts with a slash. -/
  slash : line.dataset.toList.head? = some '/'
  /-- It has characters of globs. -/
  dataset : ∀ c ∈ line.dataset.toList, IsGlobChar c

/-- **Lines write well-formed entries.** -/
theorem isWellFormed_of_ofLine? {cs : List Char} {line : ActionLine}
    (h : ofLine? cs = some line) : line.IsWellFormed := by
  obtain ⟨hentry, -⟩ := ofLine?_eq_some_iff.1 h
  exact ⟨hentry.site.1, fun c hc => isGlobChar_of_isSiteChar (hentry.site.2 c hc),
    hentry.dataset.head?, hentry.dataset.isGlobChar⟩

namespace IsWellFormed

variable {line : ActionLine}

/-- The glob of datasets is none of the words without a slash. -/
lemma dataset_ne (h : line.IsWellFormed) {word : List Char} (hword : word.head? ≠ some '/') :
    line.dataset.toList ≠ word := by
  rintro rfl
  exact hword h.slash

/-- The glob of sites is a word. -/
lemma isUnbroken_site (h : line.IsWellFormed) : Text.IsUnbroken line.site.toList :=
  ⟨h.site_ne_nil, fun c hc => (h.site c hc).1⟩

/-- The glob of datasets is a word. -/
lemma isUnbroken_dataset (h : line.IsWellFormed) : Text.IsUnbroken line.dataset.toList :=
  ⟨h.dataset_ne (by simp), fun c hc => (h.dataset c hc).1⟩

/-- **Well-formed entries compile**, and keep their globs as written. -/
theorem exists_compile (h : line.IsWellFormed) :
    ∃ e, ActionEntry.compile line = .ok e ∧ Glob.compile line.site = .ok e.site ∧
      Glob.compile line.dataset = .ok e.dataset := by
  have hsite := Glob.compile_of_no_bracket fun hm => (h.site '[' hm).2 rfl
  have hdataset := Glob.compile_of_no_bracket fun hm => (h.dataset '[' hm).2 rfl
  refine ⟨⟨ActionEntry.decisionOf line.action, _, _, line.action, rfl⟩, ?_, hsite, hdataset⟩
  rw [ActionEntry.compile, hsite, hdataset]
  rfl

end IsWellFormed

end ActionLine

end ReplicaPolicy
