import Mathlib.Data.List.Infix
import Mathlib.Data.List.TakeWhile
import Mathlib.Tactic.Lemma
import ReplicaPolicy.Text.Blank

set_option relaxedAutoImplicit false
set_option autoImplicit false

/-!
# The words of a text

Blanks separate words, and nothing else does. So a text that is written as words with single
spaces between them is read as these words, and a text without words is blank.

## Main definitions

* `ReplicaPolicy.Text.IsUnbroken` — a text that is one word.
* `ReplicaPolicy.Text.IsBlank` — a text of blanks.
* `ReplicaPolicy.Text.Stops` — a run of marked characters goes no further.

## Main results

* `ReplicaPolicy.Text.words_append_cons` — a blank ends one word and starts another.
* `ReplicaPolicy.Text.isUnbroken_of_mem_words` — words are read without blanks.
* `ReplicaPolicy.Text.words_unwords` — words that are written are read again.
* `ReplicaPolicy.Text.words_eq_cons_iff` — the first word of a text stands after blanks, and ends at
  a blank or with the text.
* `ReplicaPolicy.Text.words_trim` — blanks at either end make no difference to the words.
* `ReplicaPolicy.Text.trim_eq_nil_iff` — nothing is left of a text of blanks.
-/

namespace ReplicaPolicy.Text

/-! ## Pieces -/

/-- The first separator of a text cuts it in one way. -/
lemma cut_inj {c : Char} {cs ds : List Char} (hc : c ∉ cs) :
    ∀ {cs' ds' : List Char}, c ∉ cs' → cs ++ c :: ds = cs' ++ c :: ds' → cs = cs' ∧ ds = ds' := by
  induction cs with
  | nil =>
    intro cs' ds' hc' h
    cases cs' with
    | nil => exact ⟨rfl, (List.cons.inj h).2⟩
    | cons d cs' =>
      have hd : c = d := (List.cons.inj h).1
      exact absurd (hd ▸ List.mem_cons_self) hc'
  | cons d cs ih =>
    intro cs' ds' hc' h
    cases cs' with
    | nil =>
      have hd : d = c := (List.cons.inj h).1
      exact absurd (hd ▸ List.mem_cons_self) hc
    | cons e cs' =>
      simp only [List.cons_append, List.cons.injEq] at h
      obtain ⟨rfl, h⟩ := h
      obtain ⟨rfl, rfl⟩ := ih (fun hm => hc (List.mem_cons_of_mem _ hm))
        (fun hm => hc' (List.mem_cons_of_mem _ hm)) h
      exact ⟨rfl, rfl⟩

/-- The last separator of a text cuts it in one way. -/
lemma eq_of_suffix {c : Char} {cs ds text : List Char} (hc : c ∉ cs) (hd : c ∉ ds)
    (hcs : c :: cs <:+ text) (hds : c :: ds <:+ text) : cs = ds := by
  obtain ⟨before, rfl⟩ := hcs
  obtain ⟨before', h⟩ := hds
  have hreverse := congrArg List.reverse h
  simp only [List.reverse_append, List.reverse_cons, List.append_assoc, List.singleton_append]
    at hreverse
  have hcut := cut_inj (by simpa using hd) (by simpa using hc) hreverse
  exact (List.reverse_inj.1 hcut.1).symm

/-- A word that stands somewhere in a text has a first place there: what comes before it, with all
of the word but its last character, does not hold the word.

**Proof sketch.** Induction on the text, by whether the word starts it. -/
lemma exists_first_isInfix {word text : List Char} (hword : word ≠ []) (h : word <:+: text) :
    ∃ before rest, text = before ++ (word ++ rest) ∧ ¬word <:+: before ++ word.dropLast := by
  induction text with
  | nil => exact absurd (List.infix_nil.1 h) hword
  | cons c text ih =>
    by_cases hp : word <+: c :: text
    · obtain ⟨rest, hrest⟩ := hp
      refine ⟨[], rest, hrest.symm, fun hin => ?_⟩
      have hlength := hin.length_le
      have hpos := List.length_pos_of_ne_nil hword
      rw [List.nil_append, List.length_dropLast] at hlength
      omega
    · obtain ⟨before, rest, rfl, hfirst⟩ := ih ((List.infix_cons_iff.1 h).resolve_left hp)
      refine ⟨c :: before, rest, rfl, ?_⟩
      rw [List.cons_append, List.infix_cons_iff, not_or]
      refine ⟨fun hp' => hp (hp'.trans ?_), hfirst⟩
      exact (List.prefix_cons_inj c).2 ((List.prefix_append_right_inj before).2
        ((List.dropLast_prefix word).trans (List.prefix_append word rest)))

/-- A separator ends one piece and starts another. -/
lemma splitWith_append_cons {separates : Char → Bool} {c : Char} (hc : separates c = true)
    (cs ds : List Char) :
    splitWith separates (cs ++ c :: ds) = splitWith separates cs ++ splitWith separates ds := by
  induction cs with
  | nil => simp [splitWith, hc]
  | cons d cs ih =>
    obtain ⟨piece, pieces, hp⟩ := List.exists_cons_of_ne_nil (splitWith_ne_nil separates cs)
    by_cases hd : separates d = true <;> simp [splitWith, hd, ih, hp]

/-- A text without separators is one piece. -/
lemma splitWith_of_forall {separates : Char → Bool} {cs : List Char}
    (h : ∀ c ∈ cs, separates c = false) : splitWith separates cs = [cs] := by
  induction cs with
  | nil => rfl
  | cons c cs ih =>
    rw [splitWith, ih fun d hd => h d (List.mem_cons_of_mem c hd), if_neg]
    simp [h c List.mem_cons_self]

/-- Pieces hold no separators. -/
lemma not_separates_of_mem_splitWith {separates : Char → Bool} {cs piece : List Char}
    (h : piece ∈ splitWith separates cs) : ∀ c ∈ piece, separates c = false := by
  induction cs generalizing piece with
  | nil =>
    obtain rfl := List.mem_singleton.1 h
    exact fun c hc => absurd hc List.not_mem_nil
  | cons d cs ih =>
    obtain ⟨first, pieces, hp⟩ := List.exists_cons_of_ne_nil (splitWith_ne_nil separates cs)
    rw [hp] at ih
    rw [splitWith, hp] at h
    split at h
    · rcases List.mem_cons.1 h with rfl | h
      · exact fun c hc => absurd hc List.not_mem_nil
      · exact ih h
    · rename_i hd
      rcases List.mem_cons.1 h with rfl | h
      · intro c hc
        rcases List.mem_cons.1 hc with rfl | hc
        · simpa using hd
        · exact ih List.mem_cons_self c hc
      · exact ih (List.mem_cons_of_mem first h)

/-! ## Words -/

/-- A text that is one word: it is not empty, and no blank breaks it. -/
def IsUnbroken (word : List Char) : Prop :=
  word ≠ [] ∧ ∀ c ∈ word, isBlank c = false

instance (word : List Char) : Decidable (IsUnbroken word) :=
  decidable_of_iff ((!word.isEmpty && word.all fun c => !isBlank c) = true) (by simp [IsUnbroken])

/-- There is no space in a text that is one word. -/
lemma IsUnbroken.space_notMem {word : List Char} (h : IsUnbroken word) : ' ' ∉ word := by
  intro hs
  have hblank : isBlank ' ' = false := h.2 ' ' hs
  exact absurd hblank (by decide)

/-- **A blank ends one word and starts another.** -/
theorem words_append_cons {c : Char} (hc : isBlank c = true) (cs ds : List Char) :
    words (cs ++ c :: ds) = words cs ++ words ds := by
  rw [words, splitWith_append_cons hc, List.filter_append]
  rfl

/-- A text that is one word has no other. -/
lemma words_of_isUnbroken {word : List Char} (h : IsUnbroken word) : words word = [word] := by
  rw [words, splitWith_of_forall h.2]
  simp [h.1]

/-- Words are read without blanks. -/
theorem isUnbroken_of_mem_words {cs word : List Char} (h : word ∈ words cs) : IsUnbroken word := by
  obtain ⟨hpiece, hne⟩ := List.mem_filter.1 h
  exact ⟨by simpa using hne, not_separates_of_mem_splitWith hpiece⟩

/-- One word is written as it is. -/
lemma unwords_singleton (word : List Char) : unwords [word] = word :=
  List.intercalate_singleton

/-- A space stands between the first of some words and the others. -/
lemma unwords_cons_cons (word other : List Char) (rest : List (List Char)) :
    unwords (word :: other :: rest) = word ++ ' ' :: unwords (other :: rest) := by
  rw [unwords, List.intercalate_cons_cons, List.append_assoc]
  rfl

/-- Words that are joined to nothing are no words. -/
lemma unwords_eq_nil_iff {ws : List (List Char)} (h : ∀ word ∈ ws, IsUnbroken word) :
    unwords ws = [] ↔ ws = [] := by
  rcases ws with _ | ⟨word, _ | ⟨other, rest⟩⟩
  · exact ⟨fun _ => rfl, fun _ => rfl⟩
  · simpa [unwords_singleton] using (h word List.mem_cons_self).1
  · simp [unwords_cons_cons]

/-- **Words that are written with single spaces are read again.** -/
theorem words_unwords {ws : List (List Char)} (h : ∀ word ∈ ws, IsUnbroken word) :
    words (unwords ws) = ws := by
  induction ws with
  | nil => rfl
  | cons word ws ih =>
    have hword := h word List.mem_cons_self
    have hrest := fun w hw => h w (List.mem_cons_of_mem word hw)
    cases ws with
    | nil => rw [unwords_singleton, words_of_isUnbroken hword]
    | cons other rest =>
      rw [unwords_cons_cons, words_append_cons (by decide), words_of_isUnbroken hword, ih hrest]
      rfl

/-! ## The first word -/

/-- A text of blanks. -/
def IsBlank (cs : List Char) : Prop :=
  ∀ c ∈ cs, isBlank c = true

/-- A run of marked characters goes no further: the text ends, or its first character is not
marked. -/
def Stops (marked : Char → Bool) (rest : List Char) : Prop :=
  ∀ c ∈ rest.head?, marked c = false

/-- A maximal run of marked characters is taken off a text. -/
lemma takeWhile_of_stops {marked : Char → Bool} {run rest : List Char}
    (hrun : ∀ c ∈ run, marked c = true) (hstops : Stops marked rest) :
    (run ++ rest).takeWhile marked = run := by
  rw [List.takeWhile_append_of_pos hrun]
  cases rest with
  | nil => simp
  | cons c rest => simp [hstops c rfl]

/-- What is left of a text without a maximal run of marked characters. -/
lemma dropWhile_of_stops {marked : Char → Bool} {run rest : List Char}
    (hrun : ∀ c ∈ run, marked c = true) (hstops : Stops marked rest) :
    (run ++ rest).dropWhile marked = rest := by
  rw [List.dropWhile_append_of_pos hrun]
  cases rest with
  | nil => rfl
  | cons c rest => simp [hstops c rfl]

/-- A run goes no further than to where it is taken off. -/
lemma stops_dropWhile (marked : Char → Bool) (cs : List Char) :
    Stops marked (cs.dropWhile marked) := by
  intro c hc
  have hhead := List.head?_dropWhile_not marked cs
  rw [Option.mem_def.1 hc] at hhead
  exact hhead

/-- A blank in front makes no difference to the words. -/
lemma words_cons_of_isBlank {c : Char} (hc : isBlank c = true) (cs : List Char) :
    words (c :: cs) = words cs :=
  words_append_cons hc [] cs

/-- Blanks in front make no difference to the words. -/
lemma words_blanks_append {blanks : List Char} (h : IsBlank blanks) (cs : List Char) :
    words (blanks ++ cs) = words cs := by
  induction blanks with
  | nil => rfl
  | cons c blanks ih =>
    rw [List.cons_append, words_cons_of_isBlank (h c List.mem_cons_self)]
    exact ih fun d hd => h d (List.mem_cons_of_mem c hd)

/-- There is no word in a text of blanks. -/
lemma words_of_isBlank {blanks : List Char} (h : IsBlank blanks) : words blanks = [] := by
  rw [← List.append_nil blanks, words_blanks_append h]
  rfl

/-- Blanks at the end make no difference to the words. -/
lemma words_append_blanks {blanks : List Char} (h : IsBlank blanks) (cs : List Char) :
    words (cs ++ blanks) = words cs := by
  cases blanks with
  | nil => rw [List.append_nil]
  | cons c blanks =>
    have hrest : IsBlank blanks := fun d hd => h d (List.mem_cons_of_mem c hd)
    rw [words_append_cons (h c List.mem_cons_self), words_of_isBlank hrest, List.append_nil]

/-- A word ends at a blank or with the text. -/
lemma words_append_of_isUnbroken {word rest : List Char} (h : IsUnbroken word)
    (hstops : Stops (fun c => !isBlank c) rest) : words (word ++ rest) = word :: words rest := by
  cases rest with
  | nil =>
    rw [List.append_nil, words_of_isUnbroken h]
    rfl
  | cons c rest =>
    have hc : isBlank c = true := by simpa using hstops c rfl
    rw [words_append_cons hc, words_of_isUnbroken h, words_cons_of_isBlank hc]
    rfl

/-- A text that does not consist of blanks has a word after its first blanks. -/
lemma isBlank_or_exists_word (cs : List Char) :
    IsBlank cs ∨ ∃ blanks word rest, cs = blanks ++ (word ++ rest) ∧ IsBlank blanks ∧
      IsUnbroken word ∧ Stops (fun c => !isBlank c) rest := by
  have hfront : IsBlank (cs.takeWhile isBlank) := fun c hc => List.mem_takeWhile_imp hc
  have hcs : cs.takeWhile isBlank ++ cs.dropWhile isBlank = cs := List.takeWhile_append_dropWhile
  have hhead := stops_dropWhile isBlank cs
  cases hback : cs.dropWhile isBlank with
  | nil =>
    rw [hback, List.append_nil] at hcs
    exact .inl (hcs ▸ hfront)
  | cons c back =>
    have hc : isBlank c = false := hhead c (by rw [hback]; rfl)
    refine .inr ⟨cs.takeWhile isBlank, c :: back.takeWhile fun d => !isBlank d,
      back.dropWhile fun d => !isBlank d, ?_, hfront, ⟨List.cons_ne_nil _ _, ?_⟩,
      stops_dropWhile _ _⟩
    · rw [List.cons_append, List.takeWhile_append_dropWhile, ← hback, hcs]
    · exact List.forall_mem_cons.2 ⟨hc, fun d hd => by simpa using List.mem_takeWhile_imp hd⟩

/-- **The first word of a text stands after blanks, and ends at a blank or with the text.**

**Proof sketch.** The text is cut after its first blanks and after the run of other characters that
comes next. That run is its first word, and there is no other. -/
theorem words_eq_cons_iff {cs word : List Char} {others : List (List Char)} :
    words cs = word :: others ↔
      ∃ blanks rest, cs = blanks ++ (word ++ rest) ∧ IsBlank blanks ∧ IsUnbroken word ∧
        Stops (fun c => !isBlank c) rest ∧ words rest = others := by
  have hcut : ∀ {blanks run rest : List Char}, IsBlank blanks → IsUnbroken run →
      Stops (fun c => !isBlank c) rest →
      words (blanks ++ (run ++ rest)) = run :: words rest := by
    intro blanks run rest hblanks hrun hstops
    rw [words_blanks_append hblanks, words_append_of_isUnbroken hrun hstops]
  constructor
  · intro h
    rcases isBlank_or_exists_word cs with hblank | ⟨blanks, run, rest, rfl, hblanks, hrun, hstops⟩
    · exact absurd ((words_of_isBlank hblank).symm.trans h) (by simp)
    · rw [hcut hblanks hrun hstops] at h
      obtain ⟨rfl, hothers⟩ := List.cons.inj h
      exact ⟨blanks, rest, rfl, hblanks, hrun, hstops, hothers⟩
  · rintro ⟨blanks, rest, rfl, hblanks, hword, hstops, rfl⟩
    exact hcut hblanks hword hstops

/-! ## Blank texts -/

/-- A text that starts with all its blanks consists of them. -/
lemma forall_mem_dropWhile_iff {p : Char → Bool} {cs : List Char} :
    (∀ c ∈ cs.dropWhile p, p c = true) ↔ ∀ c ∈ cs, p c = true := by
  constructor
  · intro h c hc
    rw [← List.takeWhile_append_dropWhile (p := p) (l := cs)] at hc
    rcases List.mem_append.1 hc with hc | hc
    · exact List.mem_takeWhile_imp hc
    · exact h c hc
  · intro h c hc
    exact h c ((List.dropWhile_suffix p).subset hc)

/-- **Nothing is left of a text that is trimmed exactly when it consists of blanks.** -/
theorem trim_eq_nil_iff {cs : List Char} : trim cs = [] ↔ ∀ c ∈ cs, isBlank c = true := by
  rw [trim, trimRight, List.reverse_eq_nil_iff, List.dropWhile_eq_nil_iff]
  simp only [List.mem_reverse]
  exact forall_mem_dropWhile_iff

/-- What is trimmed off the end of a text are blanks. -/
lemma exists_trimRight_append (cs : List Char) :
    ∃ blanks, IsBlank blanks ∧ cs = trimRight cs ++ blanks := by
  refine ⟨(cs.reverse.takeWhile isBlank).reverse, fun c hc => ?_, ?_⟩
  · exact List.mem_takeWhile_imp (List.mem_reverse.1 hc)
  · rw [trimRight, ← List.reverse_append, List.takeWhile_append_dropWhile, List.reverse_reverse]

/-- **Blanks at either end make no difference to the words.** -/
theorem words_trim (cs : List Char) : words (trim cs) = words cs := by
  obtain ⟨blanks, hblanks, hright⟩ := exists_trimRight_append (trimLeft cs)
  have hleft : cs = cs.takeWhile isBlank ++ trimLeft cs := List.takeWhile_append_dropWhile.symm
  have hfront : IsBlank (cs.takeWhile isBlank) := fun c hc => List.mem_takeWhile_imp hc
  calc words (trim cs) = words (trim cs ++ blanks) := (words_append_blanks hblanks _).symm
    _ = words (trimLeft cs) := congrArg words hright.symm
    _ = words (cs.takeWhile isBlank ++ trimLeft cs) := (words_blanks_append hfront _).symm
    _ = words cs := congrArg words hleft.symm

/-- A text that is trimmed does not start with a blank. -/
lemma stops_trim (cs : List Char) : Stops isBlank (trim cs) := by
  obtain ⟨blanks, -, hright⟩ := exists_trimRight_append (trimLeft cs)
  intro c hc
  refine stops_dropWhile isBlank cs c ?_
  show (trimLeft cs).head? = some c
  rw [hright, List.head?_append]
  simp [show (trimRight (trimLeft cs)).head? = some c from hc]

/-- The first word of a text that is trimmed stands at its start. -/
lemma exists_rest_of_words_trim {cs word : List Char} {others : List (List Char)}
    (h : words (trim cs) = word :: others) :
    ∃ rest, trim cs = word ++ rest ∧ Stops (fun c => !isBlank c) rest ∧ words rest = others := by
  obtain ⟨blanks, rest, hcs, hblanks, -, hrest⟩ := words_eq_cons_iff.1 h
  cases blanks with
  | nil => exact ⟨rest, hcs, hrest⟩
  | cons c blanks =>
    have hc : isBlank c = false := stops_trim cs c (by rw [hcs]; rfl)
    exact absurd ((hblanks c List.mem_cons_self).symm.trans hc) (by simp)

end ReplicaPolicy.Text
