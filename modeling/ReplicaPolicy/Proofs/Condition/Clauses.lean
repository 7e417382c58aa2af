import Mathlib.Data.List.Infix
import ReplicaPolicy.Condition
import ReplicaPolicy.Proofs.Results
import ReplicaPolicy.Proofs.Text.Words

set_option relaxedAutoImplicit false
set_option autoImplicit false

/-!
# The clauses of a text

A text is cut into clauses at its conjunctions. A conjunction starts and ends with a space, so two
of them can share one; then the left one is a cut, and the right one is none. This file says so as
a relation, and shows where the clauses of a joined text are those of its parts.

## Main definitions

* `ReplicaPolicy.Condition.conjunction` — what stands between two clauses.
* `ReplicaPolicy.Condition.Splits` — a text is cut at its conjunctions, from the left.
* `ReplicaPolicy.Condition.clausesOf` — the clauses of a condition, which are none if it is blank.

## Main results

* `ReplicaPolicy.Condition.clauses_join` — the clauses of two texts with a conjunction between.
* `ReplicaPolicy.Condition.clauses_unwords` — words without a conjunction among them are one clause.
* `ReplicaPolicy.Condition.compile_eq_ok_iff`, `compile_eq_error_iff` — a condition is compiled
  clause by clause.
-/

namespace ReplicaPolicy.Condition

/-! ## Cutting from the left -/

/-- The word of a conjunction. -/
def conjunctionWord : List Char := ['a', 'n', 'd']

/-- What stands between two clauses: the word, a space before it and a space after it. -/
def conjunction : List Char := ' ' :: conjunctionWord ++ [' ']

/-- A text is cut into clauses at its conjunctions, from the left. -/
inductive Splits : List Char → List (List Char) → Prop
  /-- A text without a conjunction is one clause. -/
  | last {cs : List Char} (whole : ¬conjunction <:+: cs) : Splits cs [cs]
  /-- The first clause ends where the first conjunction starts: none starts further left, not even
  one that shares a space with it. -/
  | cut {clause rest : List Char} {clauses : List (List Char)}
      (first : ¬conjunction <:+: clause ++ ' ' :: conjunctionWord) (others : Splits rest clauses) :
      Splits (clause ++ (conjunction ++ rest)) (clause :: clauses)

/-- A conjunction in front ends an empty clause. -/
lemma clauses_conjunction_append (cs : List Char) :
    clauses (conjunction ++ cs) = [] :: clauses cs :=
  rfl

/-- A character with which no conjunction starts belongs to the first clause. -/
lemma clauses_cons {c : Char} {cs : List Char} (h : ¬conjunction <+: c :: cs) :
    clauses (c :: cs) = prepend c (clauses cs) := by
  rw [clauses]
  rintro rest rfl rfl
  exact h ⟨rest, rfl⟩

/-- A text without a conjunction is one clause. -/
lemma clauses_eq_singleton {cs : List Char} (h : ¬conjunction <:+: cs) : clauses cs = [cs] := by
  induction cs with
  | nil => rfl
  | cons c cs ih =>
    rw [List.infix_cons_iff, not_or] at h
    rw [clauses_cons h.1, ih h.2]
    rfl

/-- The first conjunction ends the first clause.

**Proof sketch.** Induction on the clause. A conjunction that starts within it would end within it
or within the first four characters of the conjunction that follows. -/
lemma clauses_cut {clause : List Char} (h : ¬conjunction <:+: clause ++ ' ' :: conjunctionWord)
    (rest : List Char) :
    clauses (clause ++ (conjunction ++ rest)) = clause :: clauses rest := by
  induction clause with
  | nil => exact clauses_conjunction_append rest
  | cons c clause ih =>
    rw [List.cons_append, List.infix_cons_iff, not_or] at h
    have hfirst : ¬conjunction <+: c :: (clause ++ (conjunction ++ rest)) := by
      intro hp
      refine h.1 (List.prefix_of_prefix_length_le hp ⟨' ' :: rest, ?_⟩ ?_)
      · simp [conjunction]
      · simp [conjunction, conjunctionWord]
    rw [List.cons_append, clauses_cons hfirst, ih h.2]
    rfl

/-- A conjunction within a text has a first one before it or is the first. -/
lemma exists_first_conjunction {cs : List Char} (h : conjunction <:+: cs) :
    ∃ clause rest, cs = clause ++ (conjunction ++ rest) ∧
      ¬conjunction <:+: clause ++ ' ' :: conjunctionWord :=
  Text.exists_first_isInfix (by decide) h

/-- The clauses of a text split it.

**Proof sketch.** Strong induction on the length: behind the first conjunction less is left. -/
theorem splits_clauses (cs : List Char) : Splits cs (clauses cs) := by
  induction hn : cs.length using Nat.strong_induction_on generalizing cs with
  | _ n ih =>
    by_cases h : conjunction <:+: cs
    · obtain ⟨clause, rest, rfl, hfirst⟩ := exists_first_conjunction h
      rw [clauses_cut hfirst]
      refine .cut hfirst (ih rest.length ?_ rest rfl)
      rw [← hn]
      simp only [conjunction, List.length_append, List.length_cons]
      omega
    · rw [clauses_eq_singleton h]
      exact .last h

/-! ## Joined texts -/

/-- A conjunction overlaps with the start of another one by no more than a space. -/
lemma four_le_of_overlap :
    ∀ k < 6, conjunction.drop k <+: ' ' :: conjunctionWord → 4 ≤ k := by
  decide

/-- A conjunction after a text without one is the first, unless the text ends in one but for its
last space. -/
lemma not_isInfix_append {cs : List Char} (h : ¬conjunction <:+: cs)
    (hend : ¬(' ' :: conjunctionWord <:+ cs)) :
    ¬conjunction <:+: cs ++ ' ' :: conjunctionWord := by
  rw [List.infix_append_iff]
  rintro (hin | hin | ⟨left, right, hsplit, hleft, hright⟩)
  · exact h hin
  · exact absurd hin (by decide)
  · have hl : left = conjunction.take left.length := by simp [hsplit]
    have hr : right = conjunction.drop left.length := by simp [hsplit]
    have hlength : left.length ≤ 5 := by
      have hsum := congrArg List.length hsplit
      simp only [conjunction, conjunctionWord, List.length_append, List.length_cons,
        List.length_nil] at hsum
      omega
    rw [hr] at hright
    have hfour := four_le_of_overlap left.length (by omega) hright
    rw [hl] at hleft
    obtain hk | hk : left.length = 4 ∨ left.length = 5 := by omega
    · rw [hk] at hleft
      exact hend hleft
    · rw [hk] at hleft
      exact h hleft.isInfix

/-- **Joining two texts joins their clauses**, unless the first ends in a conjunction but for its
last space.

**Proof sketch.** Induction on the split of the first text: its cuts stay, and behind its last
clause the conjunction that joins the texts is the first. -/
theorem clauses_join {a : List Char} (hend : ¬(' ' :: conjunctionWord <:+ a)) (b : List Char) :
    clauses (a ++ (conjunction ++ b)) = clauses a ++ clauses b := by
  have h := splits_clauses a
  generalize clauses a = pieces at h
  induction h with
  | last whole => rw [clauses_cut (not_isInfix_append whole hend)]; rfl
  | @cut clause rest pieces first _ ih =>
    have hend' : ¬(' ' :: conjunctionWord <:+ rest) := by
      intro h
      refine hend (h.trans ?_)
      rw [← List.append_assoc]
      exact List.suffix_append _ _
    rw [List.append_assoc, List.append_assoc, clauses_cut first, ih hend']
    rfl

/-! ## Words -/

/-- A conjunction does not start within a word. -/
lemma isInfix_of_space_notMem {word cs : List Char} (hw : ' ' ∉ word)
    (h : conjunction <:+: word ++ cs) : conjunction <:+: cs := by
  have hspace : ∀ {left : List Char}, ' ' :: left <:+: word → False :=
    fun h => hw (h.subset List.mem_cons_self)
  rcases List.infix_append_iff.1 h with h | h | ⟨left, right, hsplit, hleft, hright⟩
  · exact (hspace h).elim
  · exact h
  · cases left with
    | nil => exact hsplit ▸ hright.isInfix
    | cons c left =>
      obtain ⟨rfl, -⟩ := List.cons.inj hsplit
      exact (hspace hleft.isInfix).elim

/-- The word with which a conjunction starts, after its space, is a word of its own. -/
lemma eq_conjunctionWord_of_starts {word other : List Char} (hw : ' ' ∉ word)
    (h : conjunctionWord ++ [' '] <+: word ++ ' ' :: other) : word = conjunctionWord := by
  obtain ⟨rest, hrest⟩ := h
  rw [List.append_assoc] at hrest
  exact (Text.cut_inj (by decide) hw hrest).1.symm

/-- **Words that are written with single spaces are one clause** where no word between the first
and the last is that of a conjunction.

**Proof sketch.** Induction on the words. A conjunction would start at one of the spaces, and the
word behind that space would be its word, with another one after it. -/
theorem clauses_unwords {first : List Char} {others : List (List Char)} (hfirst : ' ' ∉ first)
    (hspace : ∀ word ∈ others, ' ' ∉ word)
    (hwords : ∀ word ∈ others.dropLast, word ≠ conjunctionWord) :
    clauses (Text.unwords (first :: others)) = [Text.unwords (first :: others)] := by
  refine clauses_eq_singleton ?_
  induction others generalizing first with
  | nil =>
    rw [Text.unwords_singleton]
    exact fun h => hfirst (h.subset List.mem_cons_self)
  | cons second rest ih =>
    have hsecond := hspace second List.mem_cons_self
    rw [Text.unwords_cons_cons]
    intro h
    rcases List.infix_cons_iff.1 (isInfix_of_space_notMem hfirst h) with h | h
    · have h' : conjunctionWord ++ [' '] <+: Text.unwords (second :: rest) :=
        (List.prefix_cons_inj ' ').1 h
      cases rest with
      | nil =>
        rw [Text.unwords_singleton] at h'
        exact hsecond (h'.subset (by decide))
      | cons third rest =>
        rw [Text.unwords_cons_cons] at h'
        exact hwords second (by simp) (eq_conjunctionWord_of_starts hsecond h')
    · refine ih hsecond (fun w hw => hspace w (List.mem_cons_of_mem _ hw)) (fun w hw => ?_) h
      cases rest with
      | nil => exact absurd hw List.not_mem_nil
      | cons third rest => exact hwords w (List.mem_cons_of_mem _ hw)

/-! ## Compiling clause by clause -/

/-- The clauses of a condition: those of its text, or none if that is blank. -/
def clausesOf (text : String) : List (List Char) :=
  if (Text.trim text.toList).isEmpty then [] else clauses text.toList

/-- A blank condition has no clause. -/
lemma clausesOf_of_blank {text : String} (h : Text.trim text.toList = []) : clausesOf text = [] :=
  if_pos (by rw [h]; rfl)

/-- A condition that is not blank has the clauses of its text. -/
lemma clausesOf_of_not_blank {text : String} (h : Text.trim text.toList ≠ []) :
    clausesOf text = clauses text.toList :=
  if_neg (by simpa using h)

/-- A condition is what its clauses write, with its text. -/
lemma compile_eq (partition : Option String) (text : String) :
    compile partition text =
      ((clausesOf text).mapM (compileClause partition text)).map (Condition.mk text) := by
  unfold compile clausesOf
  dsimp only
  generalize (if (Text.trim text.toList).isEmpty = true then [] else clauses text.toList) = pieces
  cases pieces.mapM (compileClause partition text) <;> rfl

/-- **Conditions are compiled clause by clause.** -/
theorem compile_eq_ok_iff {partition : Option String} {text : String} {c : Condition} :
    compile partition text = .ok c ↔
      c.text = text ∧ List.Forall₂ (fun clause p => compileClause partition text clause = .ok p)
        (clausesOf text) c.predicates := by
  rw [compile_eq, except_map_eq_ok_iff]
  simp only [mapM_eq_ok_iff]
  constructor
  · rintro ⟨predicates, h, rfl⟩
    exact ⟨rfl, h⟩
  · rintro ⟨rfl, h⟩
    exact ⟨c.predicates, h, rfl⟩

/-- The complaint about a condition is the first one about a clause. -/
lemma compile_eq_error_iff {partition : Option String} {text : String} {fault : Fault} :
    compile partition text = .error fault ↔
      ∃ before clause after, clausesOf text = before ++ clause :: after ∧
        (∀ other ∈ before, ∃ p, compileClause partition text other = .ok p) ∧
        compileClause partition text clause = .error fault := by
  rw [compile_eq, except_map_eq_error_iff, mapM_eq_error_iff]

/-- A condition compiles exactly when each of its clauses does. -/
lemma exists_compile_iff {partition : Option String} {text : String} :
    (∃ c, compile partition text = .ok c) ↔
      ∀ clause ∈ clausesOf text, ∃ p, compileClause partition text clause = .ok p := by
  rw [← exists_mapM_eq_ok_iff, compile_eq]
  simp only [except_map_eq_ok_iff]
  exact ⟨fun ⟨_, ps, h, _⟩ => ⟨ps, h⟩, fun ⟨ps, h⟩ => ⟨_, ps, h, rfl⟩⟩

end ReplicaPolicy.Condition
