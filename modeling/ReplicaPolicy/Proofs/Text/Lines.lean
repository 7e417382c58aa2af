import ReplicaPolicy.Proofs.Text.Words

set_option relaxedAutoImplicit false
set_option autoImplicit false

/-!
# The lines of a text

A newline between two texts ends the last line of the first. So the lines of the whole are those of
both, but for this one: it is a line even where it is empty, and a carriage return at its end
belongs to the break.

## Main definitions

* `ReplicaPolicy.Text.linesBefore` — the lines of a text that a newline follows.

## Main results

* `ReplicaPolicy.Text.lines_append_newline` — the lines of two texts with a newline between.
* `ReplicaPolicy.Text.length_linesBefore` — every newline ends a line.
* `ReplicaPolicy.Text.newline_notMem_of_mem_lines` — a line holds no newline.
* `ReplicaPolicy.Text.filterMap_linesBefore`, `any_linesBefore` — to a reader that trims lines, the
  newline makes no difference to the text before it.
-/

namespace ReplicaPolicy.Text

/-! ## Trimming -/

/-- Blanks at the end of a text are trimmed off. -/
lemma trim_append_blanks {blanks : List Char} (h : IsBlank blanks) (cs : List Char) :
    trim (cs ++ blanks) = trim cs := by
  have hblanks : trimLeft blanks = [] := List.dropWhile_eq_nil_iff.2 h
  have hreverse : ∀ c ∈ blanks.reverse, isBlank c = true := fun c hc => h c (List.mem_reverse.1 hc)
  cases hcs : trimLeft cs with
  | nil =>
    have hleft : trimLeft (cs ++ blanks) = [] := by
      rw [trimLeft, List.dropWhile_append, show cs.dropWhile isBlank = [] from hcs]
      exact hblanks
    rw [trim, hleft, trim, hcs]
  | cons c rest =>
    have hleft : trimLeft (cs ++ blanks) = (c :: rest) ++ blanks := by
      rw [trimLeft, List.dropWhile_append, show cs.dropWhile isBlank = c :: rest from hcs]
      rfl
    rw [trim, hleft, trim, hcs, trimRight, trimRight, List.reverse_append,
      List.dropWhile_append_of_pos hreverse]

/-- A carriage return at the end of a line is trimmed off. -/
lemma trim_dropCarriageReturn (line : List Char) : trim (dropCarriageReturn line) = trim line := by
  unfold dropCarriageReturn
  split
  case isTrue h =>
    obtain ⟨front, rfl⟩ := List.getLast?_eq_some_iff.1 h
    have hblank : IsBlank ['\r'] := by
      intro c hc
      obtain rfl := List.mem_singleton.1 hc
      decide
    rw [List.dropLast_concat, trim_append_blanks hblank]
  case isFalse => rfl

/-! ## Newlines -/

/-- The lines of a text that a newline follows. -/
def linesBefore (cs : List Char) : List (List Char) :=
  (splitWith (· == '\n') cs).map dropCarriageReturn

/-- Every newline of the text ends a line, and so does the one that follows. -/
lemma length_linesBefore (cs : List Char) : (linesBefore cs).length = cs.count '\n' + 1 := by
  rw [linesBefore, List.length_map, length_splitWith]
  rfl

/-- The lines of a text by itself: its last piece is a line as it is, unless it is empty. -/
lemma lines_of_splitWith {cs last : List Char} {before : List (List Char)}
    (h : splitWith (· == '\n') cs = before ++ [last]) :
    lines cs = before.map dropCarriageReturn ++ if last.isEmpty then [] else [last] := by
  rw [lines, h, List.dropLast_concat, List.getLastD_concat]

/-- A text has a last piece. -/
lemma exists_splitWith_eq_concat (cs : List Char) :
    ∃ before last, splitWith (· == '\n') cs = before ++ [last] :=
  ⟨_, _, (List.dropLast_concat_getLast (splitWith_ne_nil _ cs)).symm⟩

/-- A line without the carriage return at its end has no other characters. -/
lemma mem_of_mem_dropCarriageReturn {line : List Char} {c : Char}
    (h : c ∈ dropCarriageReturn line) : c ∈ line := by
  unfold dropCarriageReturn at h
  split at h
  · exact List.mem_of_mem_dropLast h
  · exact h

/-- A line of a text holds no newline. -/
lemma newline_notMem_of_mem_lines {line cs : List Char} (h : line ∈ lines cs) : '\n' ∉ line := by
  have hpieces : ∀ piece ∈ splitWith (· == '\n') cs, '\n' ∉ piece := fun piece hpiece hmem =>
    absurd (not_separates_of_mem_splitWith hpiece '\n' hmem) (by decide)
  obtain ⟨before, last, hcs⟩ := exists_splitWith_eq_concat cs
  rw [lines_of_splitWith hcs, List.mem_append] at h
  rcases h with h | h
  · obtain ⟨piece, hpiece, rfl⟩ := List.mem_map.1 h
    have hmem : piece ∈ splitWith (· == '\n') cs := by simp [hcs, hpiece]
    exact fun hc => hpieces piece hmem (mem_of_mem_dropCarriageReturn hc)
  · split at h
    · exact absurd h List.not_mem_nil
    · obtain rfl := List.mem_singleton.1 h
      exact hpieces line (by simp [hcs])

/-- **The lines of two texts with a newline between** are the lines that end before the newline or
at it, and then those of the second text. -/
theorem lines_append_newline (cs ds : List Char) :
    lines (cs ++ '\n' :: ds) = linesBefore cs ++ lines ds := by
  obtain ⟨before, last, hds⟩ := exists_splitWith_eq_concat ds
  have hsplit : splitWith (· == '\n') (cs ++ '\n' :: ds) =
      (splitWith (· == '\n') cs ++ before) ++ [last] := by
    rw [splitWith_append_cons (by decide), hds, List.append_assoc]
  rw [lines_of_splitWith hsplit, lines_of_splitWith hds, List.map_append, List.append_assoc,
    linesBefore]

/-- The lines of a text by itself are those before a newline, but for the last one: by itself it
keeps its carriage return, and it is no line if it is empty. -/
lemma exists_lines_eq (cs : List Char) :
    ∃ before last, linesBefore cs = before ++ [dropCarriageReturn last] ∧
      lines cs = before ++ if last.isEmpty then [] else [last] := by
  obtain ⟨before, last, hcs⟩ := exists_splitWith_eq_concat cs
  refine ⟨before.map dropCarriageReturn, last, ?_, lines_of_splitWith hcs⟩
  rw [linesBefore, hcs, List.map_append, List.map_singleton]

section Reader

variable {α : Type} {f : List Char → Option α} {p : List Char → Bool}

/-- What is taken from the lines of a text does not depend on whether a newline follows, where
nothing is taken from an empty line, and the same from a line without its carriage return. -/
lemma filterMap_linesBefore (hempty : f [] = none)
    (hreturn : ∀ line, f (dropCarriageReturn line) = f line) (cs : List Char) :
    (linesBefore cs).filterMap f = (lines cs).filterMap f := by
  obtain ⟨before, last, hbefore, hlines⟩ := exists_lines_eq cs
  rw [hbefore, hlines, List.filterMap_append, List.filterMap_append, List.filterMap_cons, hreturn]
  cases last with
  | nil => rw [hempty]; rfl
  | cons c last => rfl

/-- Whether a line of a text is marked does not depend on whether a newline follows, where an empty
line is not marked, and a line is marked if it is without its carriage return. -/
lemma any_linesBefore (hempty : p [] = false)
    (hreturn : ∀ line, p (dropCarriageReturn line) = p line) (cs : List Char) :
    (linesBefore cs).any p = (lines cs).any p := by
  obtain ⟨before, last, hbefore, hlines⟩ := exists_lines_eq cs
  rw [hbefore, hlines, List.any_append, List.any_append, List.any_cons, hreturn]
  cases last with
  | nil => rw [hempty]; rfl
  | cons c last => rfl

end Reader

end ReplicaPolicy.Text
