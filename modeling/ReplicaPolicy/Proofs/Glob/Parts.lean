import Mathlib.Data.List.Forall2
import ReplicaPolicy.Proofs.Glob.Plain

set_option relaxedAutoImplicit false
set_option autoImplicit false

/-!
# Globs match part by part

Separators divide names into parts, and globs too. No star and no question mark consumes a
separator, so a separator of a name is consumed by one of the glob, and the parts in between are
consumed by the parts in between. Hence a glob without closed brackets matches a name exactly when
it has as many parts as the name and each of its parts, as a glob of its own, matches the part of
the name at its place. A class could consume a separator, so this is told of globs without closed
brackets only.

## Main definitions

* `ReplicaPolicy.Glob.parts` — the parts of a text between its separators.

## Main results

* `ReplicaPolicy.Glob.consumes_append` — joined tokens consume joined names.
* `ReplicaPolicy.Glob.separator_notMem_of_consumes` — tokens that accept no separator consume none.
* `ReplicaPolicy.Glob.consumes_iff_parts` — tokens of characters consume a name part by part.
* `ReplicaPolicy.Glob.selects_iff_parts` — a glob without closed brackets selects part by part.
-/

namespace ReplicaPolicy.Glob

/-! ## Parts -/

/-- The parts of a text between its separators. -/
def parts (text : List Char) : List (List Char) :=
  Text.splitWith (· == separator) text

/-- A text has one part more than it has separators. -/
lemma length_parts (text : List Char) : (parts text).length = text.count separator + 1 :=
  Text.length_splitWith _ _

/-- A text without separators is one part. -/
lemma parts_of_notMem {text : List Char} (h : separator ∉ text) : parts text = [text] := by
  apply Text.splitWith_of_forall
  intro c hc
  have hne : c ≠ separator := fun e => h (e ▸ hc)
  simp [hne]

/-- The first separator ends the first part. -/
lemma parts_cut {part : List Char} (h : separator ∉ part) (rest : List Char) :
    parts (part ++ separator :: rest) = part :: parts rest := by
  have hcut : parts (part ++ separator :: rest) = parts part ++ parts rest :=
    Text.splitWith_append_cons (by simp) part rest
  rw [hcut, parts_of_notMem h, List.singleton_append]

/-- A text is one part, or it has a first part, a separator and further parts.

**Proof sketch.** Strong induction on the length: behind the first separator less is left. -/
@[elab_as_elim]
theorem parts_induction {motive : List Char → Prop}
    (whole : ∀ text, separator ∉ text → motive text)
    (cut : ∀ part rest, separator ∉ part → motive rest → motive (part ++ separator :: rest))
    (text : List Char) : motive text := by
  induction hn : text.length using Nat.strong_induction_on generalizing text with
  | _ n ih =>
    by_cases h : separator ∈ text
    · obtain ⟨part, rest, rfl, hpart⟩ := List.eq_append_cons_of_mem h
      refine cut part rest hpart (ih rest.length ?_ rest rfl)
      rw [← hn]
      simp only [List.length_append, List.length_cons]
      omega
    · exact whole text h

/-! ## What tokens consume -/

/-- **Joined tokens consume joined names.**

**Proof sketch.** Induction on the first tokens. What the first of them consumes, one character or a
run, is the start of the name that they consume together. -/
theorem consumes_append (ts us : List Token) (name : List Char) :
    Consumes (ts ++ us) name ↔
      ∃ front back, name = front ++ back ∧ Consumes ts front ∧ Consumes us back := by
  constructor
  · intro h
    induction ts generalizing name with
    | nil => exact ⟨[], name, rfl, .done, h⟩
    | cons t ts ih =>
      rw [List.cons_append] at h
      cases hrun : t.isRun with
      | true =>
        obtain rfl := t.eq_anyRun_of_isRun hrun
        obtain ⟨run, rest, rfl, hinside, hrest⟩ := (consumes_anyRun _ _).1 h
        obtain ⟨front, back, rfl, hfront, hback⟩ := ih rest hrest
        refine ⟨run ++ front, back, by simp, ?_, hback⟩
        exact (consumes_anyRun _ _).2 ⟨run, front, rfl, hinside, hfront⟩
      | false =>
        obtain ⟨c, rest, rfl, haccepts, hrest⟩ := (consumes_single hrun _ _).1 h
        obtain ⟨front, back, rfl, hfront, hback⟩ := ih rest hrest
        exact ⟨c :: front, back, rfl, .one hrun haccepts hfront, hback⟩
  · rintro ⟨front, back, rfl, hfront, hback⟩
    induction hfront with
    | done => exact hback
    | one single accepted _ ih => exact .one single accepted ih
    | skip _ ih => exact .skip ih
    | more inside _ ih => exact .more inside ih

/-- **Tokens that accept no separator consume none.** -/
theorem separator_notMem_of_consumes {ts : List Token} {name : List Char} (h : Consumes ts name)
    (hts : ∀ t ∈ ts, t.accepts separator = false) : separator ∉ name := by
  induction h with
  | done => exact List.not_mem_nil
  | @one t ts c cs _ accepted _ ih =>
    have hc : separator ≠ c := by
      rintro rfl
      exact absurd (accepted.symm.trans (hts t List.mem_cons_self)) (by decide)
    have hcs := ih fun u hu => hts u (List.mem_cons_of_mem t hu)
    simp [hc, hcs]
  | skip _ ih => exact ih fun u hu => hts u (List.mem_cons_of_mem _ hu)
  | more inside _ ih => simp [inside.symm, ih hts]

/-- Outside of brackets, a separator is accepted by itself only. -/
lemma accepts_separator_ofChar (c : Char) :
    (Token.ofChar c).accepts separator = (separator == c) := by
  by_cases hstar : c = '*'
  · subst hstar
    rfl
  · by_cases hquestion : c = '?'
    · subst hquestion
      rfl
    · simp [Token.ofChar, hstar, hquestion, Token.accepts]

/-- The characters of one part consume no separator. -/
lemma separator_notMem_of_consumes_part {part piece : List Char} (hpart : separator ∉ part)
    (h : Consumes (part.map Token.ofChar) piece) : separator ∉ piece := by
  refine separator_notMem_of_consumes h fun t ht => ?_
  obtain ⟨c, hc, rfl⟩ := List.mem_map.1 ht
  rw [accepts_separator_ofChar, beq_eq_false_iff_ne]
  rintro rfl
  exact hpart hc

/-- The first separator of a glob consumes the first one of a name. -/
lemma consumes_cut {part : List Char} (hpart : separator ∉ part) (rest name : List Char) :
    Consumes ((part ++ separator :: rest).map Token.ofChar) name ↔
      ∃ piece others, name = piece ++ separator :: others ∧ separator ∉ piece ∧
        Consumes (part.map Token.ofChar) piece ∧ Consumes (rest.map Token.ofChar) others := by
  have hseparator : Token.ofChar separator = .literal separator := by decide
  rw [List.map_append, List.map_cons, hseparator, consumes_append]
  constructor
  · rintro ⟨piece, back, rfl, hpiece, hback⟩
    obtain ⟨c, others, rfl, hc, hothers⟩ := (consumes_single rfl _ _).1 hback
    obtain rfl : c = separator := by simpa [Token.accepts] using hc
    exact ⟨piece, others, rfl, separator_notMem_of_consumes_part hpart hpiece, hpiece, hothers⟩
  · rintro ⟨piece, others, rfl, -, hpiece, hothers⟩
    exact ⟨piece, _, rfl, hpiece, .one rfl (by decide) hothers⟩

/-- **The tokens of characters consume a name part by part.**

**Proof sketch.** Induction on the parts of the glob. Its first separator can only consume the first
one of the name, and a glob that is one part consumes no separator. So on both sides a part is taken
off, or both are one part, or one of them is and nothing is consumed. -/
theorem consumes_iff_parts (glob name : List Char) :
    Consumes (glob.map Token.ofChar) name ↔
      List.Forall₂ (fun part piece => Consumes (part.map Token.ofChar) piece)
        (parts glob) (parts name) := by
  induction glob using parts_induction generalizing name with
  | whole glob hglob =>
    rw [parts_of_notMem hglob]
    cases name using parts_induction with
    | whole name hname => simp [parts_of_notMem hname]
    | cut piece others hpiece =>
      have hnot : ¬Consumes (glob.map Token.ofChar) (piece ++ separator :: others) := by
        intro h
        exact separator_notMem_of_consumes_part hglob h (by simp)
      have hothers : parts others ≠ [] := Text.splitWith_ne_nil _ _
      simp [parts_cut hpiece, hnot, hothers]
  | cut part rest hpart ih =>
    rw [parts_cut hpart, consumes_cut hpart]
    cases name using parts_induction with
    | whole name hname =>
      have hrest : parts rest ≠ [] := Text.splitWith_ne_nil _ _
      have hnot : ∀ piece others, name ≠ piece ++ separator :: others := by
        rintro piece others rfl
        exact hname (by simp)
      simp [parts_of_notMem hname, hnot, hrest]
    | cut piece others hpiece =>
      rw [parts_cut hpiece, List.forall₂_cons, ← ih]
      constructor
      · rintro ⟨piece', others', hname, hpiece', hmatches⟩
        obtain ⟨rfl, rfl⟩ := Text.cut_inj hpiece hpiece' hname
        exact hmatches
      · intro hmatches
        exact ⟨piece, others, rfl, hpiece, hmatches⟩

/-! ## What globs select -/

/-- No bracket of a part of a text is closed if none of the text is. -/
lemma Unbracketed.of_isInfix {glob part : List Char} (h : Unbracketed glob)
    (hpart : part <:+: glob) : Unbracketed part := by
  obtain ⟨left, right, rfl⟩ := hpart
  rintro before after rfl hclosed
  exact h (left ++ before) (after ++ right) (by simp) (List.mem_append_left right hclosed)

/-- The parts of a text stand in it. -/
lemma isInfix_of_mem_parts {text part : List Char} (h : part ∈ parts text) : part <:+: text := by
  induction text using parts_induction with
  | whole text htext =>
    rw [parts_of_notMem htext, List.mem_singleton] at h
    rw [h]
  | cut first rest hfirst ih =>
    rw [parts_cut hfirst, List.mem_cons] at h
    rcases h with rfl | h
    · exact ⟨[], separator :: rest, by simp⟩
    · exact (ih h).trans ⟨first ++ [separator], [], by simp⟩

/-- A part in which no bracket is closed compiles, and selects what its characters consume. -/
lemma exists_selects_iff {part : List Char} (h : Unbracketed part) (piece : List Char) :
    (∃ k, compile (String.ofList part) = .ok k ∧ k.selects (String.ofList piece) = true) ↔
      Consumes (part.map Token.ofChar) piece := by
  have hpart : Unbracketed (String.ofList part).toList := by simpa using h
  rw [compile_of_unbracketed hpart]
  simp [selects_iff]

/-- **A glob selects part by part.** A glob in which no bracket is closed compiles, and it selects
the names that have as many separators as the glob and of which each part is selected by the part of
the glob at its place, compiled as a glob of its own. -/
theorem selects_iff_parts {text : String} (h : Unbracketed text.toList) :
    ∃ g, compile text = .ok g ∧ ∀ name : String,
      g.selects name = true ↔
        text.toList.count separator = name.toList.count separator ∧
          List.Forall₂ (fun part piece => ∃ k, compile (String.ofList part) = .ok k ∧
            k.selects (String.ofList piece) = true) (parts text.toList) (parts name.toList) := by
  have hparts : ∀ part ∈ parts text.toList, Unbracketed part := by
    intro part hpart
    exact h.of_isInfix (isInfix_of_mem_parts hpart)
  refine ⟨_, compile_of_unbracketed h, fun name => ?_⟩
  rw [selects_iff, consumes_iff_parts]
  constructor
  · intro hmatches
    have hlength := hmatches.length_eq
    rw [length_parts, length_parts] at hlength
    refine ⟨by omega, ((List.forall₂_and_left _ _).2 ⟨hparts, hmatches⟩).imp ?_⟩
    rintro part piece ⟨hpart, hconsumes⟩
    exact (exists_selects_iff hpart piece).2 hconsumes
  · rintro ⟨-, hmatches⟩
    refine ((List.forall₂_and_left _ _).2 ⟨hparts, hmatches⟩).imp ?_
    rintro part piece ⟨hpart, hselects⟩
    exact (exists_selects_iff hpart piece).1 hselects

/-- No bracket is closed in a glob of two parts of which the second starts with an opening one. So
it selects names of two parts only, among them one that starts its second part likewise. -/
theorem selects_iff_parts_open_bracket :
    Unbracketed "T?_*/[RA*".toList ∧ ∃ g, compile "T?_*/[RA*" = .ok g ∧
      (∀ name : String, name.toList.count separator ≠ 1 → g.selects name = false) ∧
      g.selects "T2_A/[RAW" = true := by
  have h : Unbracketed "T?_*/[RA*".toList := by
    intro before after hglob hclosed
    have hmem : ']' ∈ "T?_*/[RA*".toList := by
      rw [hglob]
      exact List.mem_append_right before (List.mem_cons_of_mem '[' hclosed)
    exact absurd hmem (by decide)
  obtain ⟨g, hg, hselects⟩ := selects_iff_parts h
  refine ⟨h, g, hg, ?_, ?_⟩
  · intro name hname
    rw [Bool.eq_false_iff]
    intro hselected
    exact hname ((hselects name).1 hselected).1.symm
  · have hglob : parts "T?_*/[RA*".toList = ["T?_*".toList, "[RA*".toList] := by decide
    have hname : parts "T2_A/[RAW".toList = ["T2_A".toList, "[RAW".toList] := by decide
    rw [hselects, hglob, hname]
    refine ⟨by decide, .cons ⟨_, rfl, ?_⟩ (.cons ⟨_, rfl, ?_⟩ .nil)⟩
    · decide
    · decide

end ReplicaPolicy.Glob
