import ReplicaPolicy.Proofs.Glob.Grammar

set_option relaxedAutoImplicit false
set_option autoImplicit false

/-!
# Double hyphens in the body of a bracket

Hyphens in front of a body stand for themselves. Behind them, two hyphens in a row are no members:
they end a term of the body, and what the terms behind the first one list is taken out of what the
first one lists. So a bracket admits every character that is written in it other than a hyphen
exactly when nothing but hyphens stands behind a double hyphen that is not in front.

## Main definitions

* `ReplicaPolicy.Glob.Terms` — a body is cut into terms at its double hyphens, from the left.

## Main results

* `ReplicaPolicy.Glob.exists_terms` — every body is cut into terms.
* `ReplicaPolicy.Glob.mem_others_iff` — what stands in a term behind the first one stands behind a
  double hyphen.
* `ReplicaPolicy.Glob.unions?_of_terms` — a body is read term by term.
* `ReplicaPolicy.Glob.Lists.listed_of_mem` — a term lists the characters that stand in it.
* `ReplicaPolicy.Glob.selects_bracket` — what a bracket selects, and when this is all that stands
  in it.
-/

namespace ReplicaPolicy.Glob

/-! ## Terms -/

/-- A body is cut into terms at its double hyphens, from the left. -/
inductive Terms : List Char → List (List Char) → Prop
  /-- A body without a double hyphen is one term. -/
  | last {body : List Char} (whole : ¬HasDoubleHyphen body) : Terms body [body]
  /-- The first term ends where the first double hyphen starts. -/
  | cut {term rest : List Char} {terms : List (List Char)}
      (first : ¬HasDoubleHyphen (term ++ ['-'])) (others : Terms rest terms) :
      Terms (term ++ '-' :: '-' :: rest) (term :: terms)

/-- Every body is cut into terms.

**Proof sketch.** Strong induction on the length: behind the first double hyphen less is left. -/
theorem exists_terms (body : List Char) : ∃ first others, Terms body (first :: others) := by
  induction hn : body.length using Nat.strong_induction_on generalizing body with
  | _ n ih =>
    by_cases h : HasDoubleHyphen body
    · obtain ⟨term, rest, rfl, hfirst⟩ := Text.exists_first_isInfix (by decide) h
      have hlength : rest.length < n := by
        rw [← hn]
        simp only [List.length_append, List.length_cons]
        omega
      obtain ⟨_, _, hrest⟩ := ih rest.length hlength rest rfl
      exact ⟨term, _, .cut hfirst hrest⟩
    · exact ⟨body, [], .last h⟩

/-- All that stands in a body besides hyphens stands in its terms. -/
lemma mem_terms_iff {body : List Char} {terms : List (List Char)} (h : Terms body terms) {c : Char}
    (hc : c ≠ '-') : (∃ term ∈ terms, c ∈ term) ↔ c ∈ body := by
  induction h with
  | last => simp
  | cut _ _ ih => simp [ih, hc]

/-- No double hyphen of a body has more behind it than the first one.

**Proof sketch.** By where it starts. At or behind the first one it leaves a suffix of what the
first one leaves. Further left it would lie in what comes before the first one, together with one
hyphen of that. -/
lemma isSuffix_of_double {term rest before behind : List Char}
    (first : ¬HasDoubleHyphen (term ++ ['-']))
    (h : term ++ '-' :: '-' :: rest = before ++ '-' :: '-' :: behind) : behind <:+ rest := by
  rcases List.append_eq_append_iff.1 h with ⟨between, -, hrest⟩ | ⟨between, rfl, hbehind⟩
  · rcases between with _ | ⟨_, _ | ⟨_, between⟩⟩
    · obtain ⟨-, -, rfl⟩ : '-' = '-' ∧ '-' = '-' ∧ rest = behind := by simpa using hrest
      exact List.suffix_refl _
    · obtain ⟨-, rfl⟩ : _ ∧ rest = '-' :: behind := by simpa using hrest
      exact List.suffix_cons '-' behind
    · obtain ⟨-, -, rfl⟩ : _ ∧ _ ∧ rest = between ++ '-' :: '-' :: behind := by simpa using hrest
      exact ⟨between ++ ['-', '-'], by simp⟩
  · rcases between with _ | ⟨_, _ | ⟨_, between⟩⟩
    · obtain ⟨-, -, rfl⟩ : '-' = '-' ∧ '-' = '-' ∧ behind = rest := by simpa using hbehind
      exact List.suffix_refl _
    · obtain ⟨rfl, -⟩ : '-' = _ ∧ _ := by simpa using hbehind
      exact absurd ⟨before, [], by simp⟩ first
    · obtain ⟨rfl, rfl, -⟩ : '-' = _ ∧ '-' = _ ∧ _ := by simpa using hbehind
      exact absurd ⟨before, between ++ ['-'], by simp⟩ first

/-- What stands in a term behind the first one, besides hyphens, stands behind a double hyphen. -/
lemma mem_others_iff {body first : List Char} {others : List (List Char)}
    (h : Terms body (first :: others)) {c : Char} (hc : c ≠ '-') :
    (∃ term ∈ others, c ∈ term) ↔
      ∃ before behind, body = before ++ '-' :: '-' :: behind ∧ c ∈ behind := by
  cases h with
  | last whole =>
    constructor
    · rintro ⟨term, hterm, -⟩
      exact absurd hterm List.not_mem_nil
    · rintro ⟨before, behind, rfl, -⟩
      exact absurd ⟨before, behind, by simp⟩ whole
  | @cut _ rest _ hfirst hothers =>
    rw [mem_terms_iff hothers hc]
    constructor
    · intro hmem
      exact ⟨first, rest, rfl, hmem⟩
    · rintro ⟨before, behind, hbody, hmem⟩
      exact (isSuffix_of_double hfirst hbody).subset hmem

/-! ## What terms list -/

/-- A term lists the characters that stand in it, hyphens aside, if its ranges are in order. -/
theorem Lists.listed_of_mem {term : List Char} {rs : List Range} (h : Lists term rs)
    (ho : Ordered rs) {c : Char} (hc : c ≠ '-') (hmem : c ∈ term) : Listed term c := by
  refine ⟨rs, h, ?_⟩
  induction h with
  | nil => exact absurd hmem List.not_mem_nil
  | @range x y body rs _ _ ih =>
    obtain ⟨hxy, ho⟩ := (ordered_cons _ _).1 ho
    rw [List.mem_cons, List.mem_cons, List.mem_cons] at hmem
    rcases hmem with rfl | rfl | rfl | hmem
    · exact ⟨_, List.mem_cons_self, Char.le_refl _, hxy⟩
    · exact absurd rfl hc
    · exact ⟨_, List.mem_cons_self, hxy, Char.le_refl _⟩
    · obtain ⟨r, hr, hholds⟩ := ih ho hmem
      exact ⟨r, List.mem_cons_of_mem _ hr, hholds⟩
  | @single d body rs _ _ ih =>
    rcases List.mem_cons.1 hmem with rfl | hmem
    · exact ⟨_, List.mem_cons_self, Char.le_refl _, Char.le_refl _⟩
    · obtain ⟨r, hr, hholds⟩ := ih ((ordered_single_cons d rs).1 ho) hmem
      exact ⟨r, List.mem_cons_of_mem _ hr, hholds⟩

/-- A term of hyphens lists nothing but hyphens. -/
lemma Lists.eq_hyphen_of_listed {term : List Char} {c : Char} (h : Listed term c)
    (hhyphens : ∀ d ∈ term, d = '-') : c = '-' := by
  obtain ⟨rs, hrs, r, hr, hlow, hhigh⟩ := h
  induction hrs with
  | nil => exact absurd hr List.not_mem_nil
  | range start => exact absurd (hhyphens _ List.mem_cons_self) start
  | @single d body rs _ _ ih =>
    obtain rfl : d = '-' := hhyphens d List.mem_cons_self
    rcases List.mem_cons.1 hr with rfl | hr
    · exact Char.le_antisymm hhigh hlow
    · exact ih (fun e he => hhyphens e (List.mem_cons_of_mem _ he)) hr

/-! ## Reading term by term -/

section Members

variable {members : List Char → List Range} (hmembers : ∀ term, Lists term (members term))

include hmembers

/-- **A body is read term by term**, if the ranges of all terms are in order.

**Proof sketch.** Induction on the terms. What the first one lists is the first union, because the
double hyphen behind it starts another. -/
theorem unions?_of_terms {body : List Char} {terms : List (List Char)} (h : Terms body terms) :
    unions? body =
      if ∀ term ∈ terms, Ordered (members term) then some (terms.map members) else none := by
  induction h with
  | @last body whole => simpa using unions?_of_lists (hmembers body) whole
  | @cut term rest terms first _ ih =>
    have hdouble : unions? ('-' :: '-' :: rest) = (unions? rest).map ([] :: ·) := rfl
    rw [unions?_append (hmembers term) (.inr ⟨rest, rfl⟩) first, hdouble, ih]
    simp only [List.forall_mem_cons, List.map_cons]
    by_cases ho : Ordered (members term)
    · by_cases hos : ∀ other ∈ terms, Ordered (members other)
      · rw [if_pos ho, if_pos hos, if_pos ⟨ho, hos⟩, Option.map_some, Option.map_some,
          addRanges_cons, List.append_nil]
      · rw [if_pos ho, if_neg hos, if_neg fun h => hos h.2]
        rfl
    · rw [if_neg ho, if_neg fun h => ho h.1]

/-- A character is listed by one of some terms if the members of one hold it. -/
lemma any_flatMap_iff (terms : List (List Char)) (c : Char) :
    (terms.flatMap members).any (·.contains c) = true ↔ ∃ term ∈ terms, Listed term c := by
  simp only [List.any_flatMap, List.any_eq_true, listed_iff (hmembers _)]

/-! ## Classes -/

variable {body first : List Char} {others : List (List Char)}
  (h : Terms (body.dropWhile (· == '-')) (first :: others))

include h

/-- A body writes a class if it is not empty and the ranges of all its terms are in order. The class
holds the hyphens in front and the members of the first term, and the members of the other terms are
taken out of it. -/
lemma plainClass?_eq_some_iff (marked : Bool) {k : CharClass} :
    plainClass? marked body = some k ↔
      body ≠ [] ∧ (∀ term ∈ first :: others, Ordered (members term)) ∧
        { negated := marked
          included := (body.takeWhile (· == '-')).map .single ++ members first
          excluded := others.flatMap members } = k := by
  unfold plainClass?
  dsimp only
  rw [Option.ite_none_left_eq_some, List.isEmpty_iff, Option.map_eq_some_iff,
    unions?_of_terms hmembers h]
  simp only [Option.ite_none_right_eq_some, Option.some.injEq, and_assoc, exists_and_left,
    exists_eq_left']
  rfl

end Members

/-- A character is among some that stand alone if one of these holds it. -/
lemma any_map_single (cs : List Char) (c : Char) :
    (cs.map Range.single).any (·.contains c) = true ↔ c ∈ cs := by
  have hsingle : ∀ d, (Range.single d).contains c = true ↔ d = c := by
    intro d
    rw [Range.contains, Bool.and_eq_true, decide_eq_true_iff, decide_eq_true_iff]
    constructor
    · rintro ⟨hlow, hhigh⟩
      exact Char.le_antisymm hlow hhigh
    · rintro rfl
      exact ⟨Char.le_refl _, Char.le_refl _⟩
  simp [hsingle]

section Classes

variable {body first : List Char} {others : List (List Char)} {k : CharClass}
  (h : Terms (body.dropWhile (· == '-')) (first :: others))
  (hk : plainClass? false body = some k)

include h hk

/-- A body without a mark admits the hyphens in front and what the first term lists, but for what
the other terms list. -/
lemma contains_iff_of_terms (c : Char) :
    k.contains c = true ↔
      (c ∈ body.takeWhile (· == '-') ∨ Listed first c) ∧ ∀ term ∈ others, ¬Listed term c := by
  choose members hmembers using exists_lists
  obtain ⟨-, -, rfl⟩ := (plainClass?_eq_some_iff hmembers h false).1 hk
  have hexcluded : (others.flatMap members).any (·.contains c) = false ↔
      ∀ term ∈ others, ¬Listed term c := by
    rw [← Bool.not_eq_true, any_flatMap_iff hmembers]
    simp
  rw [CharClass.contains, Bool.false_bne, Bool.and_eq_true, List.any_append, Bool.or_eq_true,
    any_map_single, ← listed_iff (hmembers first), Bool.not_eq_true', hexcluded]

/-- A term of a body that writes a class lists the characters that stand in it, hyphens aside. -/
lemma listed_of_mem_term {term : List Char} (hterm : term ∈ first :: others) {c : Char}
    (hc : c ≠ '-') (hmem : c ∈ term) : Listed term c := by
  choose members hmembers using exists_lists
  obtain ⟨-, ho, -⟩ := (plainClass?_eq_some_iff hmembers h false).1 hk
  exact (hmembers term).listed_of_mem (ho term hterm) hc hmem

/-- **When a body admits all that stands in it**, hyphens aside: when nothing but hyphens stands
behind a double hyphen that is not in front.

**Proof sketch.** A character in a term behind the first one is listed there and taken out. If such
terms hold hyphens only, they list no other character, and all others are listed by the first
term. -/
theorem contains_all_iff :
    (∀ c ∈ body, c ≠ '-' → k.contains c = true) ↔
      ∀ before behind, body.dropWhile (· == '-') = before ++ '-' :: '-' :: behind →
        ∀ c ∈ behind, c = '-' := by
  have hothers : ∀ c ≠ '-', (∃ term ∈ others, c ∈ term) ↔ ∃ before behind,
      body.dropWhile (· == '-') = before ++ '-' :: '-' :: behind ∧ c ∈ behind :=
    fun c hc => mem_others_iff h hc
  constructor
  · intro hall before behind hbehind c hmem
    by_contra hc
    obtain ⟨term, hterm, hcterm⟩ := (hothers c hc).2 ⟨before, behind, hbehind, hmem⟩
    have hbody : c ∈ body := by
      apply (List.dropWhile_suffix (· == '-')).subset
      rw [hbehind]
      simp [hmem]
    have hout := ((contains_iff_of_terms h hk c).1 (hall c hbody hc)).2 term hterm
    exact hout (listed_of_mem_term h hk (List.mem_cons_of_mem first hterm) hc hcterm)
  · intro hbehind c hbody hc
    -- a term behind the first one holds nothing but hyphens
    have hhyphens : ∀ term ∈ others, ∀ d ∈ term, d = '-' := by
      intro term hterm d hd
      by_contra hne
      obtain ⟨before, behind, hcut, hmem⟩ := (hothers d hne).1 ⟨term, hterm, hd⟩
      exact hne (hbehind before behind hcut d hmem)
    have hinner : c ∈ body.dropWhile (· == '-') := by
      rw [← List.takeWhile_append_dropWhile (p := (· == '-')) (l := body), List.mem_append] at hbody
      refine hbody.resolve_left fun hfront => hc ?_
      simpa using List.mem_takeWhile_imp hfront
    obtain ⟨term, hterm, hmem⟩ := (mem_terms_iff h hc).2 hinner
    have hlisted : Listed first c := by
      rcases List.mem_cons.1 hterm with rfl | hterm
      · exact listed_of_mem_term h hk List.mem_cons_self hc hmem
      · exact absurd (hhyphens term hterm c hmem) hc
    refine (contains_iff_of_terms h hk c).2 ⟨.inr hlisted, fun term hterm hout => hc ?_⟩
    exact Lists.eq_hyphen_of_listed hout (hhyphens term hterm)

end Classes

/-! ## What a bracket selects -/

/-- A bracket that is a whole glob selects the names of one character that belongs to its class. -/
lemma selects_bracket_iff {body : List Char} (closed : ']' ∉ body) {g : Glob}
    (hg : compile (String.ofList ('[' :: body ++ [']'])) = .ok g) :
    ∃ k, classOf? body = some k ∧ ∀ name : String,
      g.selects name = true ↔ ∃ c, name.toList = [c] ∧ k.contains c = true := by
  obtain ⟨ts, hts, rfl⟩ := Option.map_eq_some_iff.1 (compile_eq_ok_iff.1 hg)
  rw [String.toList_ofList, tokensOf?_bracket [] closed] at hts
  obtain ⟨k, hk, hts⟩ := Option.bind_eq_some_iff.1 hts
  obtain rfl : [Token.oneOf k] = ts := by simpa [tokensOf?, tokensFrom?] using hts
  refine ⟨k, hk, fun name => ?_⟩
  rw [selects_iff, consumes_single rfl]
  simp only [consumes_nil_iff, Token.accepts]
  constructor
  · rintro ⟨c, _, hname, hc, rfl⟩
    exact ⟨c, hname, hc⟩
  · rintro ⟨c, hname, hc⟩
    exact ⟨c, [], hname, hc, rfl⟩

/-- **What a bracket selects.** A bracket without a mark that compiles selects the names of one
character that is a hyphen in front of its body, or listed by the first term behind these, and that
no other term lists. So it selects every character that stands in it, hyphens aside, if and only if
nothing but hyphens stands behind a double hyphen that is not in front. -/
theorem selects_bracket {body : List Char} (closed : ']' ∉ body) (unmarked : isMarked body = false)
    {g : Glob} (hg : compile (String.ofList ('[' :: body ++ [']'])) = .ok g) :
    (∃ first others, Terms (body.dropWhile (· == '-')) (first :: others) ∧
      ∀ name : String, g.selects name = true ↔
        ∃ c, name.toList = [c] ∧ (c ∈ body.takeWhile (· == '-') ∨ Listed first c) ∧
          ∀ term ∈ others, ¬Listed term c) ∧
    ((∀ c ∈ body, c ≠ '-' → g.selects (String.ofList [c]) = true) ↔
      ∀ before behind, body.dropWhile (· == '-') = before ++ '-' :: '-' :: behind →
        ∀ c ∈ behind, c = '-') := by
  obtain ⟨k, hk, hselects⟩ := selects_bracket_iff closed hg
  obtain ⟨first, others, h⟩ := exists_terms (body.dropWhile (· == '-'))
  have hlisting : listing body = body := by
    unfold listing
    split
    · exact absurd unmarked (by simp [isMarked])
    · rfl
  rw [classOf?_eq, unmarked, hlisting] at hk
  constructor
  · refine ⟨first, others, h, fun name => ?_⟩
    simp only [hselects, contains_iff_of_terms h hk]
  · rw [← contains_all_iff h hk]
    simp [hselects]

/-- In the body `--a-c&&` two hyphens stand in front and no others in a row. So the bracket selects
all that stands in it. -/
theorem selects_bracket_hyphens_in_front :
    ']' ∉ ['-', '-', 'a', '-', 'c', '&', '&'] ∧
      isMarked ['-', '-', 'a', '-', 'c', '&', '&'] = false ∧
      ∃ g, compile "[--a-c&&]" = .ok g ∧
        ∀ c ∈ ['-', '-', 'a', '-', 'c', '&', '&'], c ≠ '-' →
          g.selects (String.ofList [c]) = true := by
  have hclosed : ']' ∉ ['-', '-', 'a', '-', 'c', '&', '&'] := by decide
  obtain ⟨g, hg⟩ : ∃ g, compile "[--a-c&&]" = .ok g := ⟨_, rfl⟩
  have hapart : ¬['-', '-'] <:+: ['a', '-', 'c', '&', '&'] := by decide
  obtain ⟨-, hall⟩ := selects_bracket hclosed rfl hg
  refine ⟨hclosed, rfl, g, hg, hall.2 ?_⟩
  intro before behind hbehind
  exact absurd ⟨before, behind, by simpa using hbehind.symm⟩ hapart

/-- A bracket that compiles need not select all that stands in it: of `[a--b]`, the second term
takes out its own character. -/
theorem not_selects_bracket_behind_double_hyphen :
    ∃ g, compile "[a--b]" = .ok g ∧ ']' ∉ ['a', '-', '-', 'b'] ∧
      isMarked ['a', '-', '-', 'b'] = false ∧ 'b' ∈ ['a', '-', '-', 'b'] ∧
      g.selects "a" = true ∧ g.selects "b" = false :=
  ⟨_, rfl, by decide, rfl, by decide, by decide, by decide⟩

end ReplicaPolicy.Glob
