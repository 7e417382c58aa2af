import Mathlib.Data.List.Infix
import ReplicaPolicy.Glob.Syntax

set_option relaxedAutoImplicit false
set_option autoImplicit false

/-!
# What the body of a bracket lists

The body of a bracket is read from left to right. A character other than a hyphen, a hyphen and
one more character make a range; every other character stands for itself, and so does a hyphen
where a member starts (in front, after a range, at the end). An exclamation mark in front is no
member: it turns the class around. This file says so as a relation, and shows that the classes
are those of the relation wherever a body has no two hyphens in a row.

## Main definitions

* `ReplicaPolicy.Glob.Lists` — the members that a body lists, its mark aside.
* `ReplicaPolicy.Glob.listing`, `isMarked` — a body without its mark, and whether it has one.
* `ReplicaPolicy.Glob.WellWritten` — a body that writes a class.
* `ReplicaPolicy.Glob.Admits` — the characters for which a body stands.

## Main results

* `ReplicaPolicy.Glob.exists_lists`, `Lists.unique` — every body lists exactly one sequence of
  members.
* `ReplicaPolicy.Glob.unions?_append` — how members are read that end with the body or before a
  double hyphen.
* `ReplicaPolicy.Glob.isSome_classOf?_iff` — the bodies that write a class.
* `ReplicaPolicy.Glob.contains_classOf?_iff` — the characters of the class that a body writes.
-/

namespace ReplicaPolicy.Glob

/-! ## Members -/

/-- The members that a body lists in order. -/
inductive Lists : List Char → List Range → Prop
  /-- An empty body lists nothing. -/
  | nil : Lists [] []
  /-- A hyphen between two characters, the first of them no hyphen, makes a range. -/
  | range {x y : Char} {body : List Char} {rs : List Range} (start : x ≠ '-')
      (rest : Lists body rs) : Lists (x :: '-' :: y :: body) (⟨x, y⟩ :: rs)
  /-- A hyphen where a member starts, and a character that no range takes, stand alone. -/
  | single {c : Char} {body : List Char} {rs : List Range}
      (alone : c = '-' ∨ body.head? ≠ some '-' ∨ body = ['-']) (rest : Lists body rs) :
      Lists (c :: body) (.single c :: rs)

/-- Every body lists some members.

**Proof sketch.** Induction on the length of the body: it starts with a range or with a character
that stands alone, and what is left is shorter. -/
theorem exists_lists : ∀ body : List Char, ∃ rs, Lists body rs
  | [] => ⟨[], .nil⟩
  | [c] => ⟨[.single c], .single (.inr (.inl (by simp))) .nil⟩
  | [c, d] => by
    obtain ⟨rs, hrs⟩ := exists_lists [d]
    refine ⟨.single c :: rs, .single ?_ hrs⟩
    by_cases hd : d = '-'
    · exact .inr (.inr (by rw [hd]))
    · exact .inr (.inl (by simpa using hd))
  | c :: d :: e :: body => by
    obtain ⟨rs, hrs⟩ := exists_lists body
    obtain ⟨rs', hrs'⟩ := exists_lists (d :: e :: body)
    by_cases hc : c = '-'
    · exact ⟨.single c :: rs', .single (.inl hc) hrs'⟩
    · by_cases hd : d = '-'
      · subst hd
        exact ⟨⟨c, e⟩ :: rs, .range hc hrs⟩
      · exact ⟨.single c :: rs', .single (.inr (.inl (by simpa using hd))) hrs'⟩

/-- A body lists its members in one way only. -/
theorem Lists.unique {body : List Char} {rs rs' : List Range} (h : Lists body rs)
    (h' : Lists body rs') : rs = rs' := by
  induction h generalizing rs' with
  | nil =>
    cases h'
    rfl
  | range start _ ih =>
    cases h' with
    | range _ rest' => rw [ih rest']
    | single alone' _ => simp [start] at alone'
  | single alone _ ih =>
    cases h' with
    | range start' _ => simp [start'] at alone
    | single _ rest' => rw [ih rest']

/-! ## Bodies without two hyphens in a row -/

/-- Two hyphens stand in a row somewhere in a body. -/
def HasDoubleHyphen (body : List Char) : Prop :=
  ['-', '-'] <:+: body

/-- What comes after the first character of a body has no more double hyphens than the body. -/
lemma HasDoubleHyphen.cons {c : Char} {body : List Char} (h : HasDoubleHyphen body) :
    HasDoubleHyphen (c :: body) :=
  List.IsInfix.trans h (List.suffix_cons c body).isInfix

/-- After a hyphen, no hyphen follows. -/
lemma head?_ne_hyphen {body : List Char} (h : ¬HasDoubleHyphen ('-' :: body)) :
    body.head? ≠ some '-' := by
  intro hd
  obtain ⟨body, rfl⟩ : ∃ rest, body = '-' :: rest := by
    cases body with
    | nil => simp at hd
    | cons c rest => exact ⟨rest, by rw [Option.some.inj hd]⟩
  exact h ⟨[], body, rfl⟩

/-- The ends of every range are in order. -/
def Ordered (rs : List Range) : Prop :=
  ∀ r ∈ rs, r.low ≤ r.high

instance (rs : List Range) : Decidable (Ordered rs) :=
  inferInstanceAs (Decidable (∀ r ∈ rs, r.low ≤ r.high))

/-- A character that stands alone is a range in order. -/
lemma ordered_single_cons (c : Char) (rs : List Range) :
    Ordered (.single c :: rs) ↔ Ordered rs := by
  simp [Ordered, Range.single]

/-- The order of the ends is asked of the first range and of the others. -/
lemma ordered_cons (r : Range) (rs : List Range) :
    Ordered (r :: rs) ↔ r.low ≤ r.high ∧ Ordered rs := by
  simp [Ordered]

/-- A character is read on its own if no hyphen makes a pair with it and none makes a range of
it. -/
lemma unions?_single {c : Char} {cs : List Char} (hpair : c = '-' → cs.head? ≠ some '-')
    (hrange : ∀ d rest, cs = '-' :: d :: rest → d = '-') :
    unions? (c :: cs) = (unions? cs).map (addRange (.single c)) := by
  by_cases hd : ∃ d rest, cs = '-' :: d :: rest
  · obtain ⟨d, rest, rfl⟩ := hd
    obtain rfl := hrange d rest rfl
    have hc : c ≠ '-' := fun hc => hpair hc rfl
    exact (unions?.eq_3 c '-' rest hc).trans (if_pos rfl)
  · rw [unions?]
    · rintro rest rfl rfl
      exact hpair rfl rfl
    · rintro d rest rfl
      exact hd ⟨d, rest, rfl⟩

/-- Adds some ranges to the first of some unions. -/
def addRanges (rs : List Range) (unions : List (List Range)) : List (List Range) :=
  rs.foldr addRange unions

/-- Ranges are added to the first union in front of its own. -/
lemma addRanges_cons (rs first : List Range) (others : List (List Range)) :
    addRanges rs (first :: others) = (rs ++ first) :: others := by
  induction rs with
  | nil => rfl
  | cons r rs ih =>
    show addRange r (addRanges rs (first :: others)) = _
    rw [ih]
    rfl

/-- What a body without a double hyphen lists is added to the first union of what follows, if the
ends of its ranges are in order. Nothing follows, or a double hyphen does.

**Proof sketch.** Induction on the members. A range is told apart from a difference because no
hyphen follows its own; a hyphen that stands alone is followed by none either. -/
theorem unions?_append {body : List Char} {rs : List Range} (h : Lists body rs) {tail : List Char}
    (htail : tail = [] ∨ ∃ rest, tail = '-' :: '-' :: rest)
    (hd : ¬HasDoubleHyphen (body ++ tail.take 1)) :
    unions? (body ++ tail) = if Ordered rs then (unions? tail).map (addRanges rs) else none := by
  induction h with
  | nil =>
    rw [if_pos (by simp [Ordered]), List.nil_append]
    cases unions? tail <;> rfl
  | @range x y body rs start _ ih =>
    have hy : y ≠ '-' := by
      rintro rfl
      exact hd ⟨[x], body ++ tail.take 1, rfl⟩
    have hbody := ih fun h => hd h.cons.cons.cons
    rw [List.cons_append, List.cons_append, List.cons_append, unions?]
    · rw [if_neg (by simpa using hy), hbody]
      by_cases hxy : x ≤ y
      · by_cases ho : Ordered rs
        · rw [if_pos hxy, if_pos ho, if_pos ((ordered_cons _ _).2 ⟨hxy, ho⟩), Option.map_map]
          rfl
        · rw [if_pos hxy, if_neg ho, if_neg (fun h => ho ((ordered_cons _ _).1 h).2)]
          rfl
      · rw [if_neg hxy, if_neg (fun h => hxy ((ordered_cons _ _).1 h).1)]
    · exact start
  | @single c body rs alone _ ih =>
    have hbody := ih fun h => hd h.cons
    have hpair : c = '-' → (body ++ tail).head? ≠ some '-' := by
      rintro rfl hhead
      refine head?_ne_hyphen hd ?_
      cases body with
      | nil => rcases htail with rfl | ⟨rest, rfl⟩ <;> simp_all
      | cons d body => exact hhead
    have hrange : ∀ d rest, body ++ tail = '-' :: d :: rest → d = '-' := by
      intro d rest hcs
      have hc : c ≠ '-' := fun hc => hpair hc (by rw [hcs]; rfl)
      have hends : ∀ e rest, tail = e :: rest → e = '-' := by
        rintro e rest rfl
        rcases htail with htail | ⟨rest', htail⟩
        · exact absurd htail (by simp)
        · exact (List.cons.inj htail).1
      cases body with
      | nil =>
        rcases htail with rfl | ⟨rest', rfl⟩
        · exact absurd hcs (by simp)
        · exact (List.cons.inj (List.cons.inj hcs).2).1.symm
      | cons e body =>
        -- a hyphen that `c` does not take as its range is the last character of the body
        obtain ⟨rfl, hrest⟩ := List.cons.inj hcs
        obtain rfl : body = [] := by simpa [hc] using alone
        exact hends d rest hrest
    rw [List.cons_append, unions?_single hpair hrange, hbody]
    by_cases ho : Ordered rs
    · rw [if_pos ho, if_pos ((ordered_single_cons c rs).2 ho), Option.map_map]
      rfl
    · rw [if_neg ho, if_neg (fun h => ho ((ordered_single_cons c rs).1 h))]
      rfl

/-- A body without a double hyphen is read as one union, that of its members, if their ends are
in order. -/
theorem unions?_of_lists {body : List Char} {rs : List Range} (h : Lists body rs)
    (hd : ¬HasDoubleHyphen body) :
    unions? body = if Ordered rs then some [rs] else none := by
  have happend := unions?_append h (.inl rfl) (by simpa using hd)
  rw [List.append_nil] at happend
  rw [happend, show unions? [] = some [[]] from rfl, Option.map_some, addRanges_cons,
    List.append_nil]

/-! ## Classes -/

/-- The body of a bracket starts with the mark that turns its class around. -/
def isMarked (body : List Char) : Bool :=
  body.head? == some '!'

/-- The body of a bracket without the mark that turns its class around. -/
def listing : List Char → List Char
  | '!' :: body => body
  | body => body

/-- One of the members that a body lists holds the character. -/
def Listed (body : List Char) (c : Char) : Prop :=
  ∃ rs, Lists body rs ∧ ∃ r ∈ rs, r.low ≤ c ∧ c ≤ r.high

/-- What a body lists is what its members hold. -/
lemma listed_iff {body : List Char} {rs : List Range} (h : Lists body rs) (c : Char) :
    Listed body c ↔ rs.any (·.contains c) = true := by
  constructor
  · rintro ⟨rs', hrs', r, hr, hc⟩
    rw [hrs'.unique h] at hr
    exact List.any_eq_true.2 ⟨r, hr, by simpa [Range.contains] using hc⟩
  · intro hany
    obtain ⟨r, hr, hc⟩ := List.any_eq_true.1 hany
    exact ⟨rs, h, r, hr, by simpa [Range.contains] using hc⟩

/-- A body writes a class: something stands in it besides a mark, and no range that it lists ends
before it starts. -/
def WellWritten (body : List Char) : Prop :=
  body ≠ [] ∧ body ≠ ['!'] ∧ ∃ rs, Lists (listing body) rs ∧ Ordered rs

/-- A body stands for the characters that it lists or, behind a mark, for all others. -/
def Admits (body : List Char) (c : Char) : Prop :=
  if isMarked body then ¬Listed (listing body) c else Listed (listing body) c

/-- A class is read off its body by its mark and its listing. -/
lemma classOf?_eq (body : List Char) :
    classOf? body = plainClass? (isMarked body) (listing body) := by
  cases body with
  | nil => rfl
  | cons c cs =>
    by_cases hc : c = '!'
    · subst hc
      rfl
    · have hm : isMarked (c :: cs) = false := by simpa [isMarked] using hc
      rw [hm, classOf?, listing]
      · exact fun _ h => hc (List.cons.inj h).1
      · exact fun _ h => hc (List.cons.inj h).1

/-- A body has as many double hyphens without its mark as with it. -/
lemma not_hasDoubleHyphen_listing {body : List Char} (h : ¬HasDoubleHyphen body) :
    ¬HasDoubleHyphen (listing body) := by
  unfold listing
  split
  · exact fun hd => h hd.cons
  · exact h

/-- Something is listed unless the body is empty or nothing but a mark. -/
lemma listing_ne_nil_iff (body : List Char) : listing body ≠ [] ↔ body ≠ [] ∧ body ≠ ['!'] := by
  unfold listing
  split
  · simp
  · rename_i hb
    have hm : body ≠ ['!'] := fun h => hb [] h
    simp [hm]

/-- The class that a body without a double hyphen writes: its members, with nothing taken out. -/
lemma plainClass?_of_lists {body : List Char} {rs : List Range} (marked : Bool)
    (h : Lists body rs) (hd : ¬HasDoubleHyphen body) (hne : body ≠ []) :
    plainClass? marked body =
      if Ordered rs then some { negated := marked, included := rs, excluded := [] } else none := by
  have hne' : body.isEmpty = false := by simpa using hne
  unfold plainClass?
  rw [hne', if_neg (by simp)]
  cases h with
  | nil => exact absurd rfl hne
  | @range x y body rs start rest =>
    have ht : (x :: '-' :: y :: body).takeWhile (· == '-') = [] := by simp [start]
    have hw : (x :: '-' :: y :: body).dropWhile (· == '-') = x :: '-' :: y :: body := by
      simp [start]
    rw [ht, hw, unions?_of_lists (.range start rest) hd]
    split <;> rfl
  | @single c body rs alone rest =>
    by_cases hc : c = '-'
    · -- the one hyphen in front is set aside, and the members after it are read
      subst hc
      have hh := head?_ne_hyphen hd
      have ht : ('-' :: body).takeWhile (· == '-') = ['-'] := by
        cases body <;> simp_all
      have hw : ('-' :: body).dropWhile (· == '-') = body := by
        cases body <;> simp_all
      rw [ht, hw, unions?_of_lists rest (fun h => hd h.cons)]
      by_cases ho : Ordered rs
      · rw [if_pos ho, if_pos ((ordered_single_cons _ _).2 ho)]
        rfl
      · rw [if_neg ho, if_neg (fun h => ho ((ordered_single_cons _ _).1 h))]
        rfl
    · have ht : (c :: body).takeWhile (· == '-') = [] := by simp [hc]
      have hw : (c :: body).dropWhile (· == '-') = c :: body := by simp [hc]
      rw [ht, hw, unions?_of_lists (.single alone rest) hd]
      split <;> rfl

/-- A body without a double hyphen writes a class if and only if it is well written. -/
theorem isSome_classOf?_iff {body : List Char} (hd : ¬HasDoubleHyphen body) :
    (classOf? body).isSome = true ↔ WellWritten body := by
  rw [classOf?_eq]
  obtain ⟨rs, hrs⟩ := exists_lists (listing body)
  by_cases hne : listing body = []
  · have hw : ¬WellWritten body := fun h => (listing_ne_nil_iff body).2 ⟨h.1, h.2.1⟩ hne
    rw [hne]
    simpa [plainClass?] using hw
  · rw [plainClass?_of_lists _ hrs (not_hasDoubleHyphen_listing hd) hne]
    obtain ⟨h₀, h₁⟩ := (listing_ne_nil_iff body).1 hne
    constructor
    · intro h
      have ho : Ordered rs := by
        by_contra ho
        simp [ho] at h
      exact ⟨h₀, h₁, rs, hrs, ho⟩
    · rintro ⟨-, -, rs', hrs', ho⟩
      rw [hrs'.unique hrs] at ho
      rw [if_pos ho]
      rfl

/-- The class of a body without a double hyphen holds the characters for which the body
stands. -/
theorem contains_classOf?_iff {body : List Char} {k : CharClass} (hd : ¬HasDoubleHyphen body)
    (hk : classOf? body = some k) (c : Char) : k.contains c = true ↔ Admits body c := by
  obtain ⟨rs, hrs⟩ := exists_lists (listing body)
  obtain ⟨h₀, h₁, -⟩ := (isSome_classOf?_iff hd).1 (by rw [hk]; rfl)
  have hne : listing body ≠ [] := (listing_ne_nil_iff body).2 ⟨h₀, h₁⟩
  rw [classOf?_eq, plainClass?_of_lists _ hrs (not_hasDoubleHyphen_listing hd) hne] at hk
  obtain ⟨-, rfl⟩ : Ordered rs ∧ _ = k := by simpa using hk
  unfold Admits
  rw [listed_iff hrs]
  cases isMarked body <;> simp [CharClass.contains]

end ReplicaPolicy.Glob
