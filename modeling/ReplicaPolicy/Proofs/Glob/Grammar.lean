import Mathlib.Data.List.Basic
import ReplicaPolicy.Proofs.Glob.Body
import ReplicaPolicy.Proofs.Text.Words

set_option relaxedAutoImplicit false
set_option autoImplicit false

/-!
# What a glob selects, read off its text

A glob consumes a name from left to right: a star a run within a part of the name, a question mark
one character within a part, a closed bracket one character for which its body stands, and every
other character itself. This file says so on the text of the glob, without tokens, and shows that
compiling and matching agree with it.

## Main definitions

* `ReplicaPolicy.Glob.StandsAlone` — a character of a glob that opens no bracket.
* `ReplicaPolicy.Glob.HasBody` — the bodies of the brackets of a glob.
* `ReplicaPolicy.Glob.Fits` — the glob consumes a name.

## Main results

* `ReplicaPolicy.Glob.text_induction` — a glob is empty, or starts with a character that opens no
  bracket, or with a bracket.
* `ReplicaPolicy.Glob.isSome_tokensOf?_iff` — the texts that write tokens.
* `ReplicaPolicy.Glob.consumes_iff_fits` — the tokens consume what the text fits.
* `ReplicaPolicy.Glob.compiles_and_selects_iff` — which globs compile, and what they select.

## Design

Both sides are taken apart along the text. For each of its three shapes one lemma says what the
tokens are, what the bodies are, and what the text fits; the results follow by `text_induction`.
-/

namespace ReplicaPolicy.Glob

/-! ## The text of a glob -/

/-- The first character of a glob opens no bracket: it is no opening bracket, or none that is
closed later. -/
def StandsAlone (c : Char) (glob : List Char) : Prop :=
  c = '[' → ']' ∉ glob

/-- The bodies of the brackets of a glob. -/
inductive HasBody : List Char → List Char → Prop
  /-- A bracket runs to the first closing one. -/
  | here {body glob : List Char} (closed : ']' ∉ body) : HasBody ('[' :: body ++ ']' :: glob) body
  /-- A bracket further on, after a bracket. -/
  | after {body glob other : List Char} (closed : ']' ∉ body) (rest : HasBody glob other) :
      HasBody ('[' :: body ++ ']' :: glob) other
  /-- A bracket further on, after a character that opens none. -/
  | later {c : Char} {glob other : List Char} (alone : StandsAlone c glob)
      (rest : HasBody glob other) : HasBody (c :: glob) other

/-- The glob consumes a whole name, both read from left to right. -/
inductive Fits : List Char → List Char → Prop
  /-- An empty glob consumes the empty name. -/
  | done : Fits [] []
  /-- A star consumes a run of characters other than the separator, which may be empty. -/
  | star {glob run name : List Char} (inside : separator ∉ run) (rest : Fits glob name) :
      Fits ('*' :: glob) (run ++ name)
  /-- A question mark consumes one character other than the separator. -/
  | question {c : Char} {glob name : List Char} (inside : c ≠ separator) (rest : Fits glob name) :
      Fits ('?' :: glob) (c :: name)
  /-- A bracket consumes one character for which its body stands. -/
  | bracket {body glob name : List Char} {c : Char} (closed : ']' ∉ body) (admitted : Admits body c)
      (rest : Fits glob name) : Fits ('[' :: body ++ ']' :: glob) (c :: name)
  /-- Every other character consumes itself. -/
  | itself {c : Char} {glob name : List Char} (notStar : c ≠ '*') (notQuestion : c ≠ '?')
      (alone : StandsAlone c glob) (rest : Fits glob name) : Fits (c :: glob) (c :: name)

/-- A closed bracket does not stand alone. -/
lemma not_standsAlone_bracket (body glob : List Char) :
    ¬StandsAlone '[' (body ++ ']' :: glob) :=
  fun h => h rfl (by simp)

/-- A glob is empty, or it starts with a character that opens no bracket, or with a bracket.

**Proof sketch.** Strong induction on the length. An opening bracket that is closed later has the
characters up to the first closing one as its body. -/
@[elab_as_elim]
theorem text_induction {motive : List Char → Prop} (nil : motive [])
    (alone : ∀ c glob, StandsAlone c glob → motive glob → motive (c :: glob))
    (bracket : ∀ body glob, ']' ∉ body → motive glob → motive ('[' :: body ++ ']' :: glob))
    (glob : List Char) : motive glob := by
  induction hn : glob.length using Nat.strong_induction_on generalizing glob with
  | _ n ih =>
    cases glob with
    | nil => exact nil
    | cons c cs =>
      by_cases ha : StandsAlone c cs
      · exact alone c cs ha (ih cs.length (by rw [← hn]; simp) cs rfl)
      · obtain ⟨rfl, hm⟩ : c = '[' ∧ ']' ∈ cs := by
          unfold StandsAlone at ha
          push Not at ha
          exact ha
        obtain ⟨body, rest, rfl, hb⟩ := List.eq_append_cons_of_mem hm
        refine bracket body rest hb (ih rest.length ?_ rest rfl)
        rw [← hn]
        simp only [List.length_cons, List.length_append]
        omega

/-! ## Tokens along the text -/

/-- A character that opens no bracket writes its own token. -/
lemma tokensOf?_cons {c : Char} {glob : List Char} (h : StandsAlone c glob) :
    tokensOf? (c :: glob) = (tokensOf? glob).map (Token.ofChar c :: ·) := by
  have hc : (c == '[' && glob.contains ']') = false := by
    by_cases hc : c = '['
    · simpa [hc] using h hc
    · simp [hc]
  rw [tokensOf?, tokensFrom?, hc, if_neg (by simp)]
  rfl

/-- Within a bracket, characters are gathered up to the first closing one. -/
lemma tokensFrom?_body (body glob : List Char) (closed : ']' ∉ body) (before : List Char) :
    tokensFrom? (some before) (body ++ ']' :: glob) =
      (classOf? (before ++ body)).bind fun k => (tokensOf? glob).map (Token.oneOf k :: ·) := by
  induction body generalizing before with
  | nil =>
    rw [List.nil_append, List.append_nil, tokensFrom?, if_pos (by simp)]
    rfl
  | cons c body ih =>
    have hc : c ≠ ']' := fun h => closed (by simp [h])
    have hb : ']' ∉ body := fun h => closed (List.mem_cons_of_mem _ h)
    rw [List.cons_append, tokensFrom?, if_neg (by simpa using hc), ih hb, List.append_assoc]
    rfl

/-- A bracket writes the class of its body. -/
lemma tokensOf?_bracket {body : List Char} (glob : List Char) (closed : ']' ∉ body) :
    tokensOf? ('[' :: body ++ ']' :: glob) =
      (classOf? body).bind fun k => (tokensOf? glob).map (Token.oneOf k :: ·) := by
  rw [List.cons_append, tokensOf?, tokensFrom?, if_pos (by simp), tokensFrom?_body _ _ closed]
  rfl

/-! ## Bodies along the text -/

/-- An empty glob has no bracket. -/
lemma not_hasBody_nil (body : List Char) : ¬HasBody [] body :=
  nofun

/-- A character that opens no bracket adds no body. -/
lemma hasBody_cons {c : Char} {glob : List Char} (h : StandsAlone c glob) (body : List Char) :
    HasBody (c :: glob) body ↔ HasBody glob body := by
  constructor
  · intro hb
    cases hb with
    | here closed => exact absurd h (not_standsAlone_bracket _ _)
    | after closed rest => exact absurd h (not_standsAlone_bracket _ _)
    | later _ rest => exact rest
  · exact .later h

/-- A bracket adds its body. -/
lemma hasBody_bracket {body : List Char} (glob : List Char) (closed : ']' ∉ body)
    (other : List Char) :
    HasBody ('[' :: body ++ ']' :: glob) other ↔ other = body ∨ HasBody glob other := by
  constructor
  · intro h
    generalize ht : '[' :: body ++ ']' :: glob = text at h
    cases h with
    | here closed' =>
      obtain ⟨rfl, rfl⟩ := Text.cut_inj closed closed' (List.cons.inj ht).2
      exact .inl rfl
    | after closed' rest =>
      obtain ⟨rfl, rfl⟩ := Text.cut_inj closed closed' (List.cons.inj ht).2
      exact .inr rest
    | later alone rest =>
      obtain ⟨rfl, rfl⟩ := List.cons.inj ht
      exact absurd alone (not_standsAlone_bracket _ _)
  · rintro (rfl | h)
    · exact .here closed
    · exact .after closed h

/-! ## Names along the text -/

/-- An empty glob consumes only the empty name. -/
lemma fits_nil (name : List Char) : Fits [] name ↔ name = [] := by
  constructor
  · intro h
    cases h
    rfl
  · rintro rfl
    exact .done

/-- A star consumes a run within a part of the name. -/
lemma fits_star (glob name : List Char) :
    Fits ('*' :: glob) name ↔
      ∃ run rest, name = run ++ rest ∧ separator ∉ run ∧ Fits glob rest := by
  constructor
  · intro h
    cases h with
    | star inside rest => exact ⟨_, _, rfl, inside, rest⟩
    | itself notStar => exact absurd rfl notStar
  · rintro ⟨run, rest, rfl, inside, h⟩
    exact .star inside h

/-- A question mark consumes one character within a part of the name. -/
lemma fits_question (glob name : List Char) :
    Fits ('?' :: glob) name ↔ ∃ c rest, name = c :: rest ∧ c ≠ separator ∧ Fits glob rest := by
  constructor
  · intro h
    cases h with
    | question inside rest => exact ⟨_, _, rfl, inside, rest⟩
    | itself _ notQuestion => exact absurd rfl notQuestion
  · rintro ⟨c, rest, rfl, inside, h⟩
    exact .question inside h

/-- A character that opens no bracket, and is neither a star nor a question mark, consumes
itself. -/
lemma fits_itself {c : Char} {glob : List Char} (notStar : c ≠ '*') (notQuestion : c ≠ '?')
    (alone : StandsAlone c glob) (name : List Char) :
    Fits (c :: glob) name ↔ ∃ rest, name = c :: rest ∧ Fits glob rest := by
  constructor
  · intro h
    cases h with
    | star => exact absurd rfl notStar
    | question => exact absurd rfl notQuestion
    | bracket => exact absurd alone (not_standsAlone_bracket _ _)
    | itself _ _ _ rest => exact ⟨_, rfl, rest⟩
  · rintro ⟨rest, rfl, h⟩
    exact .itself notStar notQuestion alone h

/-- A bracket consumes one character for which its body stands. -/
lemma fits_bracket {body : List Char} (glob : List Char) (closed : ']' ∉ body)
    (name : List Char) :
    Fits ('[' :: body ++ ']' :: glob) name ↔
      ∃ c rest, name = c :: rest ∧ Admits body c ∧ Fits glob rest := by
  constructor
  · intro h
    generalize ht : '[' :: body ++ ']' :: glob = text at h
    cases h with
    | done => simp at ht
    | star => simp at ht
    | question => simp at ht
    | bracket closed' admitted rest =>
      obtain ⟨rfl, rfl⟩ := Text.cut_inj closed closed' (List.cons.inj ht).2
      exact ⟨_, _, rfl, admitted, rest⟩
    | itself _ _ alone =>
      obtain ⟨rfl, rfl⟩ := List.cons.inj ht
      exact absurd alone (not_standsAlone_bracket _ _)
  · rintro ⟨c, rest, rfl, admitted, h⟩
    exact .bracket closed admitted h

/-! ## Tokens and names -/

/-- No tokens consume only the empty name. -/
lemma consumes_nil_iff (name : List Char) : Consumes [] name ↔ name = [] := by
  constructor
  · intro h
    cases h
    rfl
  · rintro rfl
    exact .done

/-- A token that is no run consumes one character that it accepts. -/
lemma consumes_single {t : Token} (single : t.isRun = false) (ts : List Token)
    (name : List Char) :
    Consumes (t :: ts) name ↔
      ∃ c rest, name = c :: rest ∧ t.accepts c = true ∧ Consumes ts rest := by
  constructor
  · intro h
    cases h with
    | one _ accepted rest => exact ⟨_, _, rfl, accepted, rest⟩
    | skip => simp [Token.isRun] at single
    | more => simp [Token.isRun] at single
  · rintro ⟨c, rest, rfl, accepted, h⟩
    exact .one single accepted h

/-- A run consumes characters other than the separator.

**Proof sketch.** The run of a derivation is gathered from its steps, by induction on the name;
conversely the steps are made along the run. -/
lemma consumes_anyRun (ts : List Token) (name : List Char) :
    Consumes (.anyRun :: ts) name ↔
      ∃ run rest, name = run ++ rest ∧ separator ∉ run ∧ Consumes ts rest := by
  constructor
  · intro h
    induction name with
    | nil =>
      cases h with
      | skip rest => exact ⟨[], [], rfl, by simp, rest⟩
    | cons c name ih =>
      cases h with
      | one single => simp [Token.isRun] at single
      | skip rest => exact ⟨[], c :: name, rfl, by simp, rest⟩
      | more inside rest =>
        obtain ⟨run, left, rfl, hr, h⟩ := ih rest
        refine ⟨c :: run, left, rfl, ?_, h⟩
        simp [hr, Ne.symm inside]
  · rintro ⟨run, rest, rfl, hr, h⟩
    induction run with
    | nil => exact .skip h
    | cons c run ih =>
      have hc : c ≠ separator := fun e => hr (by simp [e])
      exact .more hc (ih fun hm => hr (List.mem_cons_of_mem _ hm))

/-- No body of a bracket of the glob has two hyphens in a row. -/
def HyphensApart (glob : List Char) : Prop :=
  ∀ body, HasBody glob body → ¬HasDoubleHyphen body

/-- A glob writes tokens if and only if the bodies of its brackets are well written. -/
theorem isSome_tokensOf?_iff {glob : List Char} (h : HyphensApart glob) :
    (tokensOf? glob).isSome = true ↔ ∀ body, HasBody glob body → WellWritten body := by
  induction glob using text_induction with
  | nil => exact ⟨fun _ body hb => absurd hb (not_hasBody_nil body), fun _ => rfl⟩
  | alone c glob alone ih =>
    have h' : HyphensApart glob := fun body hb => h body (.later alone hb)
    rw [tokensOf?_cons alone, Option.isSome_map, ih h']
    simp only [hasBody_cons alone]
  | bracket body glob closed ih =>
    have h' : HyphensApart glob := fun other hb => h other (.after closed hb)
    have hw := isSome_classOf?_iff (h body (.here closed))
    simp only [hasBody_bracket glob closed, forall_eq_or_imp, ← hw, ← ih h']
    rw [tokensOf?_bracket glob closed]
    cases classOf? body <;> simp

/-- The token of a character that stands alone consumes what the character itself consumes, given
that this holds for what comes after. -/
lemma consumes_ofChar_iff {c : Char} {glob : List Char} {ts : List Token}
    (alone : StandsAlone c glob) (h : ∀ name, Consumes ts name ↔ Fits glob name)
    (name : List Char) : Consumes (.ofChar c :: ts) name ↔ Fits (c :: glob) name := by
  by_cases hs : c = '*'
  · subst hs
    rw [show Token.ofChar '*' = .anyRun from rfl, consumes_anyRun, fits_star]
    simp only [h]
  · by_cases hq : c = '?'
    · subst hq
      rw [show Token.ofChar '?' = .anyChar from rfl, consumes_single rfl, fits_question]
      simp only [h, Token.accepts, bne_iff_ne]
    · have ht : Token.ofChar c = .literal c := by simp [Token.ofChar, hs, hq]
      rw [ht, consumes_single rfl, fits_itself hs hq alone]
      simp only [h, Token.accepts, beq_iff_eq]
      constructor
      · rintro ⟨d, rest, rfl, rfl, hr⟩
        exact ⟨rest, rfl, hr⟩
      · rintro ⟨rest, rfl, hr⟩
        exact ⟨c, rest, rfl, rfl, hr⟩

/-- The tokens of a glob consume the names that its text fits.

**Proof sketch.** Induction on the shape of the text. A character that stands alone and a bracket
each add one token, and that token consumes what the grammar says of them. -/
theorem consumes_iff_fits {glob : List Char} (h : HyphensApart glob) {ts : List Token}
    (ht : tokensOf? glob = some ts) (name : List Char) : Consumes ts name ↔ Fits glob name := by
  induction glob using text_induction generalizing ts name with
  | nil =>
    obtain rfl : [] = ts := by simpa [tokensOf?, tokensFrom?] using ht
    rw [fits_nil, consumes_nil_iff]
  | alone c glob alone ih =>
    have h' : HyphensApart glob := fun body hb => h body (.later alone hb)
    rw [tokensOf?_cons alone] at ht
    obtain ⟨ts, hts, rfl⟩ := Option.map_eq_some_iff.1 ht
    exact consumes_ofChar_iff alone (fun name => ih h' hts name) name
  | bracket body glob closed ih =>
    have h' : HyphensApart glob := fun other hb => h other (.after closed hb)
    rw [tokensOf?_bracket glob closed] at ht
    obtain ⟨k, hk, ht⟩ := Option.bind_eq_some_iff.1 ht
    obtain ⟨ts, hts, rfl⟩ := Option.map_eq_some_iff.1 ht
    have hc := contains_classOf?_iff (h body (.here closed)) hk
    rw [consumes_single rfl, fits_bracket glob closed]
    simp only [Token.accepts, hc, ih h' hts]

/-- **Globs mean what their text says.** A glob whose brackets have no two hyphens in a row
compiles if and only if each of its brackets is well written: it has a body besides a mark, and no
range that ends before it starts. Once compiled it selects the names that its text consumes as a
whole. -/
theorem compiles_and_selects_iff {text : String} (h : HyphensApart text.toList) :
    ((∃ g, compile text = .ok g) ↔ ∀ body, HasBody text.toList body → WellWritten body) ∧
      ∀ g, compile text = .ok g →
        ∀ name : String, g.selects name = true ↔ Fits text.toList name.toList := by
  constructor
  · rw [← isSome_tokensOf?_iff h]
    simp only [compile_eq_ok_iff, ofText?, Option.map_eq_some_iff, Option.isSome_iff_exists]
    constructor
    · rintro ⟨g, ts, hts, -⟩
      exact ⟨ts, hts⟩
    · rintro ⟨ts, hts⟩
      exact ⟨_, ts, hts, rfl⟩
  · intro g hg name
    obtain ⟨ts, hts, rfl⟩ := Option.map_eq_some_iff.1 (compile_eq_ok_iff.1 hg)
    rw [selects_iff]
    exact consumes_iff_fits h hts name.toList

/-- The glob `T[!1-3]_*` has one bracket, in which hyphens stand apart; it compiles and selects
what its text fits. -/
theorem compiles_and_selects_marked_range :
    HyphensApart "T[!1-3]_*".toList ∧
      ((∃ g, compile "T[!1-3]_*" = .ok g) ↔
        ∀ body, HasBody "T[!1-3]_*".toList body → WellWritten body) ∧
      ∀ g, compile "T[!1-3]_*" = .ok g →
        ∀ name : String, g.selects name = true ↔ Fits "T[!1-3]_*".toList name.toList := by
  have h : HyphensApart "T[!1-3]_*".toList := by
    intro body hb
    have ht : "T[!1-3]_*".toList =
        'T' :: ('[' :: ['!', '1', '-', '3'] ++ ']' :: ['_', '*']) := rfl
    rw [ht, hasBody_cons (by simp [StandsAlone]), hasBody_bracket _ (by decide),
      hasBody_cons (by simp [StandsAlone]), hasBody_cons (by simp [StandsAlone])] at hb
    obtain rfl := hb.resolve_right (not_hasBody_nil body)
    rintro ⟨before, after, e⟩
    rcases before with _ | ⟨_, _ | ⟨_, _ | ⟨_, _ | ⟨_, before⟩⟩⟩⟩ <;> simp at e
  exact ⟨h, compiles_and_selects_iff h⟩

end ReplicaPolicy.Glob
