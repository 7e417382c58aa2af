import ReplicaPolicy.Proofs.Glob.Grammar

set_option relaxedAutoImplicit false
set_option autoImplicit false

/-!
# Globs without brackets

A glob can only fail to compile for one of its brackets. A glob in which no bracket is closed has
none, and writes one token for each of its characters. If it has no stars and question marks either,
it is a name, and selects nothing but this name.

## Main definitions

* `ReplicaPolicy.Glob.Unbracketed` — a text in which no opening bracket is closed later.
* `ReplicaPolicy.Glob.IsPlain` — a text that is a name as a glob.

## Main results

* `ReplicaPolicy.Glob.compile_of_unbracketed` — a glob in which no bracket is closed compiles.
* `ReplicaPolicy.Glob.selects_of_isPlain` — a name selects itself alone.
-/

namespace ReplicaPolicy.Glob

/-! ## Brackets that are never closed -/

/-- No opening bracket of a text is followed later by a closing one. -/
def Unbracketed (glob : List Char) : Prop :=
  ∀ before after, glob = before ++ '[' :: after → ']' ∉ after

/-- No bracket of a text is closed if its first character opens none and no later one is closed. -/
lemma unbracketed_cons {c : Char} {glob : List Char} :
    Unbracketed (c :: glob) ↔ StandsAlone c glob ∧ Unbracketed glob := by
  constructor
  · intro h
    constructor
    · rintro rfl
      exact h [] glob rfl
    · intro before after hglob
      exact h (c :: before) after (congrArg (c :: ·) hglob)
  · rintro ⟨halone, h⟩ before after hglob
    cases before with
    | nil =>
      obtain ⟨rfl, rfl⟩ := List.cons.inj hglob
      exact halone rfl
    | cons d before => exact h before after (List.cons.inj hglob).2

/-- There is no bracket to close in a text without opening brackets. -/
lemma unbracketed_of_no_bracket {glob : List Char} (h : '[' ∉ glob) : Unbracketed glob := by
  rintro before after rfl
  exact absurd (by simp) h

/-- A text in which no bracket is closed writes one token for each character. -/
lemma tokensOf?_of_unbracketed {glob : List Char} (h : Unbracketed glob) :
    tokensOf? glob = some (glob.map Token.ofChar) := by
  induction glob with
  | nil => rfl
  | cons c glob ih =>
    obtain ⟨halone, hglob⟩ := unbracketed_cons.1 h
    rw [tokensOf?_cons halone, ih hglob]
    rfl

/-- **A glob in which no bracket is closed compiles.** -/
theorem compile_of_unbracketed {text : String} (h : Unbracketed text.toList) :
    compile text = .ok ⟨text, text.toList.map Token.ofChar⟩ := by
  rw [compile_eq_ok_iff, ofText?, tokensOf?_of_unbracketed h]
  rfl

/-- A glob without brackets compiles. -/
theorem compile_of_no_bracket {text : String} (h : '[' ∉ text.toList) :
    compile text = .ok ⟨text, text.toList.map Token.ofChar⟩ :=
  compile_of_unbracketed (unbracketed_of_no_bracket h)

/-! ## Names -/

/-- A text that as a glob is a name: it has no character that could stand for others. -/
def IsPlain (glob : List Char) : Prop :=
  ∀ c ∈ glob, c ≠ '*' ∧ c ≠ '?' ∧ c ≠ '['

/-- A name consumes itself alone.

**Proof sketch.** Induction on the glob: each of its characters consumes itself. -/
lemma consumes_of_isPlain {glob : List Char} (h : IsPlain glob) (name : List Char) :
    consumes (glob.map Token.ofChar) name = true ↔ name = glob := by
  induction glob generalizing name with
  | nil => cases name <;> simp [consumes_nil_nil, consumes_nil_cons]
  | cons c glob ih =>
    obtain ⟨hstar, hquestion, -⟩ := h c List.mem_cons_self
    have hc : Token.ofChar c = .literal c := by simp [Token.ofChar, hstar, hquestion]
    have hrest : IsPlain glob := fun d hd => h d (List.mem_cons_of_mem c hd)
    rw [List.map_cons, hc]
    cases name with
    | nil => simp [consumes_cons_nil, Token.isRun]
    | cons d name =>
      rw [consumes_cons_cons, if_neg (by simp [Token.isRun]), Bool.and_eq_true, ih hrest]
      simp [Token.accepts]

/-- **A name that is compiled selects itself alone.** -/
theorem selects_of_isPlain {text : String} (h : IsPlain text.toList) :
    ∃ g, compile text = .ok g ∧ ∀ name, g.selects name = (name == text) := by
  have hbracket : '[' ∉ text.toList := fun hm => (h '[' hm).2.2 rfl
  refine ⟨_, compile_of_no_bracket hbracket, fun name => ?_⟩
  rw [Bool.eq_iff_iff, selects, consumes_of_isPlain h, beq_iff_eq, String.toList_inj]

end ReplicaPolicy.Glob
