set_option relaxedAutoImplicit false
set_option autoImplicit false

/-!
# Globs

A glob selects site and dataset names. It is a sequence of tokens, and it matches a name when the
tokens, taken from left to right, consume the whole name: a star any run of characters other than
the separator `/`, every other token exactly one character.

## Main definitions

* `ReplicaPolicy.Glob.CharClass` — a set of characters written between brackets.
* `ReplicaPolicy.Glob.Token` — what stands for a part of a name.
* `ReplicaPolicy.Glob.Consumes` — the tokens consume a name.
* `ReplicaPolicy.Glob.consumes` — the same, decided.

## Main results

* `ReplicaPolicy.Glob.consumes_iff` — the decision is right.
-/

namespace ReplicaPolicy.Glob

/-- The character that separates the parts of a name. -/
def separator : Char := '/'

/-! ## Character classes -/

/-- A member of a class: all characters from one to another, both included. A character that
stands alone is the range from itself to itself. -/
structure Range where
  /-- The first character. -/
  low : Char
  /-- The last character. -/
  high : Char
  deriving DecidableEq, Repr

/-- Whether a character lies in a range. -/
def Range.contains (r : Range) (c : Char) : Bool :=
  r.low ≤ c && c ≤ r.high

/-- A set of characters: some ranges without others, or the complement of such a set. -/
structure CharClass where
  /-- The class holds the characters outside the set. -/
  negated : Bool
  /-- The ranges of the set. -/
  included : List Range
  /-- The ranges that are taken out of the set. -/
  excluded : List Range
  deriving DecidableEq, Repr

/-- Whether a character belongs to a class. -/
def CharClass.contains (k : CharClass) (c : Char) : Bool :=
  k.negated != (k.included.any (·.contains c) && !k.excluded.any (·.contains c))

/-! ## Tokens -/

/-- What stands for a part of a name. -/
inductive Token where
  /-- The character itself. -/
  | literal (c : Char)
  /-- Any one character other than the separator. -/
  | anyChar
  /-- Any run of characters other than the separator. -/
  | anyRun
  /-- Any one character of a class. -/
  | oneOf (k : CharClass)
  deriving DecidableEq, Repr

/-- Whether a token can consume a character: the whole of what it stands for, or a part of a run. -/
def Token.accepts : Token → Char → Bool
  | .literal d, c => c == d
  | .anyChar, c => c != separator
  | .anyRun, c => c != separator
  | .oneOf k, c => k.contains c

/-- Whether a token stands for a run. -/
def Token.isRun : Token → Bool
  | .anyRun => true
  | _ => false

/-- The tokens consume a name from left to right. -/
inductive Consumes : List Token → List Char → Prop
  /-- No tokens consume the empty name. -/
  | done : Consumes [] []
  /-- A token that is no run consumes one character that it accepts. -/
  | one {t : Token} {ts : List Token} {c : Char} {cs : List Char} (single : t.isRun = false)
      (accepted : t.accepts c = true) (rest : Consumes ts cs) : Consumes (t :: ts) (c :: cs)
  /-- A run may be empty. -/
  | skip {ts : List Token} {cs : List Char} (rest : Consumes ts cs) : Consumes (.anyRun :: ts) cs
  /-- A run may go on over a character that is not the separator. -/
  | more {ts : List Token} {c : Char} {cs : List Char} (inside : c ≠ separator)
      (rest : Consumes (.anyRun :: ts) cs) : Consumes (.anyRun :: ts) (c :: cs)

/-! ## Deciding

The suffixes of a name, from the name itself to the empty one, are decided together: a row of
answers for the tokens that follow gives the row for one token more. -/

/-- The row for a token in front, from the row for the tokens after it. -/
def Token.row (t : Token) : List Char → List Bool → List Bool
  | [], later => [t.isRun && later.headD false]
  | c :: cs, later =>
    let rest := t.row cs later.tail
    (if t.isRun then later.headD false || (t.accepts c && rest.headD false)
      else t.accepts c && later.tail.headD false) :: rest

/-- The row for no tokens: of all suffixes only the empty one is consumed. -/
def lastRow : List Char → List Bool
  | [] => [true]
  | _ :: cs => false :: lastRow cs

/-- Which suffixes of the name the tokens consume, the name itself first. -/
def rows (ts : List Token) (name : List Char) : List Bool :=
  ts.foldr (fun t later => t.row name later) (lastRow name)

/-- Whether the tokens consume the name. -/
def consumes (ts : List Token) (name : List Char) : Bool :=
  (rows ts name).headD false

theorem tail_row (t : Token) (c : Char) (cs : List Char) (later : List Bool) :
    (t.row (c :: cs) later).tail = t.row cs later.tail := rfl

theorem tail_rows (ts : List Token) (c : Char) (cs : List Char) :
    (rows ts (c :: cs)).tail = rows ts cs := by
  induction ts with
  | nil => rfl
  | cons t ts ih =>
    change (t.row (c :: cs) (rows ts (c :: cs))).tail = t.row cs (rows ts cs)
    rw [tail_row, ih]

theorem consumes_nil_nil : consumes [] [] = true := rfl

theorem consumes_nil_cons (c : Char) (cs : List Char) : consumes [] (c :: cs) = false := rfl

theorem consumes_cons_nil (t : Token) (ts : List Token) :
    consumes (t :: ts) [] = (t.isRun && consumes ts []) := rfl

theorem consumes_cons_cons (t : Token) (ts : List Token) (c : Char) (cs : List Char) :
    consumes (t :: ts) (c :: cs) =
      if t.isRun then consumes ts (c :: cs) || (t.accepts c && consumes (t :: ts) cs)
      else t.accepts c && consumes ts cs := by
  have h : consumes (t :: ts) (c :: cs) =
      if t.isRun then (rows ts (c :: cs)).headD false ||
        (t.accepts c && (t.row cs (rows ts (c :: cs)).tail).headD false)
      else t.accepts c && (rows ts (c :: cs)).tail.headD false := rfl
  rw [h, tail_rows]
  rfl

theorem Token.eq_anyRun_of_isRun {t : Token} (h : t.isRun = true) : t = .anyRun := by
  cases t <;> first | rfl | exact absurd h (by simp [Token.isRun])

theorem consumes_of_Consumes {ts : List Token} {name : List Char} (h : Consumes ts name) :
    consumes ts name = true := by
  induction h with
  | done => rfl
  | one single accepted _ ih => simp [consumes_cons_cons, single, accepted, ih]
  | @skip ts cs _ ih =>
    cases cs with
    | nil => simp [consumes_cons_nil, Token.isRun, ih]
    | cons c cs => simp [consumes_cons_cons, Token.isRun, ih]
  | more inside _ ih => simp [consumes_cons_cons, Token.isRun, Token.accepts, inside, ih]

theorem Consumes_of_consumes (ts : List Token) :
    ∀ name : List Char, consumes ts name = true → Consumes ts name := by
  induction ts with
  | nil =>
    intro name h
    cases name with
    | nil => exact .done
    | cons c cs => simp [consumes_nil_cons] at h
  | cons t ts ih =>
    intro name
    induction name with
    | nil =>
      intro h
      simp only [consumes_cons_nil, Bool.and_eq_true] at h
      exact t.eq_anyRun_of_isRun h.1 ▸ .skip (ih _ h.2)
    | cons c cs ihName =>
      intro h
      rw [consumes_cons_cons] at h
      cases hr : t.isRun with
      | false =>
        simp only [hr, Bool.false_eq_true, if_false, Bool.and_eq_true] at h
        exact .one hr h.1 (ih _ h.2)
      | true =>
        obtain rfl := t.eq_anyRun_of_isRun hr
        simp only [hr, if_true, Bool.or_eq_true, Bool.and_eq_true] at h
        rcases h with h | ⟨h, h'⟩
        · exact .skip (ih _ h)
        · exact .more (by simpa [Token.accepts] using h) (ihName h')

/-- The decision agrees with the relation. -/
theorem consumes_iff (ts : List Token) (name : List Char) :
    consumes ts name = true ↔ Consumes ts name :=
  ⟨Consumes_of_consumes ts name, consumes_of_Consumes⟩

end ReplicaPolicy.Glob
