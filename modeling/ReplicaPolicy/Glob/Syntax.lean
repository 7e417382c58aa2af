import ReplicaPolicy.Fault
import ReplicaPolicy.Glob.Basic

set_option relaxedAutoImplicit false
set_option autoImplicit false

/-!
# How globs are written

A star stands for a run, a question mark for one character. A bracket that is closed later opens
a class, whose body runs to the first closing bracket. Every other character stands for itself,
an opening bracket that is never closed included.

In the body of a class an exclamation mark in front negates. A hyphen between two characters makes
a range; hyphens in front, a hyphen at the end and a hyphen after a range stand for themselves.
Two hyphens elsewhere take what follows out of what precedes them. A class must have a body, and
the ends of a range must be in order.

## Main definitions

* `ReplicaPolicy.Glob.classOf?` — the class that a body writes.
* `ReplicaPolicy.Glob.tokensOf?` — the tokens that a text writes.
* `ReplicaPolicy.Glob` — a compiled glob, with its text.
* `ReplicaPolicy.Glob.ofText?`, `compile`, `selects` — compiling and matching.

## Main results

* `ReplicaPolicy.Glob.text_ofText?` — a compiled glob keeps its text.
* `ReplicaPolicy.Glob.selects_iff` — a glob selects the names that its tokens consume.
-/

namespace ReplicaPolicy

namespace Glob

/-! ## Classes -/

/-- The range of one character. -/
def Range.single (c : Char) : Range := ⟨c, c⟩

/-- Adds a range to the first of some unions. -/
def addRange (r : Range) : List (List Range) → List (List Range)
  | [] => [[r]]
  | first :: others => (r :: first) :: others

/-- The unions of ranges between the double hyphens of a body, or nothing if the ends of a range
are out of order. -/
def unions? : List Char → Option (List (List Range))
  | [] => some [[]]
  | '-' :: '-' :: cs => (unions? cs).map ([] :: ·)
  | c :: '-' :: d :: cs =>
    if d == '-' then (unions? ('-' :: d :: cs)).map (addRange (.single c))
    else if c ≤ d then (unions? cs).map (addRange ⟨c, d⟩)
    else none
  | c :: cs => (unions? cs).map (addRange (.single c))

/-- The class that a body without its exclamation mark writes. -/
def plainClass? (negated : Bool) (body : List Char) : Option CharClass :=
  if body.isEmpty then none
  else
    let hyphens := body.takeWhile (· == '-')
    (unions? (body.dropWhile (· == '-'))).map fun unions =>
      { negated
        included := hyphens.map .single ++ unions.headD []
        excluded := unions.tail.flatten }

/-- The class that the body of a bracket writes. -/
def classOf? : List Char → Option CharClass
  | '!' :: body => plainClass? true body
  | body => plainClass? false body

/-! ## Tokens -/

/-- The token that a character outside of brackets writes. -/
def Token.ofChar (c : Char) : Token :=
  if c == '*' then .anyRun else if c == '?' then .anyChar else .literal c

/-- The tokens that a text writes; within a bracket, `body` holds the part of it that came
before. -/
def tokensFrom? : Option (List Char) → List Char → Option (List Token)
  | _, [] => some []
  | none, c :: cs =>
    if c == '[' && cs.contains ']' then tokensFrom? (some []) cs
    else (tokensFrom? none cs).map (Token.ofChar c :: ·)
  | some body, c :: cs =>
    if c == ']' then
      (classOf? body).bind fun k => (tokensFrom? none cs).map (Token.oneOf k :: ·)
    else tokensFrom? (some (body ++ [c])) cs

/-- The tokens that a text writes, if each of its classes is well written. -/
def tokensOf? (cs : List Char) : Option (List Token) :=
  tokensFrom? none cs

end Glob

/-- A glob: its text and its tokens. -/
structure Glob where
  /-- The text as written. -/
  text : String
  /-- What the text stands for. -/
  tokens : List Glob.Token
  deriving DecidableEq, Repr

namespace Glob

/-- The glob that a text writes. -/
def ofText? (text : String) : Option Glob :=
  (tokensOf? text.toList).map fun tokens => { text, tokens }

/-- The glob that a text writes, or the complaint that it writes none. -/
def compile (text : String) : Except Fault Glob :=
  match ofText? text with
  | some g => .ok g
  | none => .error (.invalidPattern text)

/-- Whether a glob selects a name. -/
def selects (g : Glob) (name : String) : Bool :=
  consumes g.tokens name.toList

theorem text_ofText? {text : String} {g : Glob} (h : ofText? text = some g) : g.text = text := by
  simp only [ofText?, Option.map_eq_some_iff] at h
  obtain ⟨_, _, rfl⟩ := h
  rfl

theorem compile_eq_ok_iff {text : String} {g : Glob} :
    compile text = .ok g ↔ ofText? text = some g := by
  unfold compile
  cases ofText? text <;> simp

theorem selects_iff (g : Glob) (name : String) :
    g.selects name = true ↔ Consumes g.tokens name.toList :=
  consumes_iff _ _

end Glob

end ReplicaPolicy
