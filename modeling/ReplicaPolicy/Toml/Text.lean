import ReplicaPolicy.Text.Blank

set_option relaxedAutoImplicit false
set_option autoImplicit false

/-!
# Quoted texts of TOML

A text stands between quotes, single or double, on one line or, between triple quotes, on several.
Escapes are read between double quotes only. In a text on several lines a break right after the
opening quotes does not count, every other break is a newline, and a backslash at the end of a
line takes away the break and all blanks after it.

Each reader gives what it read with the rest of the text.

## Main definitions

* `ReplicaPolicy.Toml.newline?`, `skipBlanks` — line breaks and blanks.
* `ReplicaPolicy.Toml.escape?` — the character that an escape gives.
* `ReplicaPolicy.Toml.quoted?` — a quoted text of one line or of several.

## Main results

* `ReplicaPolicy.Toml.length_of_escape?` — an escape takes something from the text.
-/

namespace ReplicaPolicy.Toml

/-! ## Blanks and line breaks -/

/-- Spaces and tabs. -/
def isBlank (c : Char) : Bool :=
  c == ' ' || c == '\t'

/-- The text after the blanks it starts with. -/
def skipBlanks (cs : List Char) : List Char :=
  cs.dropWhile isBlank

/-- The text after the line break it starts with: a newline, or a carriage return and a
newline. -/
def newline? : List Char → Option (List Char)
  | '\n' :: cs => some cs
  | '\r' :: '\n' :: cs => some cs
  | _ => none

/-- The characters that may stand in comments and texts: tabs and all that are no controls. -/
def isPlain (c : Char) : Bool :=
  c == '\t' || (0x20 ≤ c.toNat && c.toNat != 0x7F)

/-- The text after the blanks and the line breaks it starts with. -/
def skipBreaks : List Char → List Char
  | '\r' :: '\n' :: cs => skipBreaks cs
  | c :: cs => if isBlank c || c == '\n' then skipBreaks cs else c :: cs
  | [] => []

/-! ## Escapes -/

/-- The value of a hexadecimal digit. -/
def hexValue? (c : Char) : Option Nat :=
  if c.isDigit then some (c.toNat - '0'.toNat)
  else if 'a' ≤ c ∧ c ≤ 'f' then some (c.toNat - 'a'.toNat + 10)
  else if 'A' ≤ c ∧ c ≤ 'F' then some (c.toNat - 'A'.toNat + 10)
  else none

/-- The character whose number hexadecimal digits spell, if there is one. -/
def scalar? (digits : List Char) : Option Char := do
  let values ← digits.mapM hexValue?
  let n := values.foldl (fun n d => 16 * n + d) 0
  if n.isValidChar then some (Char.ofNat n) else none

/-- The character that a one-letter escape stands for. -/
def escaped? : Char → Option Char
  | '"' => some '"'
  | '\\' => some '\\'
  | 'b' => some '\x08'
  | 'f' => some '\x0c'
  | 'n' => some '\n'
  | 'r' => some '\r'
  | 't' => some '\t'
  | _ => none

/-- The number of digits of an escape by number: four after a small letter, eight after a
capital. -/
def escapeDigits? (c : Char) : Option Nat :=
  if c == 'u' then some 4 else if c == 'U' then some 8 else none

/-- The character that an escape gives, read after its backslash. -/
def escape? : List Char → Option (Char × List Char)
  | [] => none
  | c :: cs =>
    match escapeDigits? c with
    | some n =>
      if cs.length < n then none else (scalar? (cs.take n)).map fun c => (c, cs.drop n)
    | none => (escaped? c).map fun c => (c, cs)

theorem length_of_escape? {cs rest : List Char} {c : Char} (h : escape? cs = some (c, rest)) :
    rest.length < cs.length := by
  cases cs with
  | nil => simp [escape?] at h
  | cons d cs =>
    simp only [escape?] at h
    split at h
    · split at h
      · exact absurd h (by simp)
      · obtain ⟨_, _, h⟩ := Option.map_eq_some_iff.1 h
        simp only [Prod.mk.injEq] at h
        rw [← h.2, List.length_drop, List.length_cons]
        omega
    · obtain ⟨_, _, h⟩ := Option.map_eq_some_iff.1 h
      simp only [Prod.mk.injEq] at h
      rw [← h.2]
      exact Nat.lt_succ_self _

/-- The rest of a text after a backslash that takes away a line break, read after the
backslash. -/
def joinLines? (cs : List Char) : Option (List Char) :=
  (newline? (skipBlanks cs)).map skipBreaks

theorem length_skipBreaks_le (cs : List Char) : (skipBreaks cs).length ≤ cs.length := by
  fun_induction skipBreaks cs with
  | case1 cs ih => simp only [List.length_cons]; omega
  | case2 c cs _ _ ih => simp only [List.length_cons]; omega
  | case3 => exact Nat.le_refl _
  | case4 => exact Nat.le_refl _

theorem length_of_newline? {cs rest : List Char} (h : newline? cs = some rest) :
    rest.length < cs.length := by
  unfold newline? at h
  split at h
  · rw [← Option.some.inj h, List.length_cons]
    exact Nat.lt_succ_self _
  · rw [← Option.some.inj h, List.length_cons, List.length_cons]
    omega
  · exact absurd h (by simp)

theorem length_of_joinLines? {cs rest : List Char} (h : joinLines? cs = some rest) :
    rest.length < cs.length := by
  obtain ⟨after, hn, rfl⟩ := Option.map_eq_some_iff.1 h
  have hlt := length_of_newline? hn
  have hle := length_skipBreaks_le after
  have hdrop : (skipBlanks cs).length ≤ cs.length := (List.dropWhile_sublist _).length_le
  omega

/-! ## Quoted texts -/

/-- How a text is quoted. -/
structure Quotes where
  /-- The character of the quotes. -/
  mark : Char
  /-- The quotes are triple, and the text may go on for several lines. -/
  isTriple : Bool

namespace Quotes

/-- Escapes are read between double quotes. -/
def readsEscapes (q : Quotes) : Bool :=
  q.mark == '"'

/-- The quotes that close a text: those of the text itself before them, and the rest. One or two
quotes may stand right before closing triple quotes. -/
def close? (q : Quotes) (cs : List Char) : Option (List Char × List Char) :=
  let count := (cs.takeWhile (· == q.mark)).length
  if !q.isTriple then some ([], cs.drop 1)
  else if count < 3 then none
  else
    let inner := min (count - 3) 2
    some (List.replicate inner q.mark, cs.drop (inner + 3))

/-- A text up to its closing quotes. -/
def body? (q : Quotes) (cs : List Char) : Option (List Char × List Char) :=
  match cs with
  | [] => none
  | c :: rest =>
    if c == q.mark then
      match q.close? (c :: rest) with
      | some closed => some closed
      | none => (q.body? rest).map fun (text, after) => (c :: text, after)
    else if c == '\\' && q.readsEscapes then
      match _he : escape? rest with
      | some (d, rest) => (q.body? rest).map fun (text, after) => (d :: text, after)
      | none =>
        if q.isTriple then
          match _hj : joinLines? rest with
          | some rest => q.body? rest
          | none => none
        else none
    else if isPlain c then (q.body? rest).map fun (text, after) => (c :: text, after)
    else if q.isTriple then
      match _hn : newline? (c :: rest) with
      | some rest => (q.body? rest).map fun (text, after) => ('\n' :: text, after)
      | none => none
    else none
  termination_by cs.length
  decreasing_by
    · exact Nat.lt_succ_self _
    · have := length_of_escape? _he
      simp only [List.length_cons]
      omega
    · have := length_of_joinLines? _hj
      simp only [List.length_cons]
      omega
    · exact Nat.lt_succ_self _
    · exact length_of_newline? _hn

end Quotes

/-- A quoted text of one line. -/
def quotedLine? : List Char → Option (List Char × List Char)
  | c :: cs => if c == '"' || c == '\'' then Quotes.body? ⟨c, false⟩ cs else none
  | [] => none

/-- A quoted text of one line or of several. -/
def quoted? (cs : List Char) : Option (List Char × List Char) :=
  match cs with
  | '"' :: '"' :: '"' :: rest => Quotes.body? ⟨'"', true⟩ ((newline? rest).getD rest)
  | '\'' :: '\'' :: '\'' :: rest => Quotes.body? ⟨'\'', true⟩ ((newline? rest).getD rest)
  | _ => quotedLine? cs

end ReplicaPolicy.Toml
