import Mathlib.Algebra.Order.Ring.Int
import Mathlib.Data.List.TakeWhile
import ReplicaPolicy.Calendar.Reader
import ReplicaPolicy.Decimal.Fixed

set_option relaxedAutoImplicit false
set_option autoImplicit false

/-!
# Parts of a written time

A number written with zeros in front is read back, and the reading leaves off where the number
ends: it takes as many digits as were written and no more, so that what stands behind the number
has no part in it.

## Main results

* `ReplicaPolicy.Decimal.digitsValue_padLeft` — zeros in front do not change a number.
* `ReplicaPolicy.TimeText.number?_padLeft` — a number written with zeros in front is read back.
* `ReplicaPolicy.TimeText.year?_padLeft`, `field?_padLeft` — so are a year and a field in front of
  which blanks may stand.
-/

namespace ReplicaPolicy

open Decimal (padLeft digitsValue)

/-! ## Padded numbers -/

namespace Decimal

lemma digitsValue_padLeft (length n : ℕ) : digitsValue (padLeft length n) = n := by
  have hvalue (cs : List Char) : digitsValue cs = Nat.ofDigitChars 10 cs 0 :=
    Nat.ofDigitChars_eq_foldl.symm
  rw [hvalue, padLeft, Nat.ofDigitChars_append, Nat.ofDigitChars_replicate_zero, Nat.mul_zero,
    Nat.ofDigitChars_ten_toDigits]

lemma isDigit_of_mem_padLeft {length n : ℕ} {c : Char} (h : c ∈ padLeft length n) :
    c.isDigit = true := by
  rcases List.mem_append.mp h with hzero | hdigit
  · rw [List.eq_of_mem_replicate hzero]
    rfl
  · exact Nat.isDigit_of_mem_toDigits (by decide) (by decide) hdigit

lemma length_padLeft_of_lt {length n : ℕ} (hpos : 0 < length) (h : n < 10 ^ length) :
    (padLeft length n).length = length := by
  rw [length_padLeft, Nat.max_eq_left ((Nat.length_toDigits_le_iff (by decide) hpos).mpr h)]

end Decimal

namespace TimeText

/-- A number written with zeros in front is read back, whatever stands behind it. -/
theorem number?_padLeft {least length n : ℕ} (hleast : least ≤ length) (hpos : 0 < length)
    (h : n < 10 ^ length) (rest : List Char) :
    number? least length (padLeft length n ++ rest) = some (n, rest) := by
  have hlength : (padLeft length n).length = length := Decimal.length_padLeft_of_lt hpos h
  have hdigits : ((padLeft length n ++ rest).takeWhile Char.isDigit).take length =
      padLeft length n := by
    rw [List.takeWhile_append_of_pos fun c => Decimal.isDigit_of_mem_padLeft]
    exact List.take_left' hlength
  rw [number?, hdigits, hlength, if_neg (by omega), Decimal.digitsValue_padLeft,
    List.drop_left' hlength]

/-- A part that is read hands on to the next. Rewriting with this equation from the front keeps the
parts behind it out of sight until their turn comes. -/
lemma bind_of_eq {α β : Type} {x : Option α} {a : α} (h : x = some a) (next : α → Option β) :
    (x >>= next) = next a := by
  rw [h]
  rfl

lemma number?_two {n : ℕ} (h : n < 100) (rest : List Char) :
    number? 2 2 (padLeft 2 n ++ rest) = some (n, rest) :=
  number?_padLeft le_rfl (by decide) h rest

lemma number?_four {n : ℕ} (h : n < 10000) (rest : List Char) :
    number? 4 4 (padLeft 4 n ++ rest) = some (n, rest) :=
  number?_padLeft le_rfl (by decide) h rest

/-- A padded number starts with a digit. -/
lemma exists_padLeft_eq_cons (length n : ℕ) :
    ∃ c cs, padLeft length n = c :: cs ∧ c.isDigit = true := by
  obtain ⟨c, cs, hcons⟩ : ∃ c cs, padLeft length n = c :: cs :=
    List.exists_cons_of_ne_nil (List.append_ne_nil_of_right_ne_nil _ Nat.toDigits_ne_nil)
  exact ⟨c, cs, hcons, Decimal.isDigit_of_mem_padLeft (hcons ▸ List.mem_cons_self)⟩

/-- Digits are no blanks, so that nothing is skipped in front of a number. -/
lemma trimLeft_padLeft (length n : ℕ) (rest : List Char) :
    Text.trimLeft (padLeft length n ++ rest) = padLeft length n ++ rest := by
  obtain ⟨c, cs, hcons, hdigit⟩ := exists_padLeft_eq_cons length n
  have hblank : Text.isBlank c = false := by
    simp only [Char.isDigit, Bool.and_eq_true, decide_eq_true_eq] at hdigit
    have hleast : 48 ≤ c.toNat := hdigit.1
    have hmost : c.toNat ≤ 57 := hdigit.2
    simp only [Text.isBlank]
    grind
  rw [hcons, List.cons_append, Text.trimLeft, List.dropWhile_cons, if_neg (by simp [hblank])]

lemma field?_padLeft {n : ℕ} (h : n < 100) (rest : List Char) :
    field? (padLeft 2 n ++ rest) = some (n, rest) := by
  rw [field?, trimLeft_padLeft, number?_padLeft (by decide) (by decide) h]

/-- A year of four digits has no sign. -/
lemma year?_padLeft {n : ℕ} (h : n < 10000) (rest : List Char) :
    year? (padLeft 4 n ++ rest) = some ((n : ℤ), rest) := by
  have hread : number? 1 4 (padLeft 4 n ++ rest) = some (n, rest) :=
    number?_padLeft (by decide) (by decide) h rest
  obtain ⟨c, cs, hcons, hdigit⟩ := exists_padLeft_eq_cons 4 n
  rw [year?, trimLeft_padLeft]
  rw [hcons, List.cons_append] at hread ⊢
  split
  · rename_i hsign
    cases hsign
    exact absurd hdigit (by decide)
  · rename_i hsign
    cases hsign
    exact absurd hdigit (by decide)
  · rw [hread]
    rfl

@[simp] lemma skip?_cons (c : Char) (rest : List Char) : skip? c (c :: rest) = some rest := by
  simp [skip?]

lemma isOffset_iff {seconds : ℤ} :
    isOffset seconds = true ↔ -86400 < seconds ∧ seconds < 86400 := by
  simp only [isOffset, Bool.and_eq_true, decide_eq_true_eq]
  rfl

/-- Where an offset stands, there is no fraction. -/
lemma fraction?_of_offset? {separator : List Char → Option (List Char)} {cs : List Char}
    {read : ℤ × List Char} (h : offset? separator cs = some read) :
    fraction? cs = some (0, cs) := by
  unfold fraction?
  split
  · simp [offset?] at h
  · rfl

end TimeText

end ReplicaPolicy
