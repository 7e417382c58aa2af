import Mathlib.Tactic.Lemma
import ReplicaPolicy.Age.Cutoff
import ReplicaPolicy.Calendar.Writer
import ReplicaPolicy.Json.Writer
import ReplicaPolicy.Proofs.Calendar.Parts

set_option relaxedAutoImplicit false
set_option autoImplicit false

/-!
# Texts on one line

A text is on one line if it holds no line break. Numbers, dates and ages are always written on one
line, and so are documents: within their texts a line break is escaped.

## Main definitions

* `ReplicaPolicy.Text.IsOneLine` — the text holds no line break.

## Main results

* `ReplicaPolicy.Text.isOneLine_append` — a text is on one line if its parts are.
* `ReplicaPolicy.Decimal.isOneLine_fixed`, `ReplicaPolicy.Date.isOneLine_text`,
  `ReplicaPolicy.Age.isOneLine_text` — numbers, dates and ages are.
* `ReplicaPolicy.Json.newline_notMem_chars_ofFields` — records of such values are.
-/

namespace ReplicaPolicy

open Decimal (padLeft)

/-! ## Line breaks -/

namespace Text

/-- The text holds no line break. -/
def IsOneLine (text : String) : Prop :=
  '\n' ∉ text.toList

instance (text : String) : Decidable (IsOneLine text) :=
  inferInstanceAs (Decidable ('\n' ∉ text.toList))

@[simp]
lemma isOneLine_append {text other : String} :
    IsOneLine (text ++ other) ↔ IsOneLine text ∧ IsOneLine other := by
  simp [IsOneLine]

/-- A text in words before it and words behind it. -/
lemma IsOneLine.between {before text after : String} (h : IsOneLine text)
    (hbefore : IsOneLine before) (hafter : IsOneLine after) :
    IsOneLine (before ++ text ++ after) :=
  isOneLine_append.2 ⟨isOneLine_append.2 ⟨hbefore, h⟩, hafter⟩

@[simp]
lemma isOneLine_ofList {cs : List Char} : IsOneLine (String.ofList cs) ↔ '\n' ∉ cs := by
  simp [IsOneLine]

end Text

open Text (IsOneLine)

/-! ## Numbers -/

namespace Decimal

lemma newline_notMem_padLeft (length n : ℕ) : '\n' ∉ padLeft length n := fun h =>
  absurd (isDigit_of_mem_padLeft h) (by decide)

/-- A whole number is written on one line. -/
lemma isOneLine_toString (n : ℕ) : IsOneLine (toString n) := by
  rw [Nat.toString_eq_ofList_toDigits, Text.isOneLine_ofList]
  exact fun h => absurd (Nat.isDigit_of_mem_toDigits (by decide) (by decide) h) (by decide)

lemma newline_notMem_signText (negative : Bool) : '\n' ∉ signText negative := by
  cases negative <;> decide

lemma newline_notMem_placed (places units : ℕ) : '\n' ∉ placed places units := by
  have hdigits := newline_notMem_padLeft (places + 1) units
  have hwhole : ∀ k, '\n' ∉ (padLeft (places + 1) units).take k := fun k h =>
    hdigits (List.mem_of_mem_take h)
  have hrest : ∀ k, '\n' ∉ (padLeft (places + 1) units).drop k := fun k h =>
    hdigits (List.mem_of_mem_drop h)
  unfold placed
  split
  · exact hwhole _
  · simp [hwhole, hrest]

lemma newline_notMem_nonFinite (r : Reading) : '\n' ∉ (nonFinite r).getD [] := by
  cases r with
  | undefined => decide
  | infinite negative => cases negative <;> decide
  | finite negative v => exact List.not_mem_nil

/-- A number with some decimal places is written on one line, and so is the name of one that is not
finite. -/
theorem isOneLine_fixed (places : ℕ) (x : Float) : IsOneLine (fixed places x) := by
  rw [fixed, Text.isOneLine_ofList]
  split
  · simp [newline_notMem_signText, newline_notMem_placed]
  · exact newline_notMem_nonFinite _

end Decimal

/-! ## Dates and ages -/

lemma newline_notMem_yearText (year : ℤ) : '\n' ∉ yearText year := by
  unfold yearText
  split
  · exact Decimal.newline_notMem_padLeft _ _
  · split <;> simp [Decimal.newline_notMem_padLeft]

namespace Date

/-- A date is written on one line. -/
theorem isOneLine_text (d : Date) : IsOneLine d.text := by
  rw [text, Text.isOneLine_ofList, chars]
  simp [newline_notMem_yearText, Decimal.newline_notMem_padLeft]

end Date

/-- An age is written on one line. -/
theorem Age.isOneLine_text (a : Age) : IsOneLine a.text := by
  have hunit : IsOneLine a.unit.suffix := by cases a.unit <;> decide
  simp [Age.text, Decimal.isOneLine_fixed, hunit]

/-! ## Documents -/

namespace Json

lemma newline_notMem_writeText (text : String) : '\n' ∉ writeText text := by
  simp [writeText, newline_notMem_escape]

/-- Fields are written on one line if their values are; their names always are. -/
lemma newline_notMem_fieldChars {fields : List (Option String × Json)}
    (h : ∀ field ∈ fields, '\n' ∉ field.2.chars) : '\n' ∉ fieldChars fields := by
  induction fields with
  | nil => simp [fieldChars]
  | cons field fields ih =>
    obtain ⟨name, value⟩ := field
    have hvalue := h _ List.mem_cons_self
    have hrest := ih fun other hother => h other (List.mem_cons_of_mem _ hother)
    cases fields with
    | nil => simpa [fieldChars, newline_notMem_writeText] using hvalue
    | cons other fields => simpa [fieldChars, newline_notMem_writeText] using ⟨hvalue, hrest⟩

/-- A text as a document is written on one line. -/
lemma newline_notMem_chars_ofText (text : String) : '\n' ∉ (ofText text).chars := by
  rw [ofText, chars]
  exact newline_notMem_writeText _

/-- **A record is written on one line if its values are.** -/
theorem newline_notMem_chars_ofFields {fields : List (String × Json)}
    (h : ∀ field ∈ fields, '\n' ∉ field.2.chars) : '\n' ∉ (ofFields fields).chars := by
  rw [ofFields, chars]
  suffices hfields : '\n' ∉ fieldChars (fields.map _) by simpa using hfields
  refine newline_notMem_fieldChars fun field hfield => ?_
  obtain ⟨⟨name, value⟩, hvalue, rfl⟩ := List.mem_map.1 hfield
  exact h _ hvalue

end Json

end ReplicaPolicy
