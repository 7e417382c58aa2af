import Mathlib.Algebra.Order.Ring.Int
import Mathlib.Data.List.Basic
import Mathlib.Tactic.SplitIfs
import ReplicaPolicy.Json.Reader
import ReplicaPolicy.Proofs.Text.OneLine

set_option relaxedAutoImplicit false
set_option autoImplicit false

/-!
# Reading what was written

A text is written between quotes, and a record between braces, so the reader of either knows where
it ends, whatever stands behind it. A document that is made up of these is on one line and is read
back as it was written.

## Main definitions

* `ReplicaPolicy.Json.OfTexts` — a document of texts and of records of such documents.
* `ReplicaPolicy.Json.IsReadBack` — a value that is read back from its written form.

## Main results

* `ReplicaPolicy.Json.parts?_escape` — an escaped character is read back.
* `ReplicaPolicy.Json.isReadBack_ofFields` — a record is read back if its values are.
* `ReplicaPolicy.Json.OfTexts.isOneLine_write` — a document of texts is on one line.
* `ReplicaPolicy.Json.OfTexts.read?_write` — a document of texts is read back.
-/

namespace ReplicaPolicy.Json

/-! ## Texts -/

lemma hexValue?_digitChar : ∀ n < 16, hexValue? (Nat.digitChar n) = some n := by
  decide

lemma joinParts?_map_char (cs : List Char) : joinParts? (cs.map Part.char) = some cs := by
  induction cs with
  | nil => rfl
  | cons c cs ih => rw [List.map_cons, joinParts?, ih, Option.map_some]

/-- A control that is escaped by its number is read back. -/
lemma parts?_unit (before : List Part) {c high : Char} {front low : ℕ}
    (hhigh : hexValue? high = some front) (hlow : low < 16) (hunit : c.toNat = 16 * front + low)
    (hc : c.toNat < 0x20) (rest : List Char) :
    parts? before ('\\' :: 'u' :: '0' :: '0' :: high :: Nat.digitChar low :: rest) =
      parts? (.char c :: before) rest := by
  have hzero : hexValue? '0' = some 0 := by decide
  have hnumber : hexNumber? ['0', '0', high, Nat.digitChar low] = some c.toNat := by
    simp [hexNumber?, hzero, hhigh, hexValue?_digitChar low hlow, hunit]
  -- no control is half of a surrogate pair
  have hpart : Part.ofUnit c.toNat = .char c := by
    rw [Part.ofUnit, if_neg (by simp; omega), if_neg (by simp; omega), Char.ofNat_toNat]
  rw [parts?, hnumber, ← hpart]
  rfl

/-- A character that is written as itself is read back. -/
lemma parts?_self (before : List Part) {c : Char} (hquote : c ≠ '"') (hbackslash : c ≠ '\\')
    (hc : ¬c.toNat < 0x20) (rest : List Char) :
    parts? before (c :: rest) = parts? (.char c :: before) rest := by
  rw [parts?.eq_5 before c rest hquote (fun _ _ _ _ _ h => absurd h hbackslash)
    fun _ _ h => absurd h hbackslash, if_neg hc]

/-- **An escaped character is read back.**

**Proof sketch.** By the way it is escaped: by a letter, by its number, or not at all. -/
lemma parts?_escape (before : List Part) (c : Char) (rest : List Char) :
    parts? before (escape c ++ rest) = parts? (.char c :: before) rest := by
  have hsame {d : Char} (h : (c == d) = true) : c = d := by simpa using h
  unfold escape
  split_ifs with hquote hbackslash hbackspace hfeed hnewline hreturn htab hlow hcontrol
  · rw [hsame hquote]; rfl
  · rw [hsame hbackslash]; rfl
  · rw [hsame hbackspace]; rfl
  · rw [hsame hfeed]; rfl
  · rw [hsame hnewline]; rfl
  · rw [hsame hreturn]; rfl
  · rw [hsame htab]; rfl
  · have hzero : hexValue? '0' = some 0 := by decide
    exact parts?_unit before hzero hlow (by omega) (by omega) rest
  · have hone : hexValue? '1' = some 1 := by decide
    exact parts?_unit before hone (by omega) (by omega) hcontrol rest
  · exact parts?_self before (by simpa using hquote) (by simpa using hbackslash) hcontrol rest

/-- The parts of a written text are its characters, up to the quote behind them. -/
lemma parts?_flatMap_escape (before : List Part) (cs rest : List Char) :
    parts? before (cs.flatMap escape ++ '"' :: rest) =
      some ((cs.map Part.char).reverse ++ before, rest) := by
  induction cs generalizing before with
  | nil => rfl
  | cons c cs ih =>
    rw [List.flatMap_cons, List.append_assoc, parts?_escape, ih]
    simp

/-- A written text is read back. -/
lemma text?_escape (text : String) (rest : List Char) :
    text? (text.toList.flatMap escape ++ '"' :: rest) = some (some text, rest) := by
  rw [text?, parts?_flatMap_escape, Option.map_some]
  dsimp only
  rw [List.append_nil, List.reverse_reverse, joinParts?_map_char, Option.map_some,
    String.ofList_toList]

/-! ## Records -/

/-- A document of texts: a text, or a record of such documents. -/
inductive OfTexts : Json → Prop
  /-- A text. -/
  | text (t : String) : OfTexts (ofText t)
  /-- A record. -/
  | record {fields : List (String × Json)} (h : ∀ field ∈ fields, OfTexts field.2) :
    OfTexts (ofFields fields)

/-- A document of texts is written on one line. -/
lemma OfTexts.isOneLine_write {value : Json} (h : value.OfTexts) : Text.IsOneLine value.write := by
  rw [write, Text.isOneLine_ofList]
  induction h with
  | text t => exact newline_notMem_chars_ofText t
  | record _ ih => exact newline_notMem_chars_ofFields ih

/-- The value is read back from its written form, whatever stands behind it, by no more readers one
within another than it has characters. -/
def IsReadBack (value : Json) : Prop :=
  ∀ (depth : ℕ) (rest : List Char), value.chars.length ≤ depth →
    value? depth (skipGap (value.chars ++ rest)) = some (value, rest)

/-- A text is read back by one reader. -/
lemma isReadBack_ofText (t : String) : (ofText t).IsReadBack := by
  intro depth rest hdepth
  have hchars : (ofText t).chars = '"' :: (t.toList.flatMap escape ++ ['"']) := rfl
  have hstarts : skipGap ((ofText t).chars ++ rest) =
      '"' :: (t.toList.flatMap escape ++ '"' :: rest) := by
    rw [hchars, List.cons_append, List.append_assoc]
    rfl
  cases depth with
  | zero => exact absurd hdepth (by simp [hchars])
  | succ depth =>
    rw [hstarts, value?, text?_escape]
    rfl

/-- The fields of a record with their names as documents have them. -/
def named (fields : List (String × Json)) : List (Option String × Json) :=
  fields.map fun (name, value) => (some name, value)

/-- The name of a field is read, and then its value. -/
lemma fields?_cons {name : String} {value : Json} (h : value.IsReadBack) {depth : ℕ}
    (hdepth : value.chars.length ≤ depth) (before : List (Option String × Json))
    (rest : List Char) :
    fields? (depth + 1) before (writeText name ++ ':' :: value.chars ++ rest) =
      match skipGap rest with
      | ',' :: cs => fields? depth ((some name, value) :: before) cs
      | '\x7d' :: cs => some (((some name, value) :: before).reverse, cs)
      | _ => none := by
  have hstarts : skipGap (writeText name ++ ':' :: value.chars ++ rest) =
      '"' :: (name.toList.flatMap escape ++ '"' :: ':' :: (value.chars ++ rest)) := by
    simp only [writeText, List.append_assoc, List.cons_append]
    rfl
  rw [fields?, hstarts]
  show (text? (name.toList.flatMap escape ++ '"' :: ':' :: (value.chars ++ rest)) >>= _) = _
  rw [text?_escape]
  show (value? depth (skipGap (value.chars ++ rest)) >>= _) = _
  rw [h depth rest hdepth]
  rfl

/-- The fields of a record are read back up to the brace behind them, if their values are.

**Proof sketch.** Induction on the fields. Behind a field there is a comma or the brace, and the
reader of the field leaves off in front of it. -/
lemma fields?_fieldChars {fields : List (String × Json)} (hne : fields ≠ [])
    (h : ∀ field ∈ fields, field.2.IsReadBack) {depth : ℕ}
    (hdepth : (fieldChars (named fields)).length < depth)
    (before : List (Option String × Json)) (rest : List Char) :
    fields? depth before (fieldChars (named fields) ++ '\x7d' :: rest) =
      some (before.reverse ++ named fields, rest) := by
  induction fields generalizing depth before with
  | nil => exact absurd rfl hne
  | cons field fields ih =>
    obtain ⟨name, value⟩ := field
    have hvalue : value.IsReadBack := h (name, value) List.mem_cons_self
    obtain ⟨depth, rfl⟩ := Nat.exists_eq_succ_of_ne_zero (Nat.ne_zero_of_lt hdepth)
    cases fields with
    | nil =>
      have hlast : fieldChars (named [(name, value)]) = writeText name ++ ':' :: value.chars := rfl
      rw [hlast] at hdepth ⊢
      simp only [List.length_append, List.length_cons] at hdepth
      rw [fields?_cons hvalue (by omega)]
      simp [skipGap, isGap, named]
    | cons other fields =>
      have hmore : fieldChars (named ((name, value) :: other :: fields)) =
          writeText name ++ ':' :: value.chars ++ ',' :: fieldChars (named (other :: fields)) := rfl
      have hothers : ∀ field ∈ other :: fields, field.2.IsReadBack := fun field hfield =>
        h field (List.mem_cons_of_mem _ hfield)
      rw [hmore] at hdepth ⊢
      simp only [List.length_append, List.length_cons] at hdepth
      rw [List.append_assoc _ (',' :: _), List.cons_append, fields?_cons hvalue (by omega)]
      show fields? depth ((some name, value) :: before) _ = _
      rw [ih (List.cons_ne_nil _ _) hothers (by omega), List.reverse_cons, List.append_assoc]
      rfl

/-- A record is read back if the values of its fields are. -/
lemma isReadBack_ofFields {fields : List (String × Json)}
    (h : ∀ field ∈ fields, field.2.IsReadBack) : (ofFields fields).IsReadBack := by
  intro depth rest hdepth
  have hchars : (ofFields fields).chars = '\x7b' :: (fieldChars (named fields) ++ ['\x7d']) := rfl
  have hstarts : skipGap ((ofFields fields).chars ++ rest) =
      '\x7b' :: (fieldChars (named fields) ++ '\x7d' :: rest) := by
    rw [hchars, List.cons_append, List.append_assoc]
    rfl
  rw [hchars, List.length_cons, List.length_append, List.length_singleton] at hdepth
  obtain ⟨depth, rfl⟩ : ∃ d, depth = d + 1 := Nat.exists_eq_succ_of_ne_zero (by omega)
  rw [hstarts, value?]
  cases fields with
  | nil => rfl
  | cons field fields =>
    have hlength : (fieldChars (named (field :: fields))).length < depth := by omega
    have hread := fields?_fieldChars (List.cons_ne_nil field fields) h hlength [] rest
    -- the name of the first field shows that the record does not end at once
    obtain ⟨cs, hcs⟩ : ∃ cs, fieldChars (named (field :: fields)) = '"' :: cs := by
      cases fields <;> exact ⟨_, rfl⟩
    rw [hcs] at hread ⊢
    show Option.map _ (fields? depth [] ('"' :: cs ++ '\x7d' :: rest)) = _
    rw [hread]
    rfl

lemma OfTexts.isReadBack {value : Json} (h : value.OfTexts) : value.IsReadBack := by
  induction h with
  | text t => exact isReadBack_ofText t
  | record _ ih => exact isReadBack_ofFields ih

/-- **A document of texts is read back as it was written.** -/
theorem OfTexts.read?_write {value : Json} (h : value.OfTexts) :
    read? value.write = some value := by
  have hread := h.isReadBack (2 * value.chars.length + 2) [] (by omega)
  rw [List.append_nil] at hread
  rw [read?, write, String.toList_ofList, hread]
  rfl

end ReplicaPolicy.Json
