set_option relaxedAutoImplicit false
set_option autoImplicit false

/-!
# Blank characters, pieces, words and lines

Texts are handled as lists of characters. A character is *blank* when it has the Unicode
property `White_Space`; blanks separate words and are what trimming removes.

## Main definitions

* `ReplicaPolicy.Text.isBlank` — the `White_Space` characters.
* `ReplicaPolicy.Text.splitWith` — the pieces of a text between separators.
* `ReplicaPolicy.Text.trim`, `words`, `lines` — trimming, blank-separated words, lines.

## Main results

* `ReplicaPolicy.Text.length_splitWith` — there is one more piece than there are separators.
-/

namespace ReplicaPolicy.Text

/-! ## Blanks -/

/-- The characters with the Unicode property `White_Space`. -/
def isBlank (c : Char) : Bool :=
  let n := c.toNat
  (9 ≤ n && n ≤ 13) || n == 0x20 || n == 0x85 || n == 0xA0 || n == 0x1680 ||
    (0x2000 ≤ n && n ≤ 0x200A) || n == 0x2028 || n == 0x2029 || n == 0x202F || n == 0x205F ||
    n == 0x3000

/-- The text without the blanks it starts with. -/
def trimLeft (cs : List Char) : List Char :=
  cs.dropWhile isBlank

/-- The text without the blanks it ends with. -/
def trimRight (cs : List Char) : List Char :=
  (cs.reverse.dropWhile isBlank).reverse

/-- The text without the blanks at either end. -/
def trim (cs : List Char) : List Char :=
  trimRight (trimLeft cs)

/-! ## Pieces, words and lines -/

/-- The pieces of a text between the characters that `separates` marks. Adjacent separators
enclose an empty piece, so a text always has one more piece than separators. -/
def splitWith (separates : Char → Bool) : List Char → List (List Char)
  | [] => [[]]
  | c :: cs =>
    if separates c then [] :: splitWith separates cs
    else
      match splitWith separates cs with
      | [] => [[c]]
      | piece :: pieces => (c :: piece) :: pieces

theorem splitWith_ne_nil (separates : Char → Bool) (cs : List Char) :
    splitWith separates cs ≠ [] := by
  cases cs with
  | nil => simp [splitWith]
  | cons c cs => unfold splitWith; split <;> (try split) <;> simp

theorem length_splitWith (separates : Char → Bool) (cs : List Char) :
    (splitWith separates cs).length = cs.countP separates + 1 := by
  induction cs with
  | nil => rfl
  | cons c cs ih =>
    unfold splitWith
    by_cases h : separates c = true
    · simp [h, ih]
    · cases hs : splitWith separates cs with
      | nil => exact absurd hs (splitWith_ne_nil _ _)
      | cons piece pieces => simp [hs] at ih; simp [h, ih]

/-- The maximal runs of characters that are not blank. -/
def words (cs : List Char) : List (List Char) :=
  (splitWith isBlank cs).filter fun piece => !piece.isEmpty

/-- A line as read: one carriage return at its end belongs to the line break. -/
def dropCarriageReturn (cs : List Char) : List Char :=
  if cs.getLast? = some '\r' then cs.dropLast else cs

/-- The lines of a text. A line break is a newline, with a carriage return before it or not; a
break at the end of the text starts no further line. -/
def lines (cs : List Char) : List (List Char) :=
  let pieces := splitWith (· == '\n') cs
  let last := pieces.getLastD []
  pieces.dropLast.map dropCarriageReturn ++ if last.isEmpty then [] else [last]

/-- The words joined by single spaces. -/
def unwords (ws : List (List Char)) : List Char :=
  [' '].intercalate ws

end ReplicaPolicy.Text
