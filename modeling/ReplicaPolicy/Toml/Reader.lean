import ReplicaPolicy.Toml.Scalar
import ReplicaPolicy.Toml.Table

set_option relaxedAutoImplicit false
set_option autoImplicit false

/-!
# Reading TOML

The text of a document is read from its start. Each reader gives what it read with the rest of
the text. Lists and inline tables stand within one another to a limited depth, and keys have a
limited number of names. The readers of keys and values are also given a count, `fuel`, of how
many may be under way one within another; a reader takes at least one character before it asks
another one of its kind, so the length of the text bounds that count.

## Main definitions

* `ReplicaPolicy.Toml.value?` — a value.
* `ReplicaPolicy.Toml.statements?` — the statements of a document.
* `ReplicaPolicy.Toml.read?` — the document that a text writes.
-/

namespace ReplicaPolicy.Toml

/-- Values within one another, and the names of a key, are fewer than this. -/
def nestingLimit : Nat := 80

/-! ## Keys -/

/-- The characters of names without quotes. -/
def isNameChar (c : Char) : Bool :=
  c.isAlphanum || c == '-' || c == '_'

/-- A name, quoted or not. -/
def name? (cs : List Char) : Option (String × List Char) :=
  match quotedLine? cs with
  | some (quoted, rest) => some (String.ofList quoted, rest)
  | none =>
    let bare := cs.takeWhile isNameChar
    if bare.isEmpty then none else some (String.ofList bare, cs.dropWhile isNameChar)

/-- Names with points between them, blanks around each. -/
def names? (fuel : Nat) (cs : List Char) : Option (List String × List Char) :=
  match fuel with
  | 0 => none
  | fuel + 1 => do
    let (name, rest) ← name? (skipBlanks cs)
    match skipBlanks rest with
    | '.' :: rest =>
      let (names, rest) ← names? fuel rest
      some (name :: names, rest)
    | rest => some ([name], rest)

/-- The key of some names. -/
def keyOf? (names : List String) : Option Key :=
  if names.length < nestingLimit then
    names.getLast?.map fun name => ⟨names.dropLast, name⟩
  else none

/-- A key, blanks around it. -/
def key? (cs : List Char) : Option (Key × List Char) := do
  let (names, rest) ← names? (cs.length + 1) cs
  let key ← keyOf? names
  some (key, rest)

/-- The rest of a text after the character it starts with. -/
def after? (c : Char) (cs : List Char) : Option (List Char) :=
  TimeText.skip? c cs

/-! ## Values -/

/-- The rest of a text after the comment it starts with, or all of it. -/
def skipComment (cs : List Char) : List Char :=
  match cs with
  | '#' :: rest => rest.dropWhile isPlain
  | _ => cs

/-- The rest of a text after blanks, line breaks and comments up to their line breaks. -/
def skipGap (fuel : Nat) (cs : List Char) : List Char :=
  match fuel with
  | 0 => cs
  | fuel + 1 =>
    let cs := skipBlanks cs
    match newline? (skipComment cs) with
    | some rest => skipGap fuel rest
    | none => cs

/-- The rest of a text after blanks, line breaks and comments. -/
def skipGaps (cs : List Char) : List Char :=
  skipGap (cs.length + 1) cs

/-- A truth value. -/
def bool? : List Char → Option (Bool × List Char)
  | 't' :: 'r' :: 'u' :: 'e' :: rest => some (true, rest)
  | 'f' :: 'a' :: 'l' :: 's' :: 'e' :: rest => some (false, rest)
  | _ => none

/-- A value that holds no other values. -/
def scalarValue? (cs : List Char) : Option (Toml × List Char) :=
  (quoted? cs).map (fun (t, rest) => (.text (String.ofList t), rest)) <|>
  (moment? cs).map (fun (t, rest) => (.moment (String.ofList t), rest)) <|>
  (float? cs).map (fun (x, rest) => (.float x, rest)) <|>
  (integer? cs).map (fun (n, rest) => (.integer n, rest)) <|>
  (bool? cs).map (fun (b, rest) => (.bool b, rest))

mutual

/-- A value, with room for `depth` values one within another. -/
def value? (fuel depth : Nat) (cs : List Char) : Option (Toml × List Char) :=
  match fuel, depth, cs with
  | 0, _, _ => none
  | fuel + 1, depth + 1, '[' :: cs =>
    (items? fuel depth [] cs).map fun (items, rest) => (.list items, rest)
  | fuel + 1, depth + 1, '{' :: cs => do
    let (pairs, rest) ← pairs? fuel depth [] cs
    let entries ← inlineEntries? pairs
    some (.table (ofEntries entries), rest)
  | _, _, cs => scalarValue? cs

/-- The items of a list up to its closing bracket, after those in `before`. -/
def items? (fuel depth : Nat) (before : List Toml) (cs : List Char) :
    Option (List Toml × List Char) :=
  match fuel with
  | 0 => none
  | fuel + 1 =>
    match skipGaps cs with
    | ']' :: rest => some (before.reverse, rest)
    | cs => do
      let (item, rest) ← value? fuel depth cs
      match skipGaps rest with
      | ',' :: rest => items? fuel depth (item :: before) rest
      | ']' :: rest => some ((item :: before).reverse, rest)
      | _ => none

/-- The keys and values of an inline table up to its closing brace, after those in `before`. -/
def pairs? (fuel depth : Nat) (before : List (Key × Toml)) (cs : List Char) :
    Option (List (Key × Toml) × List Char) :=
  match fuel with
  | 0 => none
  | fuel + 1 =>
    match skipBlanks cs, before with
    | '}' :: rest, [] => some ([], rest)
    | cs, before => do
      let (key, rest) ← key? cs
      let rest ← after? '=' rest
      let (value, rest) ← value? fuel depth (skipBlanks rest)
      match skipBlanks rest with
      | ',' :: rest => pairs? fuel depth ((key, value) :: before) rest
      | '}' :: rest => some (((key, value) :: before).reverse, rest)
      | _ => none

end

/-! ## Documents -/

/-- The rest of a text after the end of a line: blanks, a comment or none, and a line break or
the end of the text. -/
def endOfLine? (cs : List Char) : Option (List Char) :=
  match skipComment (skipBlanks cs) with
  | [] => some []
  | cs => newline? cs

/-- A statement at the start of a line, up to the end of the line. -/
def statement? : List Char → Option (Statement × List Char)
  | '[' :: '[' :: cs => do
    let (key, rest) ← key? cs
    let rest ← after? ']' rest
    let rest ← after? ']' rest
    some (.element key, ← endOfLine? rest)
  | '[' :: cs => do
    let (key, rest) ← key? cs
    let rest ← after? ']' rest
    some (.table key, ← endOfLine? rest)
  | cs => do
    let (key, rest) ← key? cs
    let rest ← after? '=' rest
    let (value, rest) ← value? (2 * cs.length + 2) nestingLimit.pred (skipBlanks rest)
    some (.assignment key value, ← endOfLine? rest)

/-- The statements of a text, after those in `before`. -/
def statementsFrom? (fuel : Nat) (before : List Statement) (cs : List Char) :
    Option (List Statement) :=
  match fuel with
  | 0 => none
  | fuel + 1 =>
    let cs := skipBlanks cs
    if cs.isEmpty then some before.reverse
    else
      match endOfLine? cs with
      | some rest => statementsFrom? fuel before rest
      | none => do
        let (statement, rest) ← statement? cs
        statementsFrom? fuel (statement :: before) rest

/-- The statements of a text. -/
def statements? (cs : List Char) : Option (List Statement) :=
  statementsFrom? (cs.length + 1) [] cs

/-- The document that a text writes. A byte order mark at its start does not count. -/
def read? (text : String) : Option Toml := do
  let cs :=
    match text.toList with
    | '\ufeff' :: cs => cs
    | cs => cs
  assemble (← statements? cs)

end ReplicaPolicy.Toml
