import ReplicaPolicy.Proofs.Condition.Clauses

set_option relaxedAutoImplicit false
set_option autoImplicit false

/-!
# Which conditions compile

A clause is the name of a truth value, with `not` before or behind it or without, or it compares an
attribute of another type with a literal. This file says so as a relation on the words of a clause,
and shows that a condition compiles exactly when each of its clauses is written so. Each clause then
gives the predicate that it writes.

## Main definitions

* `ReplicaPolicy.Operator.Compares` — an operator compares values of a type with literals.
* `ReplicaPolicy.Attribute.Takes` — a text can be compared with an attribute.
* `ReplicaPolicy.Clause.Writes` — words write a clause about an attribute.

## Main results

* `ReplicaPolicy.Literal.exists_compile_iff` — the texts that give a literal.
* `ReplicaPolicy.Clause.Writes.unique` — words write at most one clause.
* `ReplicaPolicy.Condition.exists_compileClause_iff` — the clauses that compile.
* `ReplicaPolicy.Condition.compile_iff_writes` — the conditions that compile, and what they compile
  to.
-/

namespace ReplicaPolicy

/-! ## Operators -/

namespace Operator

/-- An operator compares values of a type with literals: equality values of any type but truth
values, order only numbers and instants. -/
def Compares (op : Operator) (type : ValueType) : Prop :=
  (op = .equal ∨ op = .notEqual) ∧ type ≠ .bool ∨
    (op = .less ∨ op = .lessOrEqual ∨ op = .greater ∨ op = .greaterOrEqual) ∧
      (type = .numeric ∨ type = .time)

instance (op : Operator) (type : ValueType) : Decidable (op.Compares type) :=
  inferInstanceAs (Decidable (_ ∨ _))

/-- A truth value can be asked for as it is or negated; values of other types are compared. -/
lemma isValidFor_iff (op : Operator) (type : ValueType) :
    op.isValidFor type = true ↔
      type = .bool ∧ (op = .holds ∨ op = .negated) ∨ op.Compares type := by
  cases op <;> cases type <;> decide

/-- Truth values are not compared. -/
lemma Compares.ne_bool {op : Operator} {type : ValueType} (h : op.Compares type) :
    type ≠ .bool := by
  rintro rfl
  revert h
  cases op <;> decide

/-- An operator that compares is written. -/
lemma Compares.text_ne_empty {op : Operator} {type : ValueType} (h : op.Compares type) :
    op.text ≠ "" := by
  revert h
  cases op <;> cases type <;> decide

/-- No two operators have the same text. -/
lemma text_injective : Function.Injective text := by
  intro op op' h
  have hsome := ofText?_text op
  rw [h, ofText?_text op'] at hsome
  exact (Option.some.inj hsome).symm

/-- An operator is told by its text. -/
lemma ofText?_eq_some_iff {text : String} {op : Operator} :
    ofText? text = some op ↔ op.text = text := by
  constructor
  · exact text_of_ofText?
  · rintro rfl
    exact ofText?_text op

end Operator

/-- The operator of an attribute is told by its text, and must be valid for the type. -/
lemma Predicate.operatorFor_eq_ok_iff {b : BoundAttribute} {text : String} {op : Operator} :
    operatorFor b text = .ok op ↔ op.text = text ∧ op.isValidFor b.valueType = true := by
  rw [← Operator.ofText?_eq_some_iff, operatorFor]
  cases h : (Operator.ofText? text).filter fun op => op.isValidFor b.valueType with
  | none =>
    rw [Option.filter_eq_none_iff] at h
    simpa using h op
  | some op' =>
    rw [Option.filter_eq_some_iff] at h
    constructor
    · intro heq
      obtain rfl := Except.ok.inj heq
      exact h
    · rintro ⟨hop, -⟩
      rw [Option.some.inj (hop.symm.trans h.1)]

/-! ## Literals -/

/-- A text can be compared with an attribute. Nothing can be compared with a truth value. -/
inductive Attribute.Takes (a : Attribute) (text : String) : Prop
  /-- A number is compared with what a symbol of the attribute stands for. -/
  | symbol {symbols : String → Option Value} (type : a.valueType = .numeric)
      (has : a.symbols? = some symbols) (known : (symbols text).isSome = true) : Takes a text
  /-- A number is compared with a number. -/
  | number (type : a.valueType = .numeric)
      (spelled : (Decimal.literal? text.toList).isSome = true) : Takes a text
  /-- An instant is compared with a time. -/
  | time (type : a.valueType = .time) (told : (Instant.read? text).isSome = true) : Takes a text
  /-- A text is compared with a glob. -/
  | glob {g : Glob} (type : a.valueType = .text) (written : Glob.compile text = .ok g) :
      Takes a text

/-- What can be compared with an attribute is no truth value. -/
lemma Attribute.Takes.ne_bool {a : Attribute} {text : String} (h : a.Takes text) :
    a.valueType ≠ .bool := by
  cases h with
  | symbol type | number type | time type | glob type => simp [type]

/-- The symbols of a coded type stand for numbers. -/
lemma GlobalAttribute.number_of_symbolOf? {α : Type} [Coded α] {text : String} {value : Value}
    (h : symbolOf? α text = some value) : ∃ x, value = .number x := by
  obtain ⟨a, -, rfl⟩ := Option.map_eq_some_iff.1 h
  exact ⟨_, rfl⟩

/-- Only numbers have symbols, and these stand for numbers. -/
lemma Attribute.numeric_of_symbols? {a : Attribute} {symbols : String → Option Value}
    (h : a.symbols? = some symbols) :
    a.valueType = .numeric ∧ ∀ text value, symbols text = some value → ∃ x, value = .number x := by
  cases a with
  | ofPartition a => exact absurd h (by simp [symbols?])
  | global a =>
    cases a with
    | datasetStatus | onTape | siteStatus | siteActivity =>
      obtain rfl := Option.some.inj h
      exact ⟨rfl, fun _ _ => GlobalAttribute.number_of_symbolOf?⟩
    | _ => exact absurd h (by simp [symbols?, GlobalAttribute.symbols?])

namespace Literal

variable {b : BoundAttribute} {text : String}

/-- A truth value takes no text. -/
lemma compile_of_bool (hb : b.valueType = .bool) :
    compile b text =
      if text.isEmpty then .ok .absent
      else .error (.invalidLiteral b.name text .takesNoValue) := by
  unfold compile
  rw [hb]

/-- A text that is not empty gives what it stands for as a symbol, or else what it spells. -/
lemma compile_of_ne_bool (hb : b.valueType ≠ .bool) (ht : text ≠ "") :
    compile b text =
      match b.symbols?.bind fun symbols => symbols text with
      | some value => ofValue (.invalidLiteral b.name text) value
      | none => ofSpelling b (.invalidLiteral b.name text) text := by
  have he : text.isEmpty = false := by simpa [String.isEmpty_iff] using ht
  unfold compile
  split
  · exact absurd ‹_› hb
  · rw [he]
    rfl

/-- No other attribute than a truth value takes the empty text. -/
lemma compile_empty_ne_ok (hb : b.valueType ≠ .bool) (l : Literal) : compile b "" ≠ .ok l := by
  unfold compile
  split
  · exact absurd ‹_› hb
  · simp

/-- What gives a literal for another attribute than a truth value can be compared with it.

**Proof sketch.** A symbol is known, or else the text is spelled as the type of the attribute
asks. -/
lemma takes_of_compile (hb : b.valueType ≠ .bool) {l : Literal} (h : compile b text = .ok l) :
    b.unbound.Takes text := by
  have ht : text ≠ "" := by
    rintro rfl
    exact compile_empty_ne_ok hb l h
  rw [compile_of_ne_bool hb ht] at h
  cases hs : b.symbols?.bind fun symbols => symbols text with
  | some value =>
    obtain ⟨symbols, hhas, hknown⟩ := Option.bind_eq_some_iff.1 hs
    exact .symbol (Attribute.numeric_of_symbols? hhas).1 hhas (by rw [hknown]; rfl)
  | none =>
    rw [hs] at h
    dsimp only at h
    unfold ofSpelling at h
    cases htype : b.valueType with
    | bool => exact absurd htype hb
    | numeric =>
      cases hx : Decimal.literal? text.toList with
      | none => simp [htype, hx] at h
      | some x => exact .number htype (by rw [hx]; rfl)
    | time =>
      cases hx : Instant.read? text with
      | none => simp [htype, hx] at h
      | some t => exact .time htype (by rw [hx]; rfl)
    | text =>
      rw [htype] at h
      obtain ⟨g, hg, -⟩ := except_map_eq_ok_iff.1 h
      exact .glob htype hg

/-- A text that is not empty and can be compared with an attribute gives a literal for it.

**Proof sketch.** If it is a symbol, it stands for a number. If it is none, it is spelled as the
type of the attribute asks. -/
lemma exists_compile_of_takes (ht : text ≠ "") (h : b.unbound.Takes text) :
    ∃ l, compile b text = .ok l := by
  rw [compile_of_ne_bool h.ne_bool ht]
  cases hs : b.symbols?.bind fun symbols => symbols text with
  | some value =>
    obtain ⟨symbols, hhas, hvalue⟩ := Option.bind_eq_some_iff.1 hs
    obtain ⟨x, rfl⟩ := (Attribute.numeric_of_symbols? hhas).2 text value hvalue
    exact ⟨.number x, rfl⟩
  | none =>
    dsimp only
    unfold ofSpelling
    cases h with
    | @symbol symbols type has known =>
      obtain ⟨value, hvalue⟩ := Option.isSome_iff_exists.1 known
      have hsome : (b.symbols?.bind fun symbols => symbols text) = some value :=
        Option.bind_eq_some_iff.2 ⟨symbols, has, hvalue⟩
      exact absurd (hs.symm.trans hsome) (by simp)
    | number type spelled =>
      obtain ⟨x, hx⟩ := Option.isSome_iff_exists.1 spelled
      have htype : b.valueType = .numeric := type
      exact ⟨.number x, by rw [htype, hx]⟩
    | time type told =>
      obtain ⟨t, hx⟩ := Option.isSome_iff_exists.1 told
      have htype : b.valueType = .time := type
      exact ⟨.time t, by rw [htype, hx]⟩
    | @glob g type written =>
      have htype : b.valueType = .text := type
      refine ⟨.glob g, ?_⟩
      rw [htype]
      exact except_map_eq_ok_iff.2 ⟨g, written, rfl⟩

/-- **The texts that give a literal**: none for a truth value, and for another attribute a text that
can be compared with it. -/
theorem exists_compile_iff :
    (∃ l, compile b text = .ok l) ↔
      b.valueType = .bool ∧ text = "" ∨ text ≠ "" ∧ b.unbound.Takes text := by
  constructor
  · rintro ⟨l, hl⟩
    by_cases hb : b.valueType = .bool
    · refine .inl ⟨hb, ?_⟩
      rw [compile_of_bool hb] at hl
      by_contra ht
      simp [String.isEmpty_iff, ht] at hl
    · refine .inr ⟨?_, takes_of_compile hb hl⟩
      rintro rfl
      exact compile_empty_ne_ok hb l hl
  · rintro (⟨hb, rfl⟩ | ⟨ht, h⟩)
    · exact ⟨.absent, compile_of_bool hb⟩
    · exact exists_compile_of_takes ht h

end Literal

/-! ## Clauses -/

/-- A predicate is made of its attribute, its operator and its literal. -/
lemma Predicate.compile_eq_ok_iff {b : BoundAttribute} {operator literal : String}
    {p : Predicate} :
    compile b operator literal = .ok p ↔
      p.subject = b ∧ operatorFor b operator = .ok p.operator ∧
        Literal.compile b literal = .ok p.literal := by
  obtain ⟨subject, op, value⟩ := p
  simp only [compile, except_bind_eq_ok_iff]
  constructor
  · rintro ⟨op', hop, value', hvalue, h⟩
    obtain ⟨rfl, rfl, rfl⟩ := Predicate.mk.inj (Except.ok.inj h)
    exact ⟨rfl, hop, hvalue⟩
  · rintro ⟨rfl, hop, hvalue⟩
    exact ⟨op, hop, value, hvalue, rfl⟩

/-- Attributes are told by their names. -/
lemma Attribute.ofName?_eq_some_iff {text : String} {a : Attribute} :
    ofName? text = some a ↔ a.name = text := by
  constructor
  · exact name_of_ofName?
  · rintro rfl
    exact ofName?_name a

/-- A partition is needed by the attributes that are about one. -/
lemma Attribute.exists_bind_iff {a : Attribute} {partition : Option String} :
    (∃ b, a.bind partition = .ok b) ↔ (a.isPartitioned = true → partition.isSome = true) := by
  cases a <;> cases partition <;> simp [bind, isPartitioned]

/-- Truth values are about no partition. -/
lemma Attribute.isPartitioned_of_bool {a : Attribute} (h : a.valueType = .bool) :
    a.isPartitioned = false := by
  cases a with
  | global a => rfl
  | ofPartition a => exact absurd h (by simp [valueType])

/-- An attribute with its partition is the same attribute. -/
lemma Attribute.unbound_of_bind {a : Attribute} {partition : Option String} {b : BoundAttribute}
    (h : a.bind partition = .ok b) : b.unbound = a := by
  cases a with
  | global a =>
    obtain rfl := Except.ok.inj h
    rfl
  | ofPartition a =>
    cases partition with
    | none => exact absurd h (by simp [bind])
    | some partition =>
      obtain rfl := Except.ok.inj h
      rfl

namespace Clause

/-- The words of a clause write a clause about an attribute, by an operator. -/
inductive Writes (partition : Option String) : List (List Char) → Attribute → Operator → Prop
  /-- A truth value alone. -/
  | alone {a : Attribute} (type : a.valueType = .bool) : Writes partition [a.name.toList] a .holds
  /-- A truth value that is negated behind its name. -/
  | negatedBehind {a : Attribute} (type : a.valueType = .bool) :
      Writes partition [a.name.toList, negation] a .negated
  /-- A truth value that is negated before its name. -/
  | negatedBefore {a : Attribute} (type : a.valueType = .bool) :
      Writes partition [negation, a.name.toList] a .negated
  /-- An attribute of another type that is compared with one word or more. Where it is about a
  partition, one is given. -/
  | comparison {a : Attribute} {op : Operator} {word : List Char} {others : List (List Char)}
      (compares : op.Compares a.valueType)
      (given : a.isPartitioned = true → partition.isSome = true)
      (taken : a.Takes (String.ofList (Text.unwords (word :: others)))) :
      Writes partition (a.name.toList :: op.text.toList :: word :: others) a op

variable {partition : Option String}

/-- No attribute has the name `not`. -/
lemma name_ne_negation (a : Attribute) : a.name.toList ≠ negation := by
  obtain a | a := a <;> cases a <;> decide

/-- What words say that do not start with `not`. -/
lemma ofWords?_of_ne_negation {first : List Char} (h : first ≠ negation) (second : List Char)
    (rest : List (List Char)) :
    ofWords? (first :: second :: rest) =
      some ⟨String.ofList first, String.ofList second, String.ofList (Text.unwords rest)⟩ := by
  simp [ofWords?, h]

/-- What words say that start with `not`. -/
lemma ofWords?_negation (second : List Char) (rest : List (List Char)) :
    ofWords? (negation :: second :: rest) =
      some ⟨String.ofList second, Operator.negated.text, String.ofList (Text.unwords rest)⟩ := by
  simp [ofWords?, negation, Operator.text]

/-- A clause compiles to a predicate about the attribute of its name, with its operator and its
literal. -/
lemma compile_eq_ok_iff {c : Clause} {p : Predicate} :
    c.compile partition = .ok p ↔
      ∃ a : Attribute, a.name = c.name ∧ a.bind partition = .ok p.subject ∧
        (p.operator.text = c.operator ∧ p.operator.isValidFor p.subject.valueType = true) ∧
        Literal.compile p.subject c.literal = .ok p.literal := by
  unfold compile
  simp only [← Attribute.ofName?_eq_some_iff, ← Predicate.operatorFor_eq_ok_iff]
  cases hn : Attribute.ofName? c.name with
  | none => simp
  | some a =>
    simp only [except_bind_eq_ok_iff, Predicate.compile_eq_ok_iff, Option.some.injEq,
      exists_eq_left']
    constructor
    · rintro ⟨b, hb, rfl, h⟩
      exact ⟨hb, h⟩
    · rintro ⟨hb, h⟩
      exact ⟨p.subject, hb, rfl, h⟩

/-- Behind a truth value and its operator no word is left. -/
lemma rest_eq_nil_of_bool {b : BoundAttribute} {rest : List (List Char)} {l : Literal}
    (hb : b.valueType = .bool) (hrest : ∀ word ∈ rest, Text.IsUnbroken word)
    (h : Literal.compile b (String.ofList (Text.unwords rest)) = .ok l) : rest = [] := by
  rcases Literal.exists_compile_iff.1 ⟨l, h⟩ with ⟨-, hempty⟩ | ⟨-, htakes⟩
  · exact (Text.unwords_eq_nil_iff hrest).1 (String.ofList_eq_empty_iff.1 hempty)
  · exact absurd hb htakes.ne_bool

/-- Words that compile write a clause about the attribute of the predicate, by its operator.

**Proof sketch.** By whether the words start with `not`, and by the type for which the operator is
valid. -/
theorem writes_of_compile {ws : List (List Char)} (hws : ∀ word ∈ ws, Text.IsUnbroken word)
    {c : Clause} (hc : ofWords? ws = some c) {p : Predicate} (h : c.compile partition = .ok p) :
    ∃ a : Attribute, a.bind partition = .ok p.subject ∧ Writes partition ws a p.operator := by
  obtain ⟨a, hname, hbind, ⟨hop, hvalid⟩, hliteral⟩ := compile_eq_ok_iff.1 h
  have htype : p.subject.valueType = a.valueType := by rw [← Attribute.unbound_of_bind hbind]; rfl
  refine ⟨a, hbind, ?_⟩
  rw [Operator.isValidFor_iff, htype] at hvalid
  rcases ws with _ | ⟨first, _ | ⟨second, rest⟩⟩
  · exact absurd hc (by simp [ofWords?])
  · obtain rfl := Option.some.inj hc
    obtain rfl : a.name.toList = first := by rw [hname, String.toList_ofList]
    rcases hvalid with ⟨hbool, hholds | hnegated⟩ | hcompares
    · rw [hholds]
      exact .alone hbool
    · have hempty : Operator.negated.text = "" := hnegated ▸ hop
      exact absurd hempty (by decide)
    · exact absurd hop hcompares.text_ne_empty
  · have hrest : ∀ word ∈ rest, Text.IsUnbroken word := fun w hw => hws w (by simp [hw])
    by_cases hfirst : first = negation
    · subst hfirst
      rw [ofWords?_negation] at hc
      obtain rfl := Option.some.inj hc
      obtain rfl : a.name.toList = second := by rw [hname, String.toList_ofList]
      have hnegated : p.operator = .negated := Operator.text_injective hop
      rw [hnegated] at hvalid ⊢
      rcases hvalid with ⟨hbool, -⟩ | hcompares
      · obtain rfl := rest_eq_nil_of_bool (htype.trans hbool) hrest hliteral
        exact .negatedBefore hbool
      · exact absurd hcompares (by simp [Operator.Compares])
    · rw [ofWords?_of_ne_negation hfirst] at hc
      obtain rfl := Option.some.inj hc
      obtain rfl : a.name.toList = first := by rw [hname, String.toList_ofList]
      obtain rfl : p.operator.text.toList = second := by rw [hop, String.toList_ofList]
      rcases hvalid with ⟨hbool, hholds | hnegated⟩ | hcompares
      · have hunbroken := hws p.operator.text.toList (by simp)
        rw [hholds] at hunbroken
        exact absurd hunbroken (by decide)
      · obtain rfl := rest_eq_nil_of_bool (htype.trans hbool) hrest hliteral
        rw [hnegated]
        exact .negatedBehind hbool
      · rcases Literal.exists_compile_iff.1 ⟨p.literal, hliteral⟩ with ⟨hbool, -⟩ | ⟨hne, htakes⟩
        · exact absurd (htype.symm.trans hbool) hcompares.ne_bool
        · rw [Attribute.unbound_of_bind hbind] at htakes
          cases rest with
          | nil => exact absurd rfl hne
          | cons word others =>
            exact .comparison hcompares (Attribute.exists_bind_iff.1 ⟨_, hbind⟩) htakes

/-- A clause compiles where its attribute can be bound, the operator is valid, and there is a
literal. -/
lemma exists_compile {a : Attribute} {op : Operator} {literal : String}
    (given : a.isPartitioned = true → partition.isSome = true)
    (valid : op.isValidFor a.valueType = true)
    (taken : a.valueType = .bool ∧ literal = "" ∨ literal ≠ "" ∧ a.Takes literal) :
    ∃ p, compile partition ⟨a.name, op.text, literal⟩ = .ok p := by
  obtain ⟨b, hb⟩ := Attribute.exists_bind_iff.2 given
  have hunbound := Attribute.unbound_of_bind hb
  subst hunbound
  obtain ⟨l, hl⟩ := Literal.exists_compile_iff.2 taken
  exact ⟨⟨b, op, l⟩, compile_eq_ok_iff.2 ⟨b.unbound, rfl, hb, ⟨rfl, valid⟩, hl⟩⟩

/-- Words that write a clause say its attribute, its operator and a literal, and that compiles.

**Proof sketch.** By the shape of the clause. A truth value needs no partition and no literal; what
is compared has a literal, and where it needs a partition one is given. -/
theorem Writes.exists_compile {ws : List (List Char)} {a : Attribute} {op : Operator}
    (h : Writes partition ws a op) (hws : ∀ word ∈ ws, Text.IsUnbroken word) :
    ∃ literal p, ofWords? ws = some ⟨a.name, op.text, literal⟩ ∧
      compile partition ⟨a.name, op.text, literal⟩ = .ok p := by
  have hbool : ∀ op : Operator, a.valueType = .bool → op = .holds ∨ op = .negated →
      ∃ p, compile partition ⟨a.name, op.text, ""⟩ = .ok p := by
    intro op htype hop
    refine Clause.exists_compile ?_ ?_ (.inl ⟨htype, rfl⟩)
    · rw [Attribute.isPartitioned_of_bool htype]
      exact fun hfalse => absurd hfalse (by decide)
    · exact (Operator.isValidFor_iff op _).2 (.inl ⟨htype, hop⟩)
  cases h with
  | alone type =>
    obtain ⟨p, hp⟩ := hbool .holds type (.inl rfl)
    refine ⟨"", p, ?_, hp⟩
    rw [ofWords?, String.ofList_toList]
    rfl
  | negatedBehind type =>
    obtain ⟨p, hp⟩ := hbool .negated type (.inr rfl)
    refine ⟨"", p, ?_, hp⟩
    rw [ofWords?_of_ne_negation (name_ne_negation a), String.ofList_toList]
    rfl
  | negatedBefore type =>
    obtain ⟨p, hp⟩ := hbool .negated type (.inr rfl)
    refine ⟨"", p, ?_, hp⟩
    rw [ofWords?_negation, String.ofList_toList]
    rfl
  | @comparison a op word others compares given taken =>
    have hvalid := (Operator.isValidFor_iff op a.valueType).2 (.inr compares)
    have hne : String.ofList (Text.unwords (word :: others)) ≠ "" := by
      intro hempty
      have hnil := (Text.unwords_eq_nil_iff fun w hw => hws w (by simp_all)).1
        (String.ofList_eq_empty_iff.1 hempty)
      exact absurd hnil (List.cons_ne_nil _ _)
    obtain ⟨p, hp⟩ := Clause.exists_compile given hvalid (.inr ⟨hne, taken⟩)
    refine ⟨_, p, ?_, hp⟩
    rw [ofWords?_of_ne_negation (name_ne_negation a), String.ofList_toList, String.ofList_toList]

/-- **Words write at most one clause**: they tell its attribute and its operator. -/
theorem Writes.unique {ws : List (List Char)} {a a' : Attribute} {op op' : Operator}
    (h : Writes partition ws a op) (h' : Writes partition ws a' op')
    (hws : ∀ word ∈ ws, Text.IsUnbroken word) : a = a' ∧ op = op' := by
  obtain ⟨literal, -, hread, -⟩ := h.exists_compile hws
  obtain ⟨literal', -, hread', -⟩ := h'.exists_compile hws
  obtain ⟨hname, hop, -⟩ := Clause.mk.inj (Option.some.inj (hread.symm.trans hread'))
  have hsome : Attribute.ofName? a'.name = some a := Attribute.ofName?_eq_some_iff.2 hname
  exact ⟨Option.some.inj (hsome.symm.trans (Attribute.ofName?_name a')),
    Operator.text_injective hop⟩

end Clause

/-! ## Conditions -/

namespace Condition

variable {partition : Option String} {text : String} {clause : List Char}

/-- A clause of a condition is compiled from its words. -/
lemma compileClause_eq_ok_iff {p : Predicate} :
    compileClause partition text clause = .ok p ↔
      ∃ c, Clause.ofWords? (Text.words clause) = some c ∧ c.compile partition = .ok p := by
  unfold compileClause
  cases Clause.ofWords? (Text.words clause) <;> simp

/-- A clause that compiles writes a clause about the attribute of its predicate, by its operator. -/
lemma writes_of_compileClause {p : Predicate} (h : compileClause partition text clause = .ok p) :
    ∃ a : Attribute, a.bind partition = .ok p.subject ∧
      Clause.Writes partition (Text.words clause) a p.operator := by
  obtain ⟨c, hc, hp⟩ := compileClause_eq_ok_iff.1 h
  exact Clause.writes_of_compile (fun _ => Text.isUnbroken_of_mem_words) hc hp

/-- **The clauses that compile** are those whose words write a clause. -/
theorem exists_compileClause_iff :
    (∃ p, compileClause partition text clause = .ok p) ↔
      ∃ a op, Clause.Writes partition (Text.words clause) a op := by
  constructor
  · rintro ⟨p, hp⟩
    obtain ⟨a, -, hwrites⟩ := writes_of_compileClause hp
    exact ⟨a, p.operator, hwrites⟩
  · rintro ⟨a, op, h⟩
    obtain ⟨_, p, hc, hp⟩ := h.exists_compile fun _ => Text.isUnbroken_of_mem_words
    exact ⟨p, compileClause_eq_ok_iff.2 ⟨_, hc, hp⟩⟩

/-- **Which conditions compile, and to what.** A condition compiles if and only if it is blank or
the words of each of its clauses write one. Then a blank condition has no predicate, and any other
one predicate for each clause, in order: about the attribute of the clause, by its operator. -/
theorem compile_iff_writes (partition : Option String) (text : String) :
    ((∃ c, compile partition text = .ok c) ↔
        Text.trim text.toList = [] ∨
          ∀ clause ∈ clauses text.toList,
            ∃ a op, Clause.Writes partition (Text.words clause) a op) ∧
      ∀ c, compile partition text = .ok c →
        (Text.trim text.toList = [] → c.predicates = []) ∧
          (Text.trim text.toList ≠ [] →
            List.Forall₂ (fun clause p => ∃ a : Attribute, a.bind partition = .ok p.subject ∧
              Clause.Writes partition (Text.words clause) a p.operator)
              (clauses text.toList) c.predicates) := by
  constructor
  · rw [exists_compile_iff]
    by_cases hblank : Text.trim text.toList = []
    · rw [clausesOf_of_blank hblank]
      simp [hblank]
    · rw [clausesOf_of_not_blank hblank]
      simp only [exists_compileClause_iff, hblank, false_or]
  · intro c hc
    obtain ⟨-, hpredicates⟩ := compile_eq_ok_iff.1 hc
    constructor
    · intro hblank
      rw [clausesOf_of_blank hblank] at hpredicates
      exact List.forall₂_nil_left_iff.1 hpredicates
    · intro hne
      rw [clausesOf_of_not_blank hne] at hpredicates
      exact hpredicates.imp fun _ _ => writes_of_compileClause

end Condition

end ReplicaPolicy
