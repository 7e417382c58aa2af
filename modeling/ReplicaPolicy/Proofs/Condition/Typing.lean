import ReplicaPolicy.Proofs.Condition.Grammar

set_option relaxedAutoImplicit false
set_option autoImplicit false

/-!
# Predicates are well typed

What a predicate compares has the type that the attribute is declared with, and so has the literal
that it is compared with; and the operator is one for values of this type. Declared types, values
and symbols are told apart from each other, so this is no matter of course. It means that a
predicate which compiles always has an answer: it never fails to hold because its parts do not fit.

## Main definitions

* `ReplicaPolicy.Literal.type` — the type of the values that are compared with a literal.
* `ReplicaPolicy.Fits` — a value and a literal that can be compared.
* `ReplicaPolicy.Predicate.WellTyped` — the parts of a predicate fit its attribute.
* `ReplicaPolicy.Predicate.answer?` — whether a predicate holds, where its parts fit.

## Main results

* `ReplicaPolicy.Predicate.holds_eq_getD_answer?` — a predicate without an answer does not hold.
* `ReplicaPolicy.Literal.type_of_compile` — a literal has the type of its attribute.
* `ReplicaPolicy.Literal.compile_ne_booleanSymbol` — no symbol is complained about as a truth value.
* `ReplicaPolicy.Predicate.WellTyped.answer?_eq` — a well-typed predicate has an answer.
* `ReplicaPolicy.Predicate.compile_wellTyped` — predicates are well typed.
* `ReplicaPolicy.Condition.wellTyped_of_mem` — and so are those of a condition.
-/

namespace ReplicaPolicy

/-! ## Values and literals -/

/-- The type of the values that are compared with a literal. -/
def Literal.type : Literal → ValueType
  | .absent => .bool
  | .number _ => .numeric
  | .time _ => .time
  | .glob _ => .text

/-- A value and a literal that can be compared: of one type, or a truth value and nothing. -/
inductive Fits : Value → Literal → Prop
  /-- A truth value is not compared. -/
  | truth (b : Bool) : Fits (.bool b) .absent
  /-- A number with a number. -/
  | number (x y : Float) : Fits (.number x) (.number y)
  /-- An instant with an instant. -/
  | time (t u : Instant) : Fits (.time t) (.time u)
  /-- A text with a glob. -/
  | text (t : String) (g : Glob) : Fits (.text t) (.glob g)

/-- A value and a literal of one type fit. -/
lemma fits_of_type_eq {x : Value} {l : Literal} (h : x.type = l.type) : Fits x l := by
  cases x <;> cases l <;> first | constructor | simp [Value.type, Literal.type] at h

/-! ## Answers -/

/-- Whether a comparison with this outcome satisfies the operator, if this is one that compares. -/
def Operator.accepts? (op : Operator) (o : Ordering) : Option Bool :=
  match op with
  | .holds | .negated => none
  | _ => some (op.accepts o)

/-- An operator that does not compare is satisfied by no outcome. -/
lemma Operator.accepts_eq_getD (op : Operator) (o : Ordering) :
    op.accepts o = (op.accepts? o).getD false := by
  cases op <;> rfl

/-- An operator that is valid for other values than truth values and texts compares. -/
lemma Operator.accepts?_eq {op : Operator} {type : ValueType} (hvalid : op.isValidFor type = true)
    (htype : type = .numeric ∨ type = .time) (o : Ordering) :
    op.accepts? o = some (op.accepts o) := by
  rcases htype with rfl | rfl <;> cases op <;> first | rfl | exact absurd hvalid (by decide)

namespace Predicate

/-- Whether the predicate holds for a replica, where the value, the operator and the literal fit; no
answer where they do not. -/
def answer? (p : Predicate) (v : View) (demand : Demand) : Option Bool :=
  match p.subject.value v demand, p.literal with
  | .bool b, .absent => some (if p.operator = .negated then !b else b)
  | .number x, .number y =>
    match Decimal.ordering? x y with
    | none => some false
    | some o => p.operator.accepts? o
  | .time t, .time u => p.operator.accepts? (t.ordering u)
  | .text t, .glob g =>
    match p.operator with
    | .equal => some (g.selects t)
    | .notEqual => some (!g.selects t)
    | _ => none
  | _, _ => none

/-- **A predicate without an answer does not hold**, and any other one holds as it answers. -/
theorem holds_eq_getD_answer? (p : Predicate) (v : View) (demand : Demand) :
    p.holds v demand = (p.answer? v demand).getD false := by
  unfold holds answer?
  -- The literal is taken apart for each kind of value. Most of these pairs have no answer.
  cases p.subject.value v demand with
  | bool b => cases p.literal <;> rfl
  | number x =>
    cases p.literal with
    | number y =>
      dsimp only
      cases Decimal.ordering? x y with
      | none => rfl
      | some o => exact p.operator.accepts_eq_getD o
    | _ => rfl
  | time t =>
    cases p.literal with
    | time u => exact p.operator.accepts_eq_getD (t.ordering u)
    | _ => rfl
  | text t =>
    cases p.literal with
    | glob g => cases p.operator <;> rfl
    | _ => rfl

/-- The parts of a predicate fit its attribute. -/
structure WellTyped (p : Predicate) : Prop where
  /-- The literal is one for values of the declared type. -/
  type_literal : p.literal.type = p.subject.valueType
  /-- The operator is one for values of the declared type. -/
  isValidFor_operator : p.operator.isValidFor p.subject.valueType = true

/-- The value of the attribute fits the literal. -/
lemma WellTyped.fits {p : Predicate} (h : p.WellTyped) (v : View) (demand : Demand) :
    Fits (p.subject.value v demand) p.literal :=
  fits_of_type_eq ((p.subject.type_value v demand).trans h.type_literal.symm)

/-- **A well-typed predicate has an answer.** -/
theorem WellTyped.answer?_eq {p : Predicate} (h : p.WellTyped) (v : View) (demand : Demand) :
    p.answer? v demand = some (p.holds v demand) := by
  have hvalid := h.isValidFor_operator
  rw [← h.type_literal] at hvalid
  have hfits := h.fits v demand
  rw [holds_eq_getD_answer?]
  unfold answer?
  generalize p.subject.value v demand = x at hfits ⊢
  generalize p.literal = l at hvalid hfits ⊢
  cases hfits with
  | truth b => rfl
  | number x y =>
    dsimp only
    cases Decimal.ordering? x y with
    | none => rfl
    | some o => simp only [Operator.accepts?_eq hvalid (.inl rfl), Option.getD_some]
  | time t u => simp only [Operator.accepts?_eq hvalid (.inr rfl), Option.getD_some]
  | text t g =>
    have hop : p.operator = .equal ∨ p.operator = .notEqual := by
      replace hvalid : p.operator.isValidFor .text = true := hvalid
      revert hvalid
      cases p.operator <;> decide
    rcases hop with hop | hop <;> rw [hop] <;> rfl

end Predicate

/-! ## Compiling -/

namespace Literal

variable {b : BoundAttribute} {text : String}

/-- What a symbol of an attribute stands for is a number, and the attribute is declared numeric. -/
lemma number_of_symbol {value : Value}
    (h : (b.symbols?.bind fun symbols => symbols text) = some value) :
    b.valueType = .numeric ∧ ∃ x, value = .number x := by
  obtain ⟨symbols, hsymbols, hvalue⟩ := Option.bind_eq_some_iff.1 h
  obtain ⟨htype, hnumber⟩ := Attribute.numeric_of_symbols? hsymbols
  exact ⟨htype, hnumber text value hvalue⟩

/-- A literal that is spelled has the type of its attribute. -/
lemma type_of_ofSpelling {invalid : LiteralFault → Fault} {l : Literal}
    (h : ofSpelling b invalid text = .ok l) : l.type = b.valueType := by
  unfold ofSpelling at h
  cases htype : b.valueType with
  | bool =>
    simp only [htype] at h
    rw [← Except.ok.inj h]
    rfl
  | numeric =>
    simp only [htype] at h
    cases hx : Decimal.literal? text.toList with
    | none => simp [hx] at h
    | some x =>
      simp only [hx] at h
      rw [← Except.ok.inj h]
      rfl
  | time =>
    simp only [htype] at h
    cases hx : Instant.read? text with
    | none => simp [hx] at h
    | some t =>
      simp only [hx] at h
      rw [← Except.ok.inj h]
      rfl
  | text =>
    simp only [htype] at h
    obtain ⟨g, -, rfl⟩ := except_map_eq_ok_iff.1 h
    rfl

/-- **A literal has the type of its attribute.** -/
theorem type_of_compile {l : Literal} (h : compile b text = .ok l) : l.type = b.valueType := by
  by_cases hb : b.valueType = .bool
  · rw [compile_of_bool hb] at h
    split at h
    · rw [← Except.ok.inj h, hb]
      rfl
    · exact absurd h (by simp)
  · have ht : text ≠ "" := by
      rintro rfl
      exact compile_empty_ne_ok hb l h
    rw [compile_of_ne_bool hb ht] at h
    cases hs : b.symbols?.bind fun symbols => symbols text with
    | some value =>
      obtain ⟨htype, x, rfl⟩ := number_of_symbol hs
      rw [hs] at h
      rw [← Except.ok.inj h, htype]
      rfl
    | none =>
      rw [hs] at h
      exact type_of_ofSpelling h

/-- A text that is no glob is not complained about as a symbol. -/
lemma ofGlob_ne_booleanSymbol (text name literal : String) :
    ofGlob text ≠ .error (.invalidLiteral name literal .booleanSymbol) := by
  rw [ofGlob, Glob.compile]
  cases Glob.ofText? text <;> simp [Except.map]

/-- What is no literal as it is spelled is not complained about as a symbol. -/
lemma ofSpelling_ne_booleanSymbol (b : BoundAttribute) (text name literal : String) :
    ofSpelling b (.invalidLiteral b.name text) text ≠
      .error (.invalidLiteral name literal .booleanSymbol) := by
  unfold ofSpelling
  cases b.valueType with
  | bool => simp
  | numeric => cases Decimal.literal? text.toList <;> cases b.symbols? <;> simp
  | time => cases Instant.read? text <;> simp
  | text => exact ofGlob_ne_booleanSymbol text name literal

/-- **No symbol is complained about as a truth value**: symbols stand for numbers. -/
theorem compile_ne_booleanSymbol (b : BoundAttribute) (text name literal : String) :
    compile b text ≠ .error (.invalidLiteral name literal .booleanSymbol) := by
  by_cases hb : b.valueType = .bool
  · rw [compile_of_bool hb]
    split <;> simp
  · by_cases ht : text = ""
    · subst ht
      unfold compile
      split <;> simp
    · rw [compile_of_ne_bool hb ht]
      cases hs : b.symbols?.bind fun symbols => symbols text with
      | some value =>
        obtain ⟨-, x, rfl⟩ := number_of_symbol hs
        simp [ofValue]
      | none => exact ofSpelling_ne_booleanSymbol b text name literal

end Literal

namespace Predicate

/-- A predicate that compiles is well typed. -/
lemma wellTyped_of_compile {b : BoundAttribute} {operator literal : String} {p : Predicate}
    (h : compile b operator literal = .ok p) : p.WellTyped := by
  obtain ⟨rfl, hop, hl⟩ := compile_eq_ok_iff.1 h
  exact ⟨Literal.type_of_compile hl, (operatorFor_eq_ok_iff.1 hop).2⟩

/-- A predicate that does not compile is not complained about for a symbol of a truth value. -/
lemma compile_ne_booleanSymbol (b : BoundAttribute) (operator literal name text : String) :
    compile b operator literal ≠ .error (.invalidLiteral name text .booleanSymbol) := by
  unfold compile operatorFor
  cases (Operator.ofText? operator).filter fun op => op.isValidFor b.valueType with
  | none => simp [bind, Except.bind]
  | some op =>
    cases hl : Literal.compile b literal with
    | ok l => simp [bind, Except.bind]
    | error fault =>
      rintro h
      rw [Except.error.inj h] at hl
      exact Literal.compile_ne_booleanSymbol b literal name text hl

/-- **Predicates are well typed.** If a predicate about an attribute compiles, then its literal is
one for values of the type that the attribute is declared with, its operator is one for them, every
value of the attribute is of that type, and the predicate always has an answer. Whether it compiles
or not, no symbol is complained about as a truth value. -/
theorem compile_wellTyped {a : Attribute} {partition : Option String} {b : BoundAttribute}
    (hbind : a.bind partition = .ok b) (operator literal : String) :
    (∀ p, compile b operator literal = .ok p →
      p.subject = b ∧ p.literal.type = a.valueType ∧ p.operator.isValidFor a.valueType = true ∧
        ∀ v demand, (p.subject.value v demand).type = a.valueType ∧
          p.answer? v demand = some (p.holds v demand)) ∧
    ∀ name text,
      compile b operator literal ≠ .error (.invalidLiteral name text .booleanSymbol) := by
  obtain rfl := Attribute.unbound_of_bind hbind
  refine ⟨fun p hp => ?_, fun name text => compile_ne_booleanSymbol b operator literal name text⟩
  obtain rfl := subject_of_compile hp
  have hp' := wellTyped_of_compile hp
  refine ⟨rfl, hp'.type_literal, hp'.isValidFor_operator, fun v demand => ?_⟩
  exact ⟨p.subject.type_value v demand, hp'.answer?_eq v demand⟩

/-- A comparison of the occupancy of a partition compiles, and has an answer for every replica. -/
theorem compile_wellTyped_occupancy :
    ∃ p, compile (.ofPartition .occupancy "Physics") ">" "0.9" = .ok p ∧
      p.literal.type = .numeric ∧
      ∀ v demand, p.answer? v demand = some (p.holds v demand) := by
  have hbind : (Attribute.ofPartition .occupancy).bind (some "Physics") =
      .ok (.ofPartition .occupancy "Physics") := rfl
  obtain ⟨hcompiled, -⟩ := compile_wellTyped hbind ">" "0.9"
  have hok : (compile (.ofPartition .occupancy "Physics") ">" "0.9").isOk = true := by
    decide +kernel
  obtain ⟨p, hp⟩ := exists_of_isOk hok
  obtain ⟨-, htype, -, hanswers⟩ := hcompiled p hp
  exact ⟨p, hp, htype, fun v demand => (hanswers v demand).2⟩

end Predicate

/-! ## Conditions -/

/-- **The predicates of a condition are well typed.** -/
theorem Condition.wellTyped_of_mem {partition : Option String} {text : String} {c : Condition}
    (h : compile partition text = .ok c) {p : Predicate} (hp : p ∈ c.predicates) :
    p.WellTyped := by
  obtain ⟨-, hpredicates⟩ := compile_eq_ok_iff.1 h
  -- the predicate at some place is compiled from the clause at this place
  obtain ⟨i, hi, rfl⟩ := List.getElem_of_mem hp
  have hclause := hpredicates.get (by rwa [hpredicates.length_eq]) hi
  obtain ⟨_, -, hcompiled⟩ := compileClause_eq_ok_iff.1 hclause
  obtain ⟨-, -, -, ⟨-, hvalid⟩, hliteral⟩ := Clause.compile_eq_ok_iff.1 hcompiled
  exact ⟨Literal.type_of_compile hliteral, hvalid⟩

end ReplicaPolicy
