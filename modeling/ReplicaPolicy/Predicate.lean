import ReplicaPolicy.Attribute
import ReplicaPolicy.Calendar.Reader
import ReplicaPolicy.Glob.Syntax

set_option relaxedAutoImplicit false
set_option autoImplicit false

/-!
# Predicates

A predicate compares an attribute with a literal. It is compiled from an operator and a text, and
compiling checks that the operator and the literal fit the type of the attribute.

## Main definitions

* `ReplicaPolicy.Operator` — the operators, with `Operator.ofText?` and `Operator.isValidFor`.
* `ReplicaPolicy.Literal` — what a predicate compares with.
* `ReplicaPolicy.Predicate`, `Predicate.compile`, `Predicate.holds`.

## Main results

* `ReplicaPolicy.Operator.ofText?_text` — the text of an operator names it.
* `ReplicaPolicy.Predicate.subject_of_compile` — compiling keeps the attribute.
-/

namespace ReplicaPolicy

/-! ## Operators -/

/-- How an attribute is compared. -/
inductive Operator where
  /-- The attribute is true. -/
  | holds
  /-- The attribute is false. -/
  | negated
  /-- Equal; for a text, selected by the glob. -/
  | equal
  /-- Not equal; for a text, not selected by the glob. -/
  | notEqual
  /-- Less. -/
  | less
  /-- Less or equal. -/
  | lessOrEqual
  /-- Greater. -/
  | greater
  /-- Greater or equal. -/
  | greaterOrEqual
  deriving DecidableEq, Repr

namespace Operator

/-- The operators. -/
def all : List Operator :=
  [.holds, .negated, .equal, .notEqual, .less, .lessOrEqual, .greater, .greaterOrEqual]

/-- How an operator is written. An attribute that is to be true stands alone. -/
def text : Operator → String
  | .holds => ""
  | .negated => "not"
  | .equal => "=="
  | .notEqual => "!="
  | .less => "<"
  | .lessOrEqual => "<="
  | .greater => ">"
  | .greaterOrEqual => ">="

/-- The operator that a text writes. -/
def ofText? (text : String) : Option Operator :=
  all.find? fun op => op.text == text

theorem ofText?_text (op : Operator) : ofText? op.text = some op := by
  cases op <;> decide

theorem text_of_ofText? {text : String} {op : Operator} (h : ofText? text = some op) :
    op.text = text := by
  simpa using List.find?_some h

/-- Whether the operator applies to values of a type. -/
def isValidFor (op : Operator) (type : ValueType) : Bool :=
  match type, op with
  | .bool, .holds | .bool, .negated => true
  | .bool, _ => false
  | .numeric, .holds | .numeric, .negated | .time, .holds | .time, .negated => false
  | .numeric, _ | .time, _ => true
  | .text, .equal | .text, .notEqual => true
  | .text, _ => false

/-- Whether a comparison with this outcome satisfies the operator. -/
def accepts : Operator → Ordering → Bool
  | .equal, o => o.isEq
  | .notEqual, o => o.isNe
  | .less, o => o.isLT
  | .lessOrEqual, o => o.isLE
  | .greater, o => o.isGT
  | .greaterOrEqual, o => o.isGE
  | .holds, _ | .negated, _ => false

end Operator

/-! ## Literals -/

/-- What an attribute is compared with. -/
inductive Literal where
  /-- Nothing: a truth value is not compared. -/
  | absent
  /-- A number. -/
  | number (value : Float)
  /-- An instant. -/
  | time (value : Instant)
  /-- A glob, for texts. -/
  | glob (value : Glob)

namespace Literal

/-- The glob that a text writes. -/
def ofGlob (text : String) : Except Fault Literal :=
  (Glob.compile text).map .glob

/-- The literal for a value that a symbol stands for. -/
def ofValue (invalid : LiteralFault → Fault) : Value → Except Fault Literal
  | .number x => .ok (.number x)
  | .time t => .ok (.time t)
  | .text t => ofGlob t
  | .bool _ => .error (invalid .booleanSymbol)

/-- The literal of an attribute that a text spells. -/
def ofSpelling (b : BoundAttribute) (invalid : LiteralFault → Fault) (text : String) :
    Except Fault Literal :=
  match b.valueType with
  | .bool => .ok .absent
  | .numeric =>
    match Decimal.literal? text.toList with
    | some x => .ok (.number x)
    | none => .error (invalid (if b.symbols?.isSome then .unknownSymbol else .notNumber))
  | .time =>
    match Instant.read? text with
    | some t => .ok (.time t)
    | none => .error (invalid .notTime)
  | .text => ofGlob text

/-- The literal of an attribute that a text gives: a truth value takes none, and a symbol comes
before a spelling. -/
def compile (b : BoundAttribute) (text : String) : Except Fault Literal :=
  let invalid := Fault.invalidLiteral b.name text
  match b.valueType with
  | .bool => if text.isEmpty then .ok .absent else .error (invalid .takesNoValue)
  | _ =>
    if text.isEmpty then .error (invalid .missing)
    else
      match b.symbols?.bind fun symbols => symbols text with
      | some value => ofValue invalid value
      | none => ofSpelling b invalid text

end Literal

/-! ## Predicates -/

/-- A comparison of an attribute. -/
structure Predicate where
  /-- What is compared. -/
  subject : BoundAttribute
  /-- How. -/
  operator : Operator
  /-- With what. -/
  literal : Literal

namespace Predicate

/-- The operator of an attribute that a text writes. -/
def operatorFor (b : BoundAttribute) (text : String) : Except Fault Operator :=
  match (Operator.ofText? text).filter fun op => op.isValidFor b.valueType with
  | some op => .ok op
  | none => .error (.invalidOperator b.name text)

/-- The predicate that an attribute, an operator and the text of a literal write. -/
def compile (b : BoundAttribute) (operator literal : String) : Except Fault Predicate := do
  let op ← operatorFor b operator
  let value ← Literal.compile b literal
  .ok ⟨b, op, value⟩

/-- Whether the predicate holds for a replica under the demand for its dataset. A number that is
undefined satisfies no operator. -/
def holds (p : Predicate) (v : View) (demand : Demand) : Bool :=
  match p.subject.value v demand, p.literal with
  | .bool b, .absent => if p.operator = .negated then !b else b
  | .number x, .number y => (Decimal.ordering? x y).any p.operator.accepts
  | .time t, .time u => p.operator.accepts (t.ordering u)
  | .text t, .glob g =>
    match p.operator with
    | .equal => g.selects t
    | .notEqual => !g.selects t
    | _ => false
  | _, _ => false

theorem subject_of_compile {b : BoundAttribute} {operator literal : String} {p : Predicate}
    (h : compile b operator literal = .ok p) : p.subject = b := by
  unfold compile at h
  cases hop : operatorFor b operator with
  | error e => simp [hop, bind, Except.bind] at h
  | ok op =>
    cases hl : Literal.compile b literal with
    | error e => simp [hop, hl, bind, Except.bind] at h
    | ok l =>
      simp only [hop, hl, bind, Except.bind, Except.ok.injEq] at h
      exact h ▸ rfl

end Predicate

end ReplicaPolicy
