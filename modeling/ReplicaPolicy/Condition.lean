import ReplicaPolicy.Predicate
import ReplicaPolicy.Text.Blank

set_option relaxedAutoImplicit false
set_option autoImplicit false

/-!
# Conditions

A condition is a conjunction of predicates, written as clauses with ` and ` between them. A clause
is the name of an attribute, an operator and the words of a literal, or `not` and the name of a
truth value. A blank condition has no clause.

## Main definitions

* `ReplicaPolicy.Condition.clauses` — the clauses of a text.
* `ReplicaPolicy.Clause`, `Clause.ofWords?` — a clause, and what its words say.
* `ReplicaPolicy.Condition`, `Condition.compile`, `Condition.holds`.
* `ReplicaPolicy.ConditionRule` — a condition with the decision that it leads to.
-/

namespace ReplicaPolicy

/-! ## Clauses -/

/-- A clause: the name of an attribute, an operator, and the text of a literal. -/
structure Clause where
  /-- The name of the attribute. -/
  name : String
  /-- The text of the operator. -/
  operator : String
  /-- The text of the literal. -/
  literal : String
  deriving DecidableEq, Repr

namespace Clause

/-- The word that negates. -/
def negation : List Char := ['n', 'o', 't']

/-- What the words of a clause say. The word `not` may stand before the name. -/
def ofWords? : List (List Char) → Option Clause
  | [] => none
  | [name] => some ⟨String.ofList name, "", ""⟩
  | first :: second :: rest =>
    let (name, operator) := if first = negation then (second, first) else (first, second)
    some ⟨String.ofList name, String.ofList operator, String.ofList (Text.unwords rest)⟩

/-- The predicate that a clause writes. -/
def compile (partition : Option String) (c : Clause) : Except Fault Predicate :=
  match Attribute.ofName? c.name with
  | none => .error (.invalidExpression c.name)
  | some a => do
    let b ← a.bind partition
    Predicate.compile b c.operator c.literal

end Clause

/-! ## Conditions -/

/-- A conjunction of predicates with its text. -/
structure Condition where
  /-- The text as written. -/
  text : String
  /-- The predicates in order. -/
  predicates : List Predicate

namespace Condition

/-- Puts a character in front of the first of some texts. -/
def prepend (c : Char) : List (List Char) → List (List Char)
  | [] => [[c]]
  | first :: others => (c :: first) :: others

/-- The clauses of a text: what stands between its conjunctions, read from the left. -/
def clauses : List Char → List (List Char)
  | ' ' :: 'a' :: 'n' :: 'd' :: ' ' :: cs => [] :: clauses cs
  | c :: cs => prepend c (clauses cs)
  | [] => [[]]

/-- The predicate that a clause of the condition `text` writes. -/
def compileClause (partition : Option String) (text : String) (clause : List Char) :
    Except Fault Predicate :=
  match Clause.ofWords? (Text.words clause) with
  | none => .error (.invalidExpression text)
  | some c => c.compile partition

/-- The condition that a text writes, about a partition or about none. -/
def compile (partition : Option String) (text : String) : Except Fault Condition := do
  let cs := text.toList
  let parts := if (Text.trim cs).isEmpty then [] else clauses cs
  let predicates ← parts.mapM (compileClause partition text)
  .ok ⟨text, predicates⟩

/-- Whether every predicate holds. -/
def holds (c : Condition) (v : View) (demand : Demand) : Bool :=
  c.predicates.all fun p => p.holds v demand

end Condition

/-! ## Conditions as rules -/

/-- A condition with the decision that it leads to, and the reason to give for it. -/
structure ConditionRule where
  /-- The condition. -/
  condition : Condition
  /-- The decision for replicas that meet it. -/
  decision : Decision
  /-- The reason for the decision. -/
  reason : String

namespace ConditionRule

/-- The rule for a condition; without a reason of its own it tells the condition. -/
def ofCondition (condition : Condition) (decision : Decision) (reason : Option String) :
    ConditionRule :=
  ⟨condition, decision, reason.getD s!"Condition matched: {condition.text}"⟩

/-- The name of the rule. -/
def name (r : ConditionRule) : String :=
  r.condition.text

/-- The verdict on a replica, if it meets the condition. -/
def evaluate (r : ConditionRule) (v : View) (demand : Demand) : Option Verdict :=
  if r.condition.holds v demand then some ⟨r.decision, r.reason, none⟩ else none

end ConditionRule

end ReplicaPolicy
