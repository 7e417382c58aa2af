import ReplicaPolicy.Proofs.Condition.Typing
import ReplicaPolicy.Proofs.Condition.Writing
import ReplicaPolicy.Proofs.Decimal.Order

set_option relaxedAutoImplicit false
set_option autoImplicit false

/-!
# What operators say of each other

An attribute can be compared with one literal in several ways. Of these comparisons some exclude
each other and some are the negations of others: a replica is on exactly one side of the literal or
right at it. This needs that the value and the literal have an order. Texts have none, so they are
only told apart; and numbers have one unless one of them is undefined, in which case no comparison
holds, not even that they differ.

## Main definitions

* `ReplicaPolicy.Operator.Partitions` — comparisons of two things that have an order.
* `ReplicaPolicy.Predicate.holdsWith` — whether a predicate would hold with another operator.

## Main results

* `ReplicaPolicy.Operator.partitions_accepts` — whatever the order is, comparisons partition.
* `ReplicaPolicy.Predicate.compile_withOperator` — one literal can be compared in every valid way.
* `ReplicaPolicy.Predicate.comparisons_partition` — comparisons partition the replicas.
-/

namespace ReplicaPolicy

/-! ## Operators -/

namespace Operator

/-- Comparisons of two things that have an order: exactly one of the strict ones and equality holds,
and the others are the negations of these. -/
structure Partitions (holds : Operator → Bool) : Prop where
  /-- One thing is less, equal or greater than the other, and only one of these. -/
  exactlyOne : ∃! op, (op = .less ∨ op = .equal ∨ op = .greater) ∧ holds op = true
  /-- They differ if they are not equal. -/
  notEqual : holds .notEqual = !holds .equal
  /-- One is at most the other if it is not greater. -/
  lessOrEqual : holds .lessOrEqual = !holds .greater
  /-- One is at least the other if it is not less. -/
  greaterOrEqual : holds .greaterOrEqual = !holds .less

/-- The operator that is satisfied by one outcome only. -/
def ofOrdering : Ordering → Operator
  | .lt => .less
  | .eq => .equal
  | .gt => .greater

/-- Of the strict comparisons and equality, an outcome satisfies its own. -/
lemma accepts_iff_eq_ofOrdering {op : Operator} (h : op = .less ∨ op = .equal ∨ op = .greater)
    (o : Ordering) : op.accepts o = true ↔ op = ofOrdering o := by
  rcases h with rfl | rfl | rfl <;> cases o <;> decide

/-- **Whatever the order is, comparisons partition.** -/
theorem partitions_accepts (o : Ordering) : Partitions fun op => op.accepts o where
  exactlyOne := by
    have hstrict : ofOrdering o = .less ∨ ofOrdering o = .equal ∨ ofOrdering o = .greater := by
      cases o <;> decide
    refine ⟨ofOrdering o, ⟨hstrict, (accepts_iff_eq_ofOrdering hstrict o).2 rfl⟩, ?_⟩
    rintro op ⟨hop, hholds⟩
    exact (accepts_iff_eq_ofOrdering hop o).1 hholds
  notEqual := by cases o <;> rfl
  lessOrEqual := by cases o <;> rfl
  greaterOrEqual := by cases o <;> rfl

end Operator

/-! ## Predicates -/

namespace Predicate

/-- The predicate with another operator. -/
def withOperator (p : Predicate) (op : Operator) : Predicate :=
  { p with operator := op }

/-- Whether the predicate would hold for a replica with another operator. -/
def holdsWith (p : Predicate) (v : View) (demand : Demand) (op : Operator) : Bool :=
  (p.withOperator op).holds v demand

/-- **One literal can be compared in every valid way.** -/
theorem compile_withOperator {b : BoundAttribute} {operator literal : String} {p : Predicate}
    (h : compile b operator literal = .ok p) {op : Operator}
    (hop : op.isValidFor b.valueType = true) :
    compile b op.text literal = .ok (p.withOperator op) := by
  obtain ⟨hsubject, -, hliteral⟩ := compile_eq_ok_iff.1 h
  exact compile_eq_ok_iff.2 ⟨hsubject, operatorFor_eq_ok_iff.2 ⟨rfl, hop⟩, hliteral⟩

section Kinds

variable {p : Predicate} {v : View} {demand : Demand}

/-- A truth value is asked for as it is or negated. -/
lemma holdsWith_of_truth {b : Bool} (hx : p.subject.value v demand = .bool b)
    (hl : p.literal = .absent) (op : Operator) :
    p.holdsWith v demand op = if op = .negated then !b else b := by
  simp only [holdsWith, withOperator, holds, hx, hl]

/-- Numbers are compared by their order, if they have one. -/
lemma holdsWith_of_number {x y : Float} (hx : p.subject.value v demand = .number x)
    (hl : p.literal = .number y) :
    p.holdsWith v demand = fun op => (Decimal.ordering? x y).any op.accepts := by
  funext op
  simp only [holdsWith, withOperator, holds, hx, hl]

/-- Instants are compared by their order. -/
lemma holdsWith_of_time {t u : Instant} (hx : p.subject.value v demand = .time t)
    (hl : p.literal = .time u) :
    p.holdsWith v demand = fun op => op.accepts (t.ordering u) := by
  funext op
  simp only [holdsWith, withOperator, holds, hx, hl]

/-- A text differs from a glob if the glob does not select it. -/
lemma holdsWith_of_text {t : String} {g : Glob} (hx : p.subject.value v demand = .text t)
    (hl : p.literal = .glob g) :
    p.holdsWith v demand .equal = g.selects t ∧ p.holdsWith v demand .notEqual = !g.selects t := by
  simp only [holdsWith, withOperator, holds, hx, hl, and_self]

/-- Comparisons of numbers partition. -/
lemma partitions_of_number {x y : Float} (hx : p.subject.value v demand = .number x)
    (hl : p.literal = .number y) (hnan : x.isNaN = false ∧ y.isNaN = false) :
    Operator.Partitions (p.holdsWith v demand) := by
  rw [holdsWith_of_number hx hl]
  cases ho : Decimal.ordering? x y with
  | none =>
    rcases Decimal.ordering?_eq_none_iff.1 ho with h | h
    · exact absurd (h.symm.trans hnan.1) (by decide)
    · exact absurd (h.symm.trans hnan.2) (by decide)
  | some o => exact Operator.partitions_accepts o

/-- No comparison holds with what is not a number. -/
lemma holdsWith_of_isNaN {x y : Float} (hx : p.subject.value v demand = .number x)
    (hl : p.literal = .number y) (hnan : x.isNaN = true ∨ y.isNaN = true) (op : Operator) :
    p.holdsWith v demand op = false := by
  rw [holdsWith_of_number hx hl, Decimal.ordering?_eq_none_iff.2 hnan]
  rfl

end Kinds

/-- **Comparisons partition the replicas.** If an attribute can be compared with a literal by one
operator, it can be by every valid one. Then, for each replica: a truth value is negated by `not`,
and for a text `!=` is the negation of `==`. For an instant exactly one of `<`, `==` and `>` holds,
and `!=`, `<=` and `>=` are the negations of `==`, `>` and `<`. So it is for a number, where the
value and the literal are numbers; if either is not, no operator is satisfied. -/
theorem comparisons_partition {a : Attribute} {partition : Option String} {b : BoundAttribute}
    (hbind : a.bind partition = .ok b) {operator literal : String} {p : Predicate}
    (h : compile b operator literal = .ok p) :
    (∀ op, op.isValidFor a.valueType = true →
      compile b op.text literal = .ok (p.withOperator op)) ∧
    ∀ v demand,
      (a.valueType = .bool →
        p.holdsWith v demand .negated = !p.holdsWith v demand .holds) ∧
      (a.valueType = .text →
        p.holdsWith v demand .notEqual = !p.holdsWith v demand .equal) ∧
      (a.valueType = .time → Operator.Partitions (p.holdsWith v demand)) ∧
      (a.valueType = .numeric →
        ∃ x y, b.value v demand = .number x ∧ p.literal = .number y ∧
          (x.isNaN = false ∧ y.isNaN = false → Operator.Partitions (p.holdsWith v demand)) ∧
          (x.isNaN = true ∨ y.isNaN = true → ∀ op, p.holdsWith v demand op = false)) := by
  obtain rfl := Attribute.unbound_of_bind hbind
  refine ⟨fun op hop => compile_withOperator h hop, fun v demand => ?_⟩
  obtain rfl := subject_of_compile h
  have htype : (p.subject.value v demand).type = p.subject.unbound.valueType :=
    p.subject.type_value v demand
  have hfits := (wellTyped_of_compile h).fits v demand
  rw [← htype]
  generalize hx : p.subject.value v demand = x at hfits ⊢
  generalize hl : p.literal = l at hfits ⊢
  -- for each kind of value, only one of the four parts speaks of its type
  cases hfits with
  | truth b =>
    refine ⟨fun _ => ?_, nofun, nofun, nofun⟩
    rw [holdsWith_of_truth hx hl, holdsWith_of_truth hx hl]
    rfl
  | number x y =>
    refine ⟨nofun, nofun, nofun, fun _ => ⟨x, y, rfl, rfl, ?_, ?_⟩⟩
    · exact partitions_of_number hx hl
    · exact holdsWith_of_isNaN hx hl
  | time t u =>
    refine ⟨nofun, nofun, fun _ => ?_, nofun⟩
    rw [holdsWith_of_time hx hl]
    exact Operator.partitions_accepts (t.ordering u)
  | text t g =>
    refine ⟨nofun, fun _ => ?_, nofun, nofun⟩
    obtain ⟨hequal, hnotEqual⟩ := holdsWith_of_text hx hl
    rw [hnotEqual, hequal]

/-- A dataset is last updated before, at or behind a date. Nothing can be said of a usage rank by a
literal that is not a number. By another one, a usage rank of nought is on one side of it or right
at it. -/
theorem comparisons_partition_date_and_rank :
    (∃ p, compile (.global .lastUpdate) "<" "2024-06-01" = .ok p ∧
      ∀ v demand, Operator.Partitions (p.holdsWith v demand)) ∧
    (∃ p, compile (.global .usageRank) "!=" "nan" = .ok p ∧
      ∀ v demand op, p.holdsWith v demand op = false) ∧
    ∃ p, compile (.global .usageRank) ">=" "90" = .ok p ∧
      ∀ v, Operator.Partitions (p.holdsWith v .default) := by
  have hnan : Decimal.literal? "nan".toList = some Decimal.undefinedFloat := by decide +kernel
  have hninety : Decimal.literal? "90".toList = some 90 := by decide +kernel
  refine ⟨?_, ?_, ?_⟩
  · have hok : (compile (.global .lastUpdate) "<" "2024-06-01").isOk = true := by decide +kernel
    obtain ⟨p, hp⟩ := exists_of_isOk hok
    refine ⟨p, hp, fun v demand => ?_⟩
    have hbind : (Attribute.global .lastUpdate).bind none = .ok (.global .lastUpdate) := rfl
    obtain ⟨-, -, htime, -⟩ := (comparisons_partition hbind hp).2 v demand
    exact htime rfl
  · have hp : compile (.global .usageRank) "!=" "nan" =
        .ok ⟨.global .usageRank, .notEqual, .number Decimal.undefinedFloat⟩ :=
      compile_eq_ok_iff.2 ⟨rfl, rfl, Literal.compile_number rfl rfl hnan⟩
    have hbind : (Attribute.global .usageRank).bind none = .ok (.global .usageRank) := rfl
    refine ⟨_, hp, fun v demand => ?_⟩
    obtain ⟨-, -, -, hnumeric⟩ := (comparisons_partition hbind hp).2 v demand
    obtain ⟨x, y, -, hy, -, hundefined⟩ := hnumeric rfl
    obtain rfl := Literal.number.inj hy
    exact hundefined (.inr (by decide +kernel))
  · have hp : compile (.global .usageRank) ">=" "90" =
        .ok ⟨.global .usageRank, .greaterOrEqual, .number 90⟩ :=
      compile_eq_ok_iff.2 ⟨rfl, rfl, Literal.compile_number rfl rfl hninety⟩
    have hbind : (Attribute.global .usageRank).bind none = .ok (.global .usageRank) := rfl
    refine ⟨_, hp, fun v => ?_⟩
    obtain ⟨-, -, -, hnumeric⟩ := (comparisons_partition hbind hp).2 v .default
    obtain ⟨x, y, hx, hy, hdefined, -⟩ := hnumeric rfl
    obtain rfl := Value.number.inj hx
    obtain rfl := Literal.number.inj hy
    exact hdefined ⟨by decide +kernel, by decide +kernel⟩

end Predicate

end ReplicaPolicy
