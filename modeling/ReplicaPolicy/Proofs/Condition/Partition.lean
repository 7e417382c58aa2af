import ReplicaPolicy.Proofs.Condition.Grammar
import ReplicaPolicy.Proofs.Decimal.Quotient

set_option relaxedAutoImplicit false
set_option autoImplicit false

/-!
# What a partition is for

A condition can be about a partition, or about none. The partition enters only the attributes that
are about one: what a clause compiles to for another partition differs in nothing else, and neither
its operator, its literal nor its complaint depends on it. Without a partition the first such
attribute is complained about, where no earlier clause fails. And two partitions are told apart only
by their quota and their use at a site, since the occupancy comes from these.

## Main definitions

* `ReplicaPolicy.Predicate.inPartition`, `Condition.inPartition` — the same about another partition.
* `ReplicaPolicy.Condition.firstPartitioned?` — the first attribute that is about a partition.
* `ReplicaPolicy.Site.AlikeIn` — two partitions of a site have the same quota and use.
* `ReplicaPolicy.Condition.PartitionsReach` — what partitions make of a text.

## Main results

* `ReplicaPolicy.Condition.compile_inPartition` — a condition about another partition.
* `ReplicaPolicy.Condition.compileClause_none` — a clause without a partition.
* `ReplicaPolicy.Predicate.holds_inPartition` — a predicate at a site whose partitions are alike.
* `ReplicaPolicy.Condition.partitionsReach` — partitions only reach the attributes about them.
-/

namespace ReplicaPolicy

variable {p q : String}

/-! ## Another partition -/

/-- The same attribute, about another partition if it is about one. -/
def BoundAttribute.inPartition (q : String) : BoundAttribute → BoundAttribute
  | .global a => .global a
  | .ofPartition a _ => .ofPartition a q

/-- The same predicate, about another partition if its attribute is about one. -/
def Predicate.inPartition (q : String) (pr : Predicate) : Predicate :=
  { pr with subject := pr.subject.inPartition q }

/-- The same condition about another partition. -/
def Condition.inPartition (q : String) (c : Condition) : Condition :=
  { c with predicates := c.predicates.map (Predicate.inPartition q) }

/-- An attribute is taken with another partition in the place of the one. -/
lemma Attribute.bind_inPartition (a : Attribute) (p q : String) :
    a.bind (some q) = (a.bind (some p)).map (BoundAttribute.inPartition q) := by
  cases a <;> rfl

/-- The literals of an attribute are those for every partition. -/
lemma Literal.compile_inPartition (q : String) (b : BoundAttribute) (text : String) :
    compile (b.inPartition q) text = compile b text := by
  cases b <;> rfl

/-- The operators of an attribute are those for every partition. -/
lemma Predicate.operatorFor_inPartition (q : String) (b : BoundAttribute) (text : String) :
    operatorFor (b.inPartition q) text = operatorFor b text := by
  cases b <;> rfl

/-- A predicate about another partition differs in its attribute only. -/
lemma Predicate.compile_inPartition (q : String) (b : BoundAttribute) (operator literal : String) :
    compile (b.inPartition q) operator literal =
      (compile b operator literal).map (inPartition q) := by
  rw [compile, compile, operatorFor_inPartition, Literal.compile_inPartition]
  cases operatorFor b operator with
  | error fault => rfl
  | ok op => cases Literal.compile b literal <;> rfl

/-- A clause says the same for another partition. -/
lemma Clause.compile_inPartition (c : Clause) (p q : String) :
    c.compile (some q) = (c.compile (some p)).map (Predicate.inPartition q) := by
  unfold compile
  cases Attribute.ofName? c.name with
  | none => rfl
  | some a =>
    dsimp only
    rw [a.bind_inPartition p q]
    cases a.bind (some p) with
    | error fault => rfl
    | ok b => exact Predicate.compile_inPartition q b c.operator c.literal

namespace Condition

variable {text : String} {clause : List Char}

/-- A clause of a text compiles to the same for another partition. -/
lemma compileClause_inPartition (text : String) (p q : String) (clause : List Char) :
    compileClause (some q) text clause =
      (compileClause (some p) text clause).map (Predicate.inPartition q) := by
  unfold compileClause
  cases Clause.ofWords? (Text.words clause) with
  | none => rfl
  | some c => exact c.compile_inPartition p q

/-- **A condition about another partition** is the same but for the partition, and so is the
complaint. -/
theorem compile_inPartition (text p q : String) :
    compile (some q) text = (compile (some p) text).map (inPartition q) := by
  rw [compile_eq, compile_eq, mapM_eq_map_mapM (compileClause_inPartition text p q)]
  cases (clausesOf text).mapM (compileClause (some p) text) <;> rfl

/-! ## No partition -/

/-- The attribute that a clause names, if it is about a partition. -/
def partitioned? (clause : List Char) : Option Attribute :=
  ((Clause.ofWords? (Text.words clause)).bind fun c => Attribute.ofName? c.name).filter
    Attribute.isPartitioned

/-- The attribute of the first clause whose attribute is about a partition. -/
def firstPartitioned? (text : String) : Option Attribute :=
  (clausesOf text).findSome? partitioned?

/-- **A clause without a partition** is complained about if its attribute is about one, and
otherwise compiles as it does for every partition. -/
theorem compileClause_none (p text : String) (clause : List Char) :
    compileClause none text clause =
      match partitioned? clause with
      | none => compileClause (some p) text clause
      | some a => .error (.missingPartition a.name) := by
  unfold compileClause partitioned?
  cases Clause.ofWords? (Text.words clause) with
  | none => rfl
  | some c =>
    dsimp only [Option.bind_some]
    unfold Clause.compile
    cases Attribute.ofName? c.name with
    | none => rfl
    | some a => cases a <;> rfl

/-- A clause that compiles without a partition compiles to the same for every partition. -/
lemma compileClause_of_none {pr : Predicate} (h : compileClause none text clause = .ok pr)
    (p : String) : compileClause (some p) text clause = .ok pr := by
  rw [compileClause_none p] at h
  cases ha : partitioned? clause with
  | none => rwa [ha] at h
  | some a => simp [ha] at h

/-- A condition that compiles without a partition compiles to the same for every partition. -/
lemma compile_of_none {c : Condition} (h : compile none text = .ok c) (p : String) :
    compile (some p) text = .ok c := by
  obtain ⟨htext, hpredicates⟩ := compile_eq_ok_iff.1 h
  exact compile_eq_ok_iff.2 ⟨htext, hpredicates.imp fun _ _ h => compileClause_of_none h p⟩

/-- A condition without an attribute about a partition compiles as it does for every partition. -/
lemma compile_none_of_unpartitioned (h : firstPartitioned? text = none) (p : String) :
    compile none text = compile (some p) text := by
  rw [compile_eq, compile_eq, mapM_congr fun clause hclause => ?_]
  rw [compileClause_none p, List.findSome?_eq_none_iff.1 h clause hclause]

/-- Without a partition, the first attribute about one is complained about where all clauses compile
with one. -/
lemma compile_none_of_partitioned {c : Condition} {a : Attribute}
    (hc : compile (some p) text = .ok c) (h : firstPartitioned? text = some a) :
    compile none text = .error (.missingPartition a.name) := by
  obtain ⟨before, clause, after, hclauses, ha, hbefore⟩ := List.findSome?_eq_some_iff.1 h
  refine compile_eq_error_iff.2 ⟨before, clause, after, hclauses, fun other hother => ?_, ?_⟩
  · have hcompiles := exists_compile_iff.1 ⟨c, hc⟩ other (by simp [hclauses, hother])
    rwa [compileClause_none p, hbefore other hother]
  · rw [compileClause_none p, ha]

end Condition

/-! ## Partitions that are alike -/

/-- Two partitions of a site are alike: they have the same quota and the same use. -/
structure Site.AlikeIn (s : Site) (p q : String) : Prop where
  /-- The quota is the same. -/
  quota : Decimal.Alike (s.quota p) (s.quota q)
  /-- The use is the same. -/
  used : Decimal.Alike (s.used p) (s.used q)

/-- The occupancy of partitions that are alike is the same. -/
lemma Site.AlikeIn.occupancy {s : Site} (h : s.AlikeIn p q) :
    Decimal.Alike (s.occupancy p) (s.occupancy q) := by
  unfold Site.occupancy
  by_cases hquota : s.quota p ≤ 0.0
  · rw [if_pos hquota, if_pos ((h.quota.le_iff 0.0).1 hquota)]
    exact .inl rfl
  · rw [if_neg hquota, if_neg fun hle => hquota ((h.quota.le_iff 0.0).2 hle)]
    exact h.used.div h.quota hquota

/-- The values of an attribute for partitions that are alike are numbers that are. -/
lemma PartitionAttribute.value_alike {s : Site} (h : s.AlikeIn p q) (a : PartitionAttribute) :
    ∃ x y, a.value p s = .number x ∧ a.value q s = .number y ∧ Decimal.Alike x y := by
  cases a with
  | occupancy => exact ⟨_, _, rfl, rfl, h.occupancy⟩
  | quota => exact ⟨_, _, rfl, rfl, h.quota⟩
  | used => exact ⟨_, _, rfl, rfl, h.used⟩

/-- **A predicate holds alike for partitions that are alike.** -/
theorem Predicate.holds_inPartition {v : View} (h : v.site.AlikeIn p q) (pr : Predicate)
    (demand : Demand) : (pr.inPartition p).holds v demand = (pr.inPartition q).holds v demand := by
  obtain ⟨subject, op, l⟩ := pr
  cases subject with
  | global a => rfl
  | ofPartition a r =>
    obtain ⟨x, y, hx, hy, hxy⟩ := a.value_alike h
    dsimp only [inPartition, BoundAttribute.inPartition, holds, BoundAttribute.value]
    rw [hx, hy]
    cases l with
    | number z =>
      dsimp only
      rw [Decimal.ordering?_congr hxy]
    | _ => rfl

namespace Condition

/-- A condition holds alike for partitions that are alike. -/
lemma holds_inPartition {v : View} (h : v.site.AlikeIn p q) (c : Condition) (demand : Demand) :
    (c.inPartition p).holds v demand = (c.inPartition q).holds v demand := by
  rw [holds, holds, inPartition, inPartition, List.all_map, List.all_map]
  exact congrArg c.predicates.all (funext fun pr => pr.holds_inPartition h demand)

/-! ## Partitions reach nothing else -/

/-- What two partitions make of a text, and what is made of it without one. -/
structure PartitionsReach (text p q : String) : Prop where
  /-- With both partitions it compiles, or it fails with the same complaint. -/
  compiles : (∃ c c', compile (some p) text = .ok c ∧ compile (some q) text = .ok c') ∨
    ∃ fault, compile (some p) text = .error fault ∧ compile (some q) text = .error fault
  /-- What compiles without a partition compiles with one, to a condition with the same predicates,
  which holds for the same replicas. -/
  without : ∀ {c : Condition}, compile none text = .ok c →
    ∃ c', compile (some p) text = .ok c' ∧ c'.predicates = c.predicates ∧
      ∀ v demand, c'.holds v demand = c.holds v demand
  /-- What compiles with a partition compiles without one, or the attribute of the first clause
  whose attribute is about a partition is complained about. -/
  missing : ∀ {c : Condition}, compile (some p) text = .ok c →
    (firstPartitioned? text = none ∧ compile none text = .ok c) ∨
      ∃ a, firstPartitioned? text = some a ∧ compile none text = .error (.missingPartition a.name)
  /-- Both conditions hold for the same replicas of sites with the same quota and use. -/
  holds : ∀ {c c' : Condition}, compile (some p) text = .ok c → compile (some q) text = .ok c' →
    ∀ v : View, v.site.AlikeIn p q → ∀ demand, c.holds v demand = c'.holds v demand

/-- **Partitions only reach the attributes that are about one.**

**Proof sketch.** What is compiled for one partition is what is compiled for the other with the
partition replaced. At a site where both are alike, this changes no value but for the sign of a
zero, and no comparison tells that. -/
theorem partitionsReach (text p q : String) : PartitionsReach text p q where
  compiles := by
    rw [compile_inPartition text p q]
    cases compile (some p) text with
    | error fault => exact .inr ⟨fault, rfl, rfl⟩
    | ok c => exact .inl ⟨c, c.inPartition q, rfl, rfl⟩
  without := fun {c} hc => ⟨c, compile_of_none hc p, rfl, fun _ _ => rfl⟩
  missing := by
    intro c hc
    cases h : firstPartitioned? text with
    | none => exact .inl ⟨rfl, (compile_none_of_unpartitioned h p).trans hc⟩
    | some a => exact .inr ⟨a, rfl, compile_none_of_partitioned hc h⟩
  holds := by
    intro c c' hc hc' v halike demand
    -- both come from the first condition, one with the partition that it has already
    have hp := compile_inPartition text p p
    have hq := compile_inPartition text p q
    rw [hc] at hp hq
    rw [hc'] at hq
    rw [Except.ok.inj hp, Except.ok.inj hq]
    exact holds_inPartition halike c demand

/-- A condition on quota and use compiles for every partition. Without one the quota is missing it,
as it is compared first. -/
theorem partitionsReach_quota_before_use :
    ∃ c, compile (some "Physics") "not replica.incomplete and site.quota > 0 and site.used > 5" =
        .ok c ∧
      compile none "not replica.incomplete and site.quota > 0 and site.used > 5" =
        .error (.missingPartition "site.quota") := by
  have hok : (compile (some "Physics")
      "not replica.incomplete and site.quota > 0 and site.used > 5").isOk = true := by
    decide +kernel
  obtain ⟨c, hc⟩ := exists_of_isOk hok
  refine ⟨c, hc, ?_⟩
  rcases (partitionsReach _ "Physics" "Analysis").missing hc with ⟨hfirst, -⟩ | ⟨a, hfirst, hnone⟩
  · exact absurd hfirst (by decide)
  · obtain rfl : Attribute.ofPartition .quota = a := Option.some.inj hfirst
    exact hnone

end Condition

end ReplicaPolicy
