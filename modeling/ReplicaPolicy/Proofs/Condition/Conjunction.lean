import ReplicaPolicy.Proofs.Condition.Clauses

set_option relaxedAutoImplicit false
set_option autoImplicit false

/-!
# Joining conditions

Two conditions with ` and ` between them are their conjunction: the predicates of the one and then
those of the other, with the first complaint if there is one. The text of the whole enters only the
complaint about a clause without words, so that this one is not that of a part.

## Main definitions

* `ReplicaPolicy.Condition.FailsEmpty` — the first clause that does not compile has no words.
* `ReplicaPolicy.Condition.IsConjunction` — a text is the conjunction of two others.

## Main results

* `ReplicaPolicy.Condition.compileClause_congr` — a clause with words compiles alike in all texts.
* `ReplicaPolicy.Condition.isConjunction_join` — joined texts are conjunctions.
-/

namespace ReplicaPolicy.Condition

variable {partition : Option String}

/-! ## Clauses in different texts -/

/-- A clause without words does not compile. -/
lemma compileClause_of_words_eq_nil {text : String} {clause : List Char}
    (h : Text.words clause = []) :
    compileClause partition text clause = .error (.invalidExpression text) := by
  rw [compileClause, h]
  rfl

/-- A clause with words compiles alike in all texts. -/
lemma compileClause_congr {clause : List Char} (h : Text.words clause ≠ []) (text text' : String) :
    compileClause partition text clause = compileClause partition text' clause := by
  obtain ⟨word, others, hw⟩ := List.exists_cons_of_ne_nil h
  have hc : Clause.ofWords? (word :: others) ≠ none := by
    cases others <;> simp [Clause.ofWords?]
  obtain ⟨c, hc⟩ := Option.ne_none_iff_exists'.1 hc
  rw [compileClause, compileClause, hw, hc]

/-- A clause that compiles in one text compiles in every other to the same predicate. -/
lemma compileClause_ok_congr {clause : List Char} {text : String} {p : Predicate}
    (h : compileClause partition text clause = .ok p) (text' : String) :
    compileClause partition text' clause = .ok p := by
  have hw : Text.words clause ≠ [] := by
    intro hw
    rw [compileClause_of_words_eq_nil hw] at h
    exact absurd h (by simp)
  rw [← h]
  exact compileClause_congr hw text' text

/-! ## Joined texts -/

/-- A condition fails at an empty clause: the clauses before it compile, and it has no words. -/
def FailsEmpty (partition : Option String) (text : String) : Prop :=
  ∃ before clause after, clausesOf text = before ++ clause :: after ∧
    (∀ other ∈ before, ∃ p, compileClause partition text other = .ok p) ∧ Text.words clause = []

/-- The condition of a text is the conjunction of those of two other texts. -/
structure IsConjunction (partition : Option String) (a b text : String) : Prop where
  /-- It compiles if and only if both do. -/
  compiles : (∃ c, compile partition text = .ok c) ↔
    (∃ c, compile partition a = .ok c) ∧ ∃ c, compile partition b = .ok c
  /-- Its predicates are those of the first and then those of the second. -/
  predicates : ∀ {c ca cb : Condition}, compile partition text = .ok c →
    compile partition a = .ok ca → compile partition b = .ok cb →
      c.predicates = ca.predicates ++ cb.predicates
  /-- It holds where both hold. -/
  holds : ∀ {c ca cb : Condition}, compile partition text = .ok c →
    compile partition a = .ok ca → compile partition b = .ok cb →
      ∀ v demand, c.holds v demand = true ↔ ca.holds v demand = true ∧ cb.holds v demand = true
  /-- A complaint about the first is that about the whole, unless an empty clause is its cause. -/
  failsFirst : ∀ {fault : Fault}, compile partition a = .error fault → ¬FailsEmpty partition a →
    compile partition text = .error fault
  /-- Where the first compiles, a complaint about the second is that about the whole, unless an
  empty clause is its cause. -/
  failsSecond : ∀ {ca : Condition} {fault : Fault}, compile partition a = .ok ca →
    compile partition b = .error fault → ¬FailsEmpty partition b →
      compile partition text = .error fault

/-- The complaint about a condition that fails at no empty clause is about a clause with words. -/
lemma exists_failing_clause {text : String} {fault : Fault}
    (h : compile partition text = .error fault) (hempty : ¬FailsEmpty partition text) :
    ∃ before clause after, clausesOf text = before ++ clause :: after ∧
      (∀ other ∈ before, ∃ p, compileClause partition text other = .ok p) ∧
      ∀ text', compileClause partition text' clause = .error fault := by
  obtain ⟨before, clause, after, hclauses, hbefore, hfails⟩ := compile_eq_error_iff.1 h
  have hw : Text.words clause ≠ [] :=
    fun hw => hempty ⟨before, clause, after, hclauses, hbefore, hw⟩
  refine ⟨before, clause, after, hclauses, hbefore, fun text' => ?_⟩
  rw [← hfails]
  exact compileClause_congr hw text' text

section Join

variable {a b text : String} (hclauses : clausesOf text = clausesOf a ++ clausesOf b)

include hclauses

/-- The clauses of the whole compile where those of both parts do. -/
lemma exists_compile_join_iff :
    (∃ c, compile partition text = .ok c) ↔
      (∃ c, compile partition a = .ok c) ∧ ∃ c, compile partition b = .ok c := by
  have hcongr : ∀ (text' : String) (clause : List Char),
      (∃ p, compileClause partition text clause = .ok p) ↔
        ∃ p, compileClause partition text' clause = .ok p := by
    intro text' clause
    constructor
    · rintro ⟨p, hp⟩
      exact ⟨p, compileClause_ok_congr hp text'⟩
    · rintro ⟨p, hp⟩
      exact ⟨p, compileClause_ok_congr hp text⟩
  rw [exists_compile_iff, exists_compile_iff, exists_compile_iff, hclauses, List.forall_mem_append]
  exact and_congr (forall₂_congr fun clause _ => hcongr a clause)
    (forall₂_congr fun clause _ => hcongr b clause)

/-- The predicates of the whole are those of both parts. -/
lemma predicates_join {c ca cb : Condition} (hc : compile partition text = .ok c)
    (hca : compile partition a = .ok ca) (hcb : compile partition b = .ok cb) :
    c.predicates = ca.predicates ++ cb.predicates := by
  obtain ⟨-, ha⟩ := compile_eq_ok_iff.1 hca
  obtain ⟨-, hb⟩ := compile_eq_ok_iff.1 hcb
  have happend : List.Forall₂ (fun clause p => compileClause partition text clause = .ok p)
      (clausesOf a ++ clausesOf b) (ca.predicates ++ cb.predicates) :=
    List.rel_append (ha.imp fun _ _ h => compileClause_ok_congr h text)
      (hb.imp fun _ _ h => compileClause_ok_congr h text)
  rw [← hclauses] at happend
  have hjoin : compile partition text = .ok ⟨text, ca.predicates ++ cb.predicates⟩ :=
    compile_eq_ok_iff.2 ⟨rfl, happend⟩
  rw [Except.ok.inj (hc.symm.trans hjoin)]

/-- A complaint about the first part, but for an empty clause, is that about the whole. -/
lemma compile_join_of_fails_first {fault : Fault} (h : compile partition a = .error fault)
    (hempty : ¬FailsEmpty partition a) : compile partition text = .error fault := by
  obtain ⟨before, clause, after, ha, hbefore, hfails⟩ := exists_failing_clause h hempty
  refine compile_eq_error_iff.2 ⟨before, clause, after ++ clausesOf b, ?_, ?_, hfails text⟩
  · rw [hclauses, ha, List.append_assoc]
    rfl
  · intro other hother
    obtain ⟨p, hp⟩ := hbefore other hother
    exact ⟨p, compileClause_ok_congr hp text⟩

/-- A complaint about the second part, but for an empty clause, is that about the whole where the
first part compiles. -/
lemma compile_join_of_fails_second {ca : Condition} {fault : Fault}
    (hca : compile partition a = .ok ca) (h : compile partition b = .error fault)
    (hempty : ¬FailsEmpty partition b) : compile partition text = .error fault := by
  obtain ⟨before, clause, after, hb, hbefore, hfails⟩ := exists_failing_clause h hempty
  refine compile_eq_error_iff.2 ⟨clausesOf a ++ before, clause, after, ?_, ?_, hfails text⟩
  · rw [hclauses, hb, List.append_assoc]
  · intro other hother
    rcases List.mem_append.1 hother with hother | hother
    · obtain ⟨p, hp⟩ := exists_compile_iff.1 ⟨ca, hca⟩ other hother
      exact ⟨p, compileClause_ok_congr hp text⟩
    · obtain ⟨p, hp⟩ := hbefore other hother
      exact ⟨p, compileClause_ok_congr hp text⟩

/-- A text with the clauses of two others is their conjunction. -/
lemma isConjunction_of_clauses : IsConjunction partition a b text where
  compiles := exists_compile_join_iff hclauses
  predicates := predicates_join hclauses
  holds := by
    intro c ca cb hc hca hcb v demand
    rw [holds, predicates_join hclauses hc hca hcb, List.all_append, Bool.and_eq_true]
    rfl
  failsFirst := compile_join_of_fails_first hclauses
  failsSecond := compile_join_of_fails_second hclauses

end Join

/-- The text of two conditions with a conjunction between them is not blank. -/
lemma trim_join_ne_nil (a b : String) : Text.trim (a ++ " and " ++ b).toList ≠ [] := by
  rw [Ne, Text.trim_eq_nil_iff]
  intro h
  exact absurd (h 'a' (by simp)) (by decide)

/-- The clauses of joined conditions are those of the one and then those of the other. -/
lemma clausesOf_join {a b : String} (ha : Text.trim a.toList ≠ []) (hb : Text.trim b.toList ≠ [])
    (hend : ¬(' ' :: conjunctionWord <:+ a.toList)) :
    clausesOf (a ++ " and " ++ b) = clausesOf a ++ clausesOf b := by
  have htext : (a ++ " and " ++ b).toList = a.toList ++ (conjunction ++ b.toList) := by
    simp [conjunction, conjunctionWord]
  rw [clausesOf_of_not_blank ha, clausesOf_of_not_blank hb,
    clausesOf_of_not_blank (trim_join_ne_nil a b), htext, clauses_join hend]

/-- **Joined conditions are conjunctions**, unless one of them is blank or the first ends in a
conjunction but for its last space.

**Proof sketch.** The clauses of the whole are those of both parts, and each of them compiles as in
its part, unless it has no words. -/
theorem isConjunction_join (partition : Option String) {a b : String}
    (ha : Text.trim a.toList ≠ []) (hb : Text.trim b.toList ≠ [])
    (hend : ¬(' ' :: conjunctionWord <:+ a.toList)) :
    IsConjunction partition a b (a ++ " and " ++ b) :=
  isConjunction_of_clauses (clausesOf_join ha hb hend)

/-- A site that is named `and` does not come in the way of a conjunction before it. -/
theorem isConjunction_join_site_and :
    Text.trim "not replica.incomplete".toList ≠ [] ∧ Text.trim "site.name == and".toList ≠ [] ∧
      ¬(' ' :: conjunctionWord <:+ "not replica.incomplete".toList) ∧
      IsConjunction none "not replica.incomplete" "site.name == and"
        ("not replica.incomplete" ++ " and " ++ "site.name == and") := by
  have ha : Text.trim "not replica.incomplete".toList ≠ [] := by decide
  have hb : Text.trim "site.name == and".toList ≠ [] := by decide
  have hend : ¬(' ' :: conjunctionWord <:+ "not replica.incomplete".toList) := by decide
  exact ⟨ha, hb, hend, isConjunction_join none ha hb hend⟩

end ReplicaPolicy.Condition
