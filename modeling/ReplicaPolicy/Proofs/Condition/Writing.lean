import ReplicaPolicy.Proofs.Condition.Conjunction
import ReplicaPolicy.Proofs.Condition.Grammar

set_option relaxedAutoImplicit false
set_option autoImplicit false

/-!
# Writing conditions

The name of a truth value is a condition, and so is a comparison of another attribute with a literal
of one word. Such conditions are joined by conjunctions. This file says which predicates they
compile to.

## Main definitions

* `ReplicaPolicy.GlobalAttribute.comparison` — the text of a comparison.
* `ReplicaPolicy.Condition.Tells` — a text compiles to some predicates, alone or within a
  conjunction.

## Main results

* `ReplicaPolicy.Condition.tells_name`, `tells_comparison` — conditions of one clause.
* `ReplicaPolicy.Condition.tells_time`, `tells_glob` — comparisons with a time and with a glob.
* `ReplicaPolicy.Condition.Tells.join` — a conjunction of conditions.
* `ReplicaPolicy.Condition.Tells.compile` — what a text compiles to.
-/

namespace ReplicaPolicy

/-- The text of a comparison of an attribute with a word. -/
def GlobalAttribute.comparison (a : GlobalAttribute) (op : Operator) (word : String) : String :=
  a.name ++ " " ++ op.text ++ " " ++ word

/-! ## Literals -/

namespace Literal

variable {b : BoundAttribute} {text : String}

/-- A number without symbols takes what a text spells. -/
lemma compile_number (hb : b.valueType = .numeric) (hs : b.symbols? = none) {x : Float}
    (hx : Decimal.literal? text.toList = some x) : compile b text = .ok (.number x) := by
  have ht : text ≠ "" := by
    rintro rfl
    have hnone : Decimal.literal? "".toList = none := rfl
    exact absurd (hx.symm.trans hnone) (by simp)
  rw [compile_of_ne_bool (by simp [hb]) ht, hs]
  simp [ofSpelling, hb, hx]

/-- An instant takes what a text tells as a time. -/
lemma compile_time (hb : b.valueType = .time) (hs : b.symbols? = none) {t : Instant}
    (ht : Instant.read? text = some t) : compile b text = .ok (.time t) := by
  have hne : text ≠ "" := by
    rintro rfl
    have hnone : Instant.read? "" = none := rfl
    exact absurd (ht.symm.trans hnone) (by simp)
  rw [compile_of_ne_bool (by simp [hb]) hne, hs]
  simp [ofSpelling, hb, ht]

/-- A text takes what another one writes as a glob. -/
lemma compile_glob (hb : b.valueType = .text) (hs : b.symbols? = none) (hne : text ≠ "") {g : Glob}
    (hg : Glob.compile text = .ok g) : compile b text = .ok (.glob g) := by
  rw [compile_of_ne_bool (by simp [hb]) hne, hs]
  simp [ofSpelling, hb, ofGlob, hg, Except.map]

end Literal

/-! ## What a text tells -/

namespace Condition

/-- A text tells some predicates: it is not blank, and its clauses compile to these predicates,
about any partition or none and as clauses of any text. -/
structure Tells (text : String) (predicates : List Predicate) : Prop where
  /-- The text is not blank. -/
  notBlank : Text.trim text.toList ≠ []
  /-- Its clauses compile to the predicates. -/
  clauses : ∀ partition whole, List.Forall₂
    (fun clause p => compileClause partition whole clause = .ok p) (clausesOf text) predicates

/-- **A text compiles to the predicates that it tells.** -/
theorem Tells.compile {text : String} {predicates : List Predicate} (h : Tells text predicates)
    (partition : Option String) : compile partition text = .ok ⟨text, predicates⟩ :=
  compile_eq_ok_iff.2 ⟨rfl, h.clauses partition text⟩

/-- **A conjunction tells what its parts tell**, unless the first of them ends in a conjunction but
for its last space. -/
theorem Tells.join {a b : String} {ps qs : List Predicate} (ha : Tells a ps) (hb : Tells b qs)
    (hend : ¬(' ' :: conjunctionWord <:+ a.toList)) : Tells (a ++ " and " ++ b) (ps ++ qs) where
  notBlank := trim_join_ne_nil a b
  clauses := by
    intro partition whole
    rw [clausesOf_join ha.notBlank hb.notBlank hend]
    exact List.rel_append (ha.clauses partition whole) (hb.clauses partition whole)

/-! ## Conditions of one clause -/

/-- Words that write a clause, without a conjunction among them, tell what the clause compiles
to. -/
lemma tells_of_words {text : String} {first : List Char} {others : List (List Char)}
    (htext : text.toList = Text.unwords (first :: others))
    (hwords : ∀ word ∈ first :: others, Text.IsUnbroken word)
    (hand : ∀ word ∈ others.dropLast, word ≠ conjunctionWord) {c : Clause}
    (hc : Clause.ofWords? (first :: others) = some c) {p : Predicate}
    (hp : ∀ partition, c.compile partition = .ok p) : Tells text [p] := by
  have hread : Text.words text.toList = first :: others := by
    rw [htext, Text.words_unwords hwords]
  have hblank : Text.trim text.toList ≠ [] := by
    rw [Ne, Text.trim_eq_nil_iff]
    intro hblank
    obtain ⟨hne, hnot⟩ := hwords first List.mem_cons_self
    obtain ⟨d, cs, rfl⟩ := List.exists_cons_of_ne_nil hne
    have hd : d ∈ text.toList := by
      rw [htext]
      cases others with
      | nil => simp [Text.unwords_singleton]
      | cons other rest => simp [Text.unwords_cons_cons]
    exact absurd ((hblank d hd).symm.trans (hnot d List.mem_cons_self)) (by decide)
  refine ⟨hblank, fun partition whole => ?_⟩
  have hone : clausesOf text = [text.toList] := by
    rw [clausesOf_of_not_blank hblank, htext]
    refine clauses_unwords ?_ ?_ hand
    · exact (hwords first List.mem_cons_self).space_notMem
    · exact fun word hw => (hwords word (List.mem_cons_of_mem first hw)).space_notMem
  rw [hone]
  refine .cons (compileClause_eq_ok_iff.2 ⟨c, ?_, hp partition⟩) .nil
  rw [hread, hc]

/-- The names of attributes are words. -/
lemma isUnbroken_name (a : GlobalAttribute) : Text.IsUnbroken a.name.toList := by
  cases a <;> decide

/-- **The name of a truth value tells it.** -/
theorem tells_name {a : GlobalAttribute} (ha : a.valueType = .bool) :
    Tells a.name [⟨.global a, .holds, .absent⟩] := by
  refine tells_of_words (Text.unwords_singleton _).symm ?_ (by simp) rfl fun partition => ?_
  · rintro word hword
    rw [List.mem_singleton.1 hword]
    exact isUnbroken_name a
  · refine Clause.compile_eq_ok_iff.2 ⟨.global a, ?_, rfl, ⟨rfl, ?_⟩, ?_⟩
    · exact String.ofList_toList.symm
    · exact (Operator.isValidFor_iff _ _).2 (.inl ⟨ha, .inl rfl⟩)
    · exact Literal.compile_of_bool ha

/-- An operator that compares is written as a word, and not as that of a conjunction. -/
lemma text_of_compares {op : Operator} {type : ValueType} (h : op.Compares type) :
    Text.IsUnbroken op.text.toList ∧ op.text.toList ≠ conjunctionWord := by
  revert h
  cases op <;> cases type <;> decide

/-- The characters of a comparison. -/
lemma toList_comparison (a : GlobalAttribute) (op : Operator) (word : String) :
    (a.comparison op word).toList =
      Text.unwords [a.name.toList, op.text.toList, word.toList] := by
  rw [Text.unwords_cons_cons, Text.unwords_cons_cons, Text.unwords_singleton]
  simp [GlobalAttribute.comparison]

/-- **A comparison with one word tells it**, with the literal of the word. -/
theorem tells_comparison {a : GlobalAttribute} {op : Operator} (hop : op.Compares a.valueType)
    {word : String} (hword : Text.IsUnbroken word.toList) {l : Literal}
    (hl : Literal.compile (.global a) word = .ok l) :
    Tells (a.comparison op word) [⟨.global a, op, l⟩] := by
  obtain ⟨hunbroken, hand⟩ := text_of_compares hop
  have hname : a.name.toList ≠ Clause.negation := Clause.name_ne_negation (.global a)
  refine tells_of_words (toList_comparison a op word) ?_ ?_
    (Clause.ofWords?_of_ne_negation hname _ _) fun partition => ?_
  · simp only [List.forall_mem_cons, List.not_mem_nil, false_implies, implies_true, and_true]
    exact ⟨isUnbroken_name a, hunbroken, hword⟩
  · simpa using hand
  · rw [Text.unwords_singleton, String.ofList_toList, String.ofList_toList, String.ofList_toList]
    exact Clause.compile_eq_ok_iff.2
      ⟨.global a, rfl, rfl, ⟨rfl, (Operator.isValidFor_iff _ _).2 (.inr hop)⟩, hl⟩

/-- A comparison ends in the word of a conjunction only if it is one with that word. -/
lemma not_suffix_comparison {a : GlobalAttribute} {op : Operator} {word : String}
    (hword : ' ' ∉ word.toList) (hand : word.toList ≠ conjunctionWord) :
    ¬(' ' :: conjunctionWord <:+ (a.comparison op word).toList) := by
  have hsuffix : ' ' :: word.toList <:+ (a.comparison op word).toList := by
    refine ⟨a.name.toList ++ ' ' :: op.text.toList, ?_⟩
    simp [GlobalAttribute.comparison]
  intro h
  exact hand (Text.eq_of_suffix hword (by decide) hsuffix h)

/-! ## Comparisons by type -/

/-- Instants and texts have no symbols. -/
lemma symbols?_of_type {a : GlobalAttribute} (ha : a.valueType = .time ∨ a.valueType = .text) :
    (BoundAttribute.global a).symbols? = none := by
  revert ha
  cases a <;> decide

/-- An instant is compared with a word that tells a time. -/
lemma tells_time {a : GlobalAttribute} (ha : a.valueType = .time) {op : Operator}
    (hop : op.Compares a.valueType) {word : String} (hword : Text.IsUnbroken word.toList)
    {t : Instant} (ht : Instant.read? word = some t) :
    Tells (a.comparison op word) [⟨.global a, op, .time t⟩] :=
  tells_comparison hop hword
    (Literal.compile_time (b := .global a) ha (symbols?_of_type (.inl ha)) ht)

/-- A text is compared with a word that writes a glob. -/
lemma tells_glob {a : GlobalAttribute} (ha : a.valueType = .text) {op : Operator}
    (hop : op = .equal ∨ op = .notEqual) {word : String} (hword : Text.IsUnbroken word.toList)
    {g : Glob} (hg : Glob.compile word = .ok g) :
    Tells (a.comparison op word) [⟨.global a, op, .glob g⟩] := by
  have hne : word ≠ "" := by
    rintro rfl
    exact hword.1 rfl
  have hcompares : op.Compares a.valueType := .inl ⟨hop, by rw [ha]; decide⟩
  exact tells_comparison hcompares hword
    (Literal.compile_glob (b := .global a) ha (symbols?_of_type (.inr ha)) hne hg)

end Condition

end ReplicaPolicy
