import ReplicaPolicy.CommandLine.Run
import ReplicaPolicy.Proofs.Json.Reading

set_option relaxedAutoImplicit false
set_option autoImplicit false

/-!
# Decisions as documents

A decision about a replica is written as a document on one line, and the line tells the decision:
who reads the document of a line finds the names of the replica, what was decided and why.

## Main definitions

* `ReplicaPolicy.ReplicaDecision.ofJson?` — the decision that a document tells.
* `ReplicaPolicy.ReplicaDecision.ofDocumentLine?` — the decision that a line with a document tells.

## Main results

* `ReplicaPolicy.ReplicaDecision.isOneLine_write` — every decision is on one line as a document.
* `ReplicaPolicy.ReplicaDecision.ofDocumentLine?_write` — the line tells the decision.
-/

namespace ReplicaPolicy

open Json (record?)

/-! ## Reading decisions -/

/-- The names of a replica. -/
def ReplicaId.ofJson? (value : Json) : Option ReplicaId := do
  let r ← record? ["site", "dataset"] value
  some
    { site := ← r.required? "site" Json.asText?
      dataset := ← r.required? "dataset" Json.asText? }

/-- A decision, by its word. -/
def Decision.ofJson? (value : Json) : Option Decision := do
  Decision.ofWord? (← value.asWord?)

namespace ReplicaDecision

/-- The decision about a replica. -/
def ofJson? (value : Json) : Option ReplicaDecision := do
  let r ← record? ["replica", "decision", "reason"] value
  some
    { replica := ← r.required? "replica" ReplicaId.ofJson?
      decision := ← r.required? "decision" Decision.ofJson?
      reason := ← r.required? "reason" Json.asText? }

/-- The decision that a line with a document tells. -/
def ofDocumentLine? (line : String) : Option ReplicaDecision :=
  (Json.read? line).bind ofJson?

/-! ## Writing decisions -/

/-- A decision is written with texts only. -/
lemma ofTexts_toJson (d : ReplicaDecision) : d.toJson.OfTexts := by
  refine .record ?_
  simp only [List.forall_mem_cons]
  refine ⟨.record ?_, .text _, .text _, List.forall_mem_nil _⟩
  simp only [List.forall_mem_cons]
  exact ⟨.text _, .text _, List.forall_mem_nil _⟩

/-- The document of a decision tells it. -/
lemma ofJson?_toJson (d : ReplicaDecision) : ofJson? d.toJson = some d := by
  obtain ⟨⟨site, dataset⟩, decision, reason⟩ := d
  cases decision <;> rfl

/-- **A decision is written on one line as a document**, whatever its names and its reason are. -/
theorem isOneLine_write (d : ReplicaDecision) : Text.IsOneLine d.toJson.write :=
  d.ofTexts_toJson.isOneLine_write

/-- **The line of a decision tells it**, so that no two decisions have one line. -/
theorem ofDocumentLine?_write (d : ReplicaDecision) :
    ofDocumentLine? d.toJson.write = some d := by
  rw [ofDocumentLine?, d.ofTexts_toJson.read?_write]
  exact d.ofJson?_toJson

end ReplicaDecision

end ReplicaPolicy
