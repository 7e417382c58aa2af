import ReplicaPolicy.Fault

set_option relaxedAutoImplicit false
set_option autoImplicit false

/-!
# Decisions and verdicts

A replica is protected or may be deleted. A verdict is a decision with its reason, and with the
name of the rule that took it; a replica decision is what is reported about one replica.

## Main definitions

* `ReplicaPolicy.Decision` — protect or delete.
* `ReplicaPolicy.Decision.ofText` — the decision that a text names, in any case.
* `ReplicaPolicy.Verdict`, `ReplicaPolicy.ReplicaId`, `ReplicaPolicy.ReplicaDecision`.
-/

namespace ReplicaPolicy

/-- The outcome for a replica. -/
inductive Decision where
  /-- The replica must stay. -/
  | protect
  /-- The replica may be removed. -/
  | delete
  deriving DecidableEq, Repr

namespace Decision

/-- The other decision. -/
def opposite : Decision → Decision
  | .protect => .delete
  | .delete => .protect

/-- How a decision is reported. -/
def text : Decision → String
  | .protect => "PROTECT"
  | .delete => "DELETE"

/-- The word for a decision in documents. -/
def word : Decision → String
  | .protect => "protect"
  | .delete => "delete"

/-- The decision of a word in documents. -/
def ofWord? (word : String) : Option Decision :=
  if word == "protect" then some .protect
  else if word == "delete" then some .delete
  else none

/-- The text with its ASCII capitals made small. -/
def lowerCase (text : String) : String :=
  String.ofList (text.toList.map Char.toLower)

/-- The decision that a text names, in any case; `keep` names protection too. -/
def ofText (text : String) : Except Fault Decision :=
  let word := lowerCase text
  if word == "keep" then .ok .protect
  else
    match ofWord? word with
    | some d => .ok d
    | none => .error (.invalidSetting (.unknownDecision word))

end Decision

/-- A decision, its reason, and the name of the rule that took it; no name when it was taken
because no rule took any. -/
structure Verdict where
  /-- The decision. -/
  decision : Decision
  /-- Why it was taken. -/
  reason : String
  /-- The rule that took it. -/
  rule : Option String
  deriving DecidableEq, Repr

/-- The names that tell a replica. -/
structure ReplicaId where
  /-- The name of its site. -/
  site : String
  /-- The name of its dataset. -/
  dataset : String
  deriving DecidableEq, Repr

/-- The two names with a colon between them. -/
def ReplicaId.text (id : ReplicaId) : String :=
  s!"{id.site}:{id.dataset}"

/-- What is reported about a replica. -/
structure ReplicaDecision where
  /-- The replica. -/
  replica : ReplicaId
  /-- The decision. -/
  decision : Decision
  /-- Why it was taken. -/
  reason : String
  deriving DecidableEq, Repr

/-- The report on one line: site, dataset, decision and reason. -/
def ReplicaDecision.text (d : ReplicaDecision) : String :=
  s!"{d.replica.site} {d.replica.dataset} {d.decision.text} {d.reason}"

end ReplicaPolicy
