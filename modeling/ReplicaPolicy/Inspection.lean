import ReplicaPolicy.Stack
import ReplicaPolicy.Text.Quoted

set_option relaxedAutoImplicit false
set_option autoImplicit false

/-!
# Showing attributes and stacks

Attributes and stacks are shown for inspection as records: a title, and the fields with their
names between braces.

## Main definitions

* `ReplicaPolicy.Inspection.record` — the text of a record.
* `ReplicaPolicy.Attribute.inspect`, `BoundAttribute.inspect`, `PolicyStack.inspect`.
-/

namespace ReplicaPolicy

namespace Inspection

/-- A record with its fields. -/
def record (title : String) (fields : List (String × String)) : String :=
  title ++ " \x7b " ++
    ", ".intercalate (fields.map fun (name, value) => name ++ ": " ++ value) ++ " \x7d"

/-- A list of shown items. -/
def list (items : List String) : String :=
  "[" ++ ", ".intercalate items ++ "]"

/-- A truth value. -/
def bool (value : Bool) : String :=
  if value then "true" else "false"

end Inspection

/-- How a type is shown. -/
def ValueType.inspect : ValueType → String
  | .bool => "Bool"
  | .numeric => "Numeric"
  | .text => "Text"
  | .time => "Time"

/-- How a decision is shown. -/
def Decision.inspect : Decision → String
  | .protect => "Protect"
  | .delete => "Delete"

/-- An attribute: its name, its type, whether it is about a partition, and whether it has
symbols. -/
def Attribute.inspect (a : Attribute) : String :=
  Inspection.record "VarDef" [
    ("name", Text.quote a.name),
    ("value_type", a.valueType.inspect),
    ("partitioned", Inspection.bool a.isPartitioned),
    ("resolvable", Inspection.bool a.symbols?.isSome)]

/-- An attribute that can be taken: its name and its type. -/
def BoundAttribute.inspect (b : BoundAttribute) : String :=
  Inspection.record "BoundVar" [
    ("name", Text.quote b.name),
    ("value_type", b.valueType.inspect)]

/-- A stack: its name, the names of its rules, and the default decision. -/
def PolicyStack.inspect (s : PolicyStack) : String :=
  Inspection.record "PolicyStack" [
    ("name", Text.quote s.name),
    ("rules", Inspection.list (s.rules.map fun r => Text.quote r.name)),
    ("default_decision", s.default.inspect)]

end ReplicaPolicy
