import ReplicaPolicy.Age.Unit
import ReplicaPolicy.Decimal.Shortest

set_option relaxedAutoImplicit false
set_option autoImplicit false

/-!
# What can be wrong

The causes for which a policy cannot be compiled or an input cannot be read. A cause carries what
its message tells; the wording is in `Fault.message` alone.

## Main definitions

* `ReplicaPolicy.LiteralFault` — why a text is no value of an attribute.
* `ReplicaPolicy.SettingFault` — why a setting is refused.
* `ReplicaPolicy.Fault` — a cause of failure.
* `ReplicaPolicy.Fault.message` — its wording.
-/

namespace ReplicaPolicy

/-- Why a text is no value of an attribute. -/
inductive LiteralFault where
  /-- The attribute is a truth value and takes none. -/
  | takesNoValue
  /-- There is no text. -/
  | missing
  /-- The attribute has symbols, and the text is neither one of them nor a number. -/
  | unknownSymbol
  /-- The text is no number. -/
  | notNumber
  /-- The text is no time. -/
  | notTime
  /-- The text is a symbol for a truth value. -/
  | booleanSymbol
  deriving DecidableEq, Repr

/-- The wording of the reason. -/
def LiteralFault.message : LiteralFault → String
  | .takesNoValue => "boolean expressions take no value"
  | .missing => "missing value"
  | .unknownSymbol => "unknown symbol"
  | .notNumber => "invalid float literal"
  | .notTime => "expected a date or timestamp"
  | .booleanSymbol => "symbol resolves to a boolean"

/-- A bound on the occupancy of a site. -/
inductive OccupancyBound where
  /-- The bound above which cleaning starts. -/
  | threshold
  /-- The bound at which cleaning stops. -/
  | target
  deriving DecidableEq, Repr

/-- The name of the setting of a bound. -/
def OccupancyBound.setting : OccupancyBound → String
  | .threshold => "threshold_occupancy"
  | .target => "target_occupancy"

/-- Why a setting is refused. -/
inductive SettingFault where
  /-- A word that names no decision. -/
  | unknownDecision (word : String)
  /-- The name of a stack is blank. -/
  | blankName
  /-- An age in a stack is negative, infinite or no number. -/
  | invalidAge (amount : Float)
  /-- An age to count back is negative, infinite or no number. -/
  | negativeAge (amount : Float) (unit : AgeUnit)
  /-- Counting back an age leaves the calendar. -/
  | distantAge (amount : Float) (unit : AgeUnit)
  /-- A bound on the occupancy lies outside the range from 0 to 1. -/
  | boundOutside (bound : OccupancyBound) (value : Float)
  /-- The target occupancy exceeds the threshold. -/
  | targetAboveThreshold
  /-- A reference time that cannot be read. -/
  | unreadableNow (text : String)
  /-- An occupancy requirement without the partition that it is about. -/
  | missingPartition
  deriving Repr

/-- The wording of the reason. -/
def SettingFault.message : SettingFault → String
  | .unknownDecision word => s!"unknown decision '{word}'"
  | .blankName => "Stack name cannot be empty"
  | .invalidAge amount => s!"Invalid age threshold: {Decimal.shortest amount}"
  | .negativeAge amount unit =>
    s!"Age threshold must be a non-negative number, got {Decimal.shortest amount}{unit.suffix}"
  | .distantAge amount unit =>
    s!"Age threshold {Decimal.shortest amount}{unit.suffix} is out of range"
  | .boundOutside bound value =>
    s!"{bound.setting} must be within [0, 1], got {Decimal.shortest value}"
  | .targetAboveThreshold => "target_occupancy cannot exceed threshold_occupancy"
  | .unreadableNow text => s!"Invalid --now time: {text}"
  | .missingPartition => "An occupancy requirement needs a partition"

/-- A cause of failure. -/
inductive Fault where
  /-- No attribute has this name. -/
  | unknownExpression (name : String)
  /-- A condition names no attribute here, or has an empty clause. -/
  | invalidExpression (text : String)
  /-- The operator does not apply to the attribute. -/
  | invalidOperator (name operator : String)
  /-- The text is no value of the attribute. -/
  | invalidLiteral (name literal : String) (reason : LiteralFault)
  /-- The attribute is about a partition, and none is given. -/
  | missingPartition (name : String)
  /-- The text writes no glob. -/
  | invalidPattern (glob : String)
  /-- The text names no unit of age. -/
  | invalidUnit (text : String)
  /-- A line of an action list is no entry, neither blank nor a comment. -/
  | invalidActionLine (number : Nat) (line : String)
  /-- A setting is refused. -/
  | invalidSetting (reason : SettingFault)
  /-- A file cannot be read. -/
  | unreadableFile
  /-- A text is no stack definition. -/
  | malformedStack
  /-- A text is no document of the expected form. -/
  | malformedDocument
  deriving Repr

/-- The wording of a cause, up to what a library tells of it. -/
def Fault.message : Fault → String
  | .unknownExpression name => s!"Unknown expression: {name}"
  | .invalidExpression text => s!"Invalid expression: {text}"
  | .invalidOperator name operator =>
    s!"Operator '{operator}' is not valid for expression {name}"
  | .invalidLiteral name literal reason =>
    s!"Invalid literal '{literal}' for expression {name}: {reason.message}"
  | .missingPartition name => s!"Expression {name} requires a partition"
  | .invalidPattern glob => s!"Invalid pattern '{glob}'"
  | .invalidUnit text => s!"Invalid time unit: {text}"
  | .invalidActionLine number line => s!"Malformed action list line {number}: {line}"
  | .invalidSetting reason => s!"Invalid configuration: {reason.message}"
  | .unreadableFile => "IO error"
  | .malformedStack => "TOML error"
  | .malformedDocument => "JSON error"

end ReplicaPolicy
