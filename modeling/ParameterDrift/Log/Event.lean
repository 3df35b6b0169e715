import ParameterDrift.Raw
/-! # Events of a run

A run tells what it does by events. Each has a name, a level, the part of the program that it comes
from, and a few fields.
-/

namespace ParameterDrift.Log

/-- What happens in a run. -/
inductive Event
  | contractLoaded (path : String) (operations components : Nat)
  | manifestLoaded (path : String) (resources : Nat)
  /-- A reference was followed and led nowhere. -/
  | referenceUnresolved (ref : String)
  | reconciliationFinished (method path : String) (findings : Nat)
  /-- A resource was skipped, since the contract has no operation for it. -/
  | resourceWithoutOperation (method path : String)
  | serviceValidated (resources findings : Nat)
  deriving DecidableEq, Repr

/-- How important an event is. -/
inductive Level
  | debug
  | info
  deriving DecidableEq, Repr

/-- The name of a level. -/
def Level.name : Level → String
  | .debug => "debug"
  | .info => "info"

/-- The rank of a level on the scale of thresholds. -/
def Level.rank : Level → Nat
  | .debug => 10
  | .info => 20

namespace Event

/-- The name of an event. -/
def name : Event → String
  | .contractLoaded .. => "contract_loaded"
  | .manifestLoaded .. => "manifest_loaded"
  | .referenceUnresolved .. => "reference_unresolved"
  | .reconciliationFinished .. => "reconciliation_finished"
  | .resourceWithoutOperation .. => "resource_without_operation"
  | .serviceValidated .. => "service_validated"

/-- The level of an event. -/
def level : Event → Level
  | .contractLoaded .. => .debug
  | .manifestLoaded .. => .debug
  | .referenceUnresolved .. => .debug
  | .reconciliationFinished .. => .debug
  | .resourceWithoutOperation .. => .info
  | .serviceValidated .. => .info

/-- The name of the logger that an event goes to. -/
def logger : Event → String
  | .contractLoaded .. => "param_check.parser.openapi"
  | .manifestLoaded .. => "param_check.parser.signature"
  | .referenceUnresolved .. => "param_check.validator.refs"
  | .reconciliationFinished .. => "param_check.validator.parameters"
  | .resourceWithoutOperation .. => "param_check.validator.service"
  | .serviceValidated .. => "param_check.validator.service"

/-- The fields of an event, in the order of their names. -/
def fields : Event → List (String × Scalar)
  | .contractLoaded path operations components =>
    [("components", .int components), ("operations", .int operations), ("path", .text path)]
  | .manifestLoaded path resources => [("path", .text path), ("resources", .int resources)]
  | .referenceUnresolved ref => [("ref", .text ref)]
  | .reconciliationFinished method path findings =>
    [("findings", .int findings), ("method", .text method), ("path", .text path)]
  | .resourceWithoutOperation method path => [("method", .text method), ("path", .text path)]
  | .serviceValidated resources findings =>
    [("findings", .int findings), ("resources", .int resources)]

end Event

end ParameterDrift.Log
