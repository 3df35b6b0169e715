import ParameterDrift.Contract.Basic
import ParameterDrift.Keyed
/-! # Merging parameters

The parameters of a path apply to all its operations unless an operation overrides them. Entries
are told apart by what is written: a reference by its text, any other parameter by its name and
location. An entry that overrides another takes its place in the order.
-/

namespace ParameterDrift

namespace ContractParameter

/-- The name under which references are told apart. -/
def referenceMark : String := "$ref"

/-- What tells an entry apart when parameters are merged. -/
def mergeKey (parameter : ContractParameter) : Option String × Option String :=
  match parameter.ref with
  | some ref => (some referenceMark, some ref)
  | none => (parameter.name, parameter.location)

/-- The parameters of an operation: those of its path, overridden by its own. -/
def merge (shared own : List ContractParameter) : List ContractParameter :=
  (Keyed.ofList ((shared ++ own).map fun parameter => (parameter.mergeKey, parameter))).map Prod.snd

end ContractParameter

end ParameterDrift
