import ParameterDrift.Contract.Reading
import ParameterDrift.Finding
import ParameterDrift.Log
import ParameterDrift.Markup
import ParameterDrift.Signature.Identifier
import ParameterDrift.Signature.Reading
import ParameterDrift.Workspace
/-! # Failures

Drift is never a failure; it is told by findings. What fails is input that cannot be read. Faults of
documents and settings are expected and come with a message that names the path. Other faults end a
run where they arise.
-/

namespace ParameterDrift

/-- Why a contract or a manifest is not read. -/
inductive DocumentFault
  | unreadable
  | malformed (fault : Markup.FormFault)
  | notMapping
  /-- The mapping does not say that it is a contract. -/
  | notContract
  | resourceNotMapping
  | invalid (issues : List Issue)
  deriving DecidableEq, Repr

/-- Why settings are not read. -/
inductive SettingsFault
  | unreadable
  | malformed (fault : Markup.FormFault)
  | notMapping
  | invalid (issues : List Issue)
  deriving DecidableEq, Repr

/-- Why a run does not come to its end. -/
inductive Failure
  | document (path : String) (fault : DocumentFault)
  | settings (path : String) (fault : SettingsFault)
  /-- A file does not hold UTF-8. -/
  | encoding
  | value (fault : Markup.ValueFault)
  | contract (fault : ContractFault)
  | shape (fault : ShapeFault)
  | codePoint (fault : Identifier.CodePointFault)
  | threshold (fault : Log.ThresholdFault)
  | argument (fault : MissingArgument)
  /-- A value that is taken as a text or printed is not written. -/
  | writing (fault : WritingFault)
  deriving DecidableEq, Repr

namespace DocumentFault

/-- The message about a document. It ends in a colon and a space where a detail could follow. -/
def message (path : String) : DocumentFault → String
  | .unreadable => "Cannot read " ++ path ++ ": "
  | .malformed _ => "Invalid YAML/JSON in " ++ path ++ ": "
  | .notMapping => "Expected a mapping at the top of " ++ path
  | .notContract => path ++ " is not an OpenAPI or Swagger document"
  | .resourceNotMapping => "Resource entries in " ++ path ++ " must be mappings"
  | .invalid _ => "Invalid signature manifest " ++ path ++ ": "

/-- Whether a detail could follow the message. -/
def isOpen : DocumentFault → Bool
  | .unreadable => true
  | .malformed _ => true
  | .invalid _ => true
  | _ => false

/-- The issues that a check found. -/
def issues? : DocumentFault → Option (List Issue)
  | .invalid issues => some issues
  | _ => none

end DocumentFault

namespace SettingsFault

/-- The message about settings. It ends in a colon and a space where a detail could follow. -/
def message (path : String) : SettingsFault → String
  | .unreadable => "Cannot load config " ++ path ++ ": "
  | .malformed _ => "Cannot load config " ++ path ++ ": "
  | .notMapping => "Config " ++ path ++ " must be a mapping"
  | .invalid _ => "Invalid config " ++ path ++ ": "

/-- Whether a detail could follow the message. -/
def isOpen : SettingsFault → Bool
  | .notMapping => false
  | _ => true

/-- The issues that a check found. -/
def issues? : SettingsFault → Option (List Issue)
  | .invalid issues => some issues
  | _ => none

end SettingsFault

end ParameterDrift
