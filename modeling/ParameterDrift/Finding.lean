import ParameterDrift.Signature.Basic
import ParameterDrift.Raw.Text
import ParameterDrift.Text.Case
/-! # Findings

A finding is one inconsistency between a contract and a signature. Its kind fixes a code and the
template of its message; the template is filled from the arguments of the finding, each of which
stands in the message as it is.
-/

namespace ParameterDrift

/-- The kinds of inconsistency. -/
inductive FindingKind
  /-- A documented parameter is not implemented. -/
  | missing
  /-- An implemented parameter is not documented. -/
  | undefined
  /-- A parameter is documented and implemented with types that do not fit. -/
  | typeMismatch
  deriving DecidableEq, Repr

/-- How grave a finding is. -/
inductive Severity
  | error
  | warning
  deriving DecidableEq, Repr

/-- An inconsistency, with the arguments of its message. -/
structure Finding where
  kind : FindingKind
  severity : Severity
  location : Option Location := none
  arguments : List String := []
  deriving DecidableEq, Repr

/-- A part of a message template. -/
inductive TemplatePart
  | words (text : String)
  | argument (index : Nat)
  deriving DecidableEq, Repr

/-- A message asks for an argument that the finding does not have. -/
structure MissingArgument where
  index : Nat
  deriving DecidableEq, Repr

/-- Why a finding is not told on a line. -/
inductive LineFault
  | location (fault : WritingFault)
  | message (fault : MissingArgument)
  deriving DecidableEq, Repr

namespace Severity

/-- The name of a severity. -/
def name : Severity → String
  | .error => "error"
  | .warning => "warning"

/-- The severities by name. -/
def byName : List (String × Severity) :=
  [error, warning].map fun severity => (severity.name, severity)

end Severity

namespace FindingKind

/-- The name of a kind. -/
def name : FindingKind → String
  | .missing => "missing_parameter"
  | .undefined => "undefined_parameter"
  | .typeMismatch => "type_mismatch_parameter"

/-- The kinds by name. -/
def byName : List (String × FindingKind) :=
  [missing, undefined, typeMismatch].map fun kind => (kind.name, kind)

/-- The code of a kind. -/
def code : FindingKind → String
  | .missing => "PARAM_001"
  | .undefined => "PARAM_002"
  | .typeMismatch => "PARAM_003"

/-- The message template of a kind. -/
def template : FindingKind → List TemplatePart
  | .missing =>
    [.words "missing implementation for the '", .argument 0,
      .words "' parameter documented in the contract for the '", .argument 1,
      .words "' operation on path '", .argument 2, .words "'"]
  | .undefined =>
    [.words "undefined parameter '", .argument 0, .words "' in the '", .argument 1,
      .words "' operation on path '", .argument 2, .words "': it is not documented in the contract"]
  | .typeMismatch =>
    [.words "type mismatch: the contract declares '", .argument 0,
      .words "' but the implementation declares '", .argument 1, .words "' for the '", .argument 2,
      .words "' parameter of the '", .argument 3, .words "' operation on path '", .argument 4,
      .words "'"]

end FindingKind

/-- The text of a part of a template. -/
def TemplatePart.fill (arguments : List String) : TemplatePart → Except MissingArgument String
  | .words text => .ok text
  | .argument index =>
    match arguments[index]? with
    | some text => .ok text
    | none => .error ⟨index⟩

namespace Finding

/-- The code of a finding. -/
def code (finding : Finding) : String :=
  finding.kind.code

/-- The message of a finding; arguments beyond those that the template asks for are left out. -/
def message (finding : Finding) : Except MissingArgument String :=
  (finding.kind.template.mapM (TemplatePart.fill finding.arguments)).map String.join

/-- What stands for the location of a finding that has none. -/
def contractLocation : String := "<contract>"

/-- The location of a finding, written as a text. -/
def place (finding : Finding) : Except WritingFault String :=
  match finding.location with
  | some location => location.written
  | none => .ok contractLocation

/-- A finding on one line. -/
def line (finding : Finding) : Except LineFault String := do
  let place ← finding.place.mapError .location
  let message ← finding.message.mapError .message
  .ok (place ++ ": " ++ Text.upperString finding.severity.name ++ " [" ++ finding.code ++ "] " ++
    message)

open Checked

/-- Check a finding. -/
def check : Raw → Checked Finding :=
  record fun entries =>
    Finding.mk <$> field "kind" (named .notInEnumeration FindingKind.byName) entries
      <*> field "severity" (named .notInEnumeration Severity.byName) entries
      <*> fieldOr "location" none (nullable Location.check) entries
      <*> fieldOr "message_args" [] (items .notTuple text) entries

/-- The finding that someone reports by the names of kind and severity. Arguments of any kind are
taken as texts, before the names are checked. -/
def ofReport (kind severity : Raw) (location : Option Location) (arguments : List Raw) :
    Except WritingFault (Checked Finding) := do
  let arguments ← arguments.mapM Raw.written
  .ok ((fun kind severity => ⟨kind, severity, location, arguments⟩) <$>
    (named .notInEnumeration FindingKind.byName kind).under (.name "kind") <*>
    (named .notInEnumeration Severity.byName severity).under (.name "severity"))

end Finding

end ParameterDrift
