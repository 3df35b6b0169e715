import ParameterDrift.Finding
/-! # Settings

What a user may set: the severity of all findings, the parameter locations that need no
implementation, whether warnings count as failure, and how the log is written.
-/

namespace ParameterDrift

/-- The settings of a check. -/
structure Settings where
  severity : Severity := .error
  /-- Parameter locations that need no implementation, as they are written. -/
  exempt : List String := ["header"]
  failOnWarning : Bool := false
  logLevel : String := "WARNING"
  logFormat : String := "console"
  deriving DecidableEq, Repr

open Checked

/-- Check settings. -/
def Settings.check : Raw → Checked Settings :=
  record fun entries =>
    Settings.mk <$> fieldOr "severity" .error (named .notInEnumeration Severity.byName) entries
      <*> fieldOr "exempt_locations" ["header"] (items .notList text) entries
      <*> fieldOr "fail_on_warning" false truth entries
      <*> fieldOr "log_level" "WARNING" text entries
      <*> fieldOr "log_format" "console" text entries

/-- Whether findings make a check fail: any finding when warnings count, else any error. -/
def Settings.isFailure (settings : Settings) (findings : List Finding) : Bool :=
  if settings.failOnWarning then !findings.isEmpty
  else findings.any fun finding => finding.severity == .error

end ParameterDrift
