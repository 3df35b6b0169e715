import ParameterDrift.CommandLine.Arguments
import ParameterDrift.Loading
import ParameterDrift.Raw.Json
import ParameterDrift.Service
/-! # The command line

The program has two commands. One validates a manifest against a contract and prints the findings;
its exit status tells whether they count as failure. The other lists the operations of a contract
with their parameters. Both read from a workspace, and what they print is a value, so that a run is
a function of the workspace and the arguments.
-/

namespace ParameterDrift

/-- A location as a value. -/
def Location.toRaw (location : Location) : Raw :=
  .ofFields
    [("file", .text location.file), ("line", .int location.line), ("column", .int location.column)]

/-- A finding as a value, with its code and its message. -/
def Finding.toRaw (finding : Finding) : Except MissingArgument Raw :=
  finding.message.map fun message =>
    .ofFields
      [("kind", .text finding.kind.name), ("severity", .text finding.severity.name),
        ("location", match finding.location with
          | some location => location.toRaw
          | none => .null),
        ("message_args", .list (finding.arguments.map .text)),
        ("code", .text finding.code), ("message", .text message)]

/-- Settings with what the command line asks for in their place. -/
def Settings.overriddenBy (settings : Settings) (severity : Option Severity)
    (logLevel : Option String) : Settings :=
  { settings with
    severity := severity.getD settings.severity
    logLevel := logLevel.getD settings.logLevel }

namespace CommandLine

/-- What a run leaves behind. -/
structure Outcome where
  exitCode : Nat := 0
  output : String := ""
  errors : String := ""
  /-- The failure that ended the run, if it was not one to be told in a line. -/
  failure : Option Failure := none
  deriving DecidableEq, Repr

/-- The exit status of a run that failed. -/
def failureStatus : Nat := 1

/-- The exit status of a wrong use. -/
def usageStatus : Nat := 2

/-- The line about an error. No line end follows where a detail could. -/
def errorLine (message : String) (isOpen : Bool) : String :=
  "Error: " ++ message ++ (if isOpen then "" else "\n")

namespace Outcome

/-- The outcome of a run that failed. Faults of documents and settings are told in a line. -/
def ofFailure : Failure → Outcome
  | .document path fault =>
    { exitCode := failureStatus, errors := errorLine (fault.message path) fault.isOpen }
  | .settings path fault =>
    { exitCode := failureStatus, errors := errorLine (fault.message path) fault.isOpen }
  | failure => { exitCode := failureStatus, failure := some failure }

/-- The outcome of a wrong use. -/
def ofUsage (command : Command) (fault : UsageFault) : Outcome :=
  { exitCode := usageStatus, errors := fault.report command }

end Outcome

/-! ### Validation -/

/-- What was printed until all was printed or a failure came. -/
structure Printout where
  output : String := ""
  failure : Option Failure := none
  deriving DecidableEq, Repr

/-- The last line about findings. -/
def summary (findings : List Finding) (manifest : Manifest) : String :=
  toString findings.length ++ " finding(s) in " ++ toString manifest.resources.length ++
    " resource(s)."

/-- The failure to tell a finding on a line. -/
def lineFailure : LineFault → Failure
  | .location fault => .writing fault
  | .message fault => .argument fault

/-- Print the lines of some findings one after the other, and then a last line. -/
def printLines (last : String) : List Finding → Printout
  | [] => { output := last ++ "\n" }
  | finding :: rest =>
    match finding.line with
    | .ok line =>
      let later := printLines last rest
      { later with output := line ++ "\n" ++ later.output }
    | .error fault => { failure := some (lineFailure fault) }

/-- Print the values of some findings as one list, which is written before any of it is printed. -/
def printValues (findings : List Finding) : Printout :=
  let text : Except Failure String := do
    let values ← (findings.mapM Finding.toRaw).mapError .argument
    (Json.written Json.indented (.list values)).mapError .writing
  match text with
  | .ok text => { output := text ++ "\n" }
  | .error failure => { failure := some failure }

/-- Print findings in a format. -/
def printFindings (format : Format) (findings : List Finding) (manifest : Manifest) : Printout :=
  match format with
  | .json => printValues findings
  | .text => printLines (summary findings manifest) findings

/-- The settings that hold for a request. -/
def effectiveSettings (workspace : Workspace) (request : ValidateRequest) :
    Except Failure Settings :=
  (Settings.load workspace request.config).map fun settings =>
    settings.overriddenBy request.severity request.logLevel

/-- Validate a manifest against a contract. -/
def validate (workspace : Workspace) (request : ValidateRequest) : Except Failure Outcome := do
  let settings ← effectiveSettings workspace request
  let _ ← (Log.threshold settings.logLevel).mapError .threshold
  let contract ← Contract.load workspace request.contract
  let manifest ← Manifest.load workspace request.manifest
  let findings ← (contract.validate manifest settings).outcome.mapError .codePoint
  let printout := printFindings request.format findings manifest
  .ok
    { exitCode :=
        if printout.failure.isSome || settings.isFailure findings then failureStatus else 0
      output := printout.output
      failure := printout.failure }

/-! ### Listing -/

/-- The line about one parameter of an operation. -/
def parameterLine (components : Components) (parameter : ContractParameter) : String :=
  match parameter.resolve components with
  | .error ref => "  ? unresolved reference " ++ ref
  | .ok resolved =>
    let type := TypeName.ofSchema resolved.schema
    let arrayMark := if TypeName.isArraySchema resolved.schema then TypeName.arrayMark else ""
    let required := if resolved.required then " (required)" else ""
    let shown (text : Option String) := text.getD Scalar.null.literal
    "  " ++ shown resolved.name ++ " [" ++ shown resolved.location ++ "] " ++ type ++ arrayMark ++
      required

/-- The lines about an operation. -/
def operationLines (components : Components) (operation : Operation) : List String :=
  (Text.upperString operation.method ++ " " ++ operation.path) ::
    operation.parameters.map (parameterLine components)

/-- The lines about a contract. -/
def contractLines (contract : Contract) : List String :=
  Text.strip (contract.title ++ " " ++ contract.version) ::
    contract.operations.flatMap (operationLines contract.components)

/-- List the operations of a contract. -/
def listParameters (workspace : Workspace) (path : String) : Except Failure Outcome := do
  let contract ← Contract.load workspace path
  .ok { output := lines (contractLines contract) }

/-! ### The program -/

/-- The outcome of a run, or of its failure. -/
def settled : Except Failure Outcome → Outcome
  | .ok outcome => outcome
  | .error failure => .ofFailure failure

/-- The outcome of a command, or of its wrong use. -/
def used (command : Command) : Except UsageFault Outcome → Outcome
  | .ok outcome => outcome
  | .error fault => .ofUsage command fault

/-- Run a command with its arguments. -/
def runCommand (workspace : Workspace) (command : Command) (arguments : List String) : Outcome :=
  used command do
    let arguments ← Arguments.parse command.options true arguments
    if arguments.asksHelp then .ok { output := command.help }
    else match command with
      | .params => do
        let path ← paramsContract workspace arguments
        .ok (settled (listParameters workspace path))
      | _ => do
        let request ← ValidateRequest.ofArguments workspace arguments
        .ok (settled (validate workspace request))

/-- The outcome of a call without arguments. -/
def bareCall : Outcome :=
  { exitCode := usageStatus, errors := Command.program.help }

/-- Whether a name looks like an option or a path rather than like the name of a command. -/
def startsWithSymbol (name : String) : Bool :=
  match name.toList with
  | c :: _ => c.toNat < 0x80 && !c.isAlphanum
  | [] => false

/-- The outcome for a command that does not exist. Behind a name that looks like an option the
options of the program are looked at first. -/
def unknownCommand (name : String) (rest : List String) : Outcome :=
  if startsWithSymbol name && rest.isEmpty then bareCall
  else used .program do
    if startsWithSymbol name then
      let arguments ← Arguments.parse Command.program.options false rest
      if arguments.asksHelp then return { output := Command.program.help }
    .error (.noSuchCommand name)

/-- Run the program. -/
def run (workspace : Workspace) (arguments : List String) : Outcome :=
  if arguments.isEmpty then bareCall
  else used .program do
    let parsed ← Arguments.parse Command.program.options false arguments
    if parsed.asksHelp then .ok { output := Command.program.help }
    else match parsed.positional with
      | [] => .error .noCommand
      | name :: rest =>
        match Command.byName.lookup name with
        | some command => .ok (runCommand workspace command rest)
        | none => .ok (unknownCommand name rest)

end CommandLine

end ParameterDrift
