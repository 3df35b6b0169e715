import ParameterDrift.CommandLine.Usage
import ParameterDrift.Finding
import ParameterDrift.Workspace
/-! # Arguments of commands

Options start with two dashes and have their value behind an equals sign or in the next argument.
The rest is positional, and so is everything after a lone pair of dashes. Of an option that is given
several times the last value counts. Values are checked option by option in the order in which the
options first came, then the positional arguments.
-/

namespace ParameterDrift.CommandLine

/-- The options of a command with their values, and its positional arguments. -/
structure Arguments where
  options : List (String × Option String) := []
  positional : List String := []
  deriving DecidableEq, Repr

/-- The options that a command takes, and whether each has a value. -/
abbrev OptionTable := List (String × Bool)

/-- The option that asks for help. -/
def helpOption : String := "--help"

/-- The options of a command. -/
def Command.options : Command → OptionTable
  | .program => [(helpOption, false)]
  | .validate =>
    [("--severity", true), ("--format", true), ("--config", true), ("--log-level", true),
      (helpOption, false)]
  | .params => [(helpOption, false)]

namespace Arguments

/-- The name of an option and the value behind its equals sign, if there is one. -/
def splitValue (argument : String) : String × Option String :=
  match argument.toList.dropWhile (· ≠ '=') with
  | [] => (argument, none)
  | _ :: value =>
    (String.ofList (argument.toList.takeWhile (· ≠ '=')), some (String.ofList value))

/-- The name by which an unknown option is told: of several letters behind a single dash the first
is blamed. -/
def unknownName (argument : String) : String :=
  match argument.toList with
  | '-' :: '-' :: _ => (splitValue argument).1
  | '-' :: c :: _ => String.ofList ['-', c]
  | _ => argument

/-- Whether an argument is an option. -/
def isOption (argument : String) : Bool :=
  match argument.toList with
  | '-' :: _ :: _ => true
  | _ => false

/-- Arguments with one more option in front. -/
def withOption (name : String) (value : Option String) (arguments : Arguments) : Arguments :=
  { arguments with options := (name, value) :: arguments.options }

/-- Arguments with one more positional argument in front. -/
def withPositional (value : String) (arguments : Arguments) : Arguments :=
  { arguments with positional := value :: arguments.positional }

/-- Tell options from positional arguments. Unless they are `mixed`, the first positional argument
ends the options. -/
def parse (table : OptionTable) (mixed : Bool) : List String → Except UsageFault Arguments
  | [] => .ok {}
  | argument :: rest =>
    if argument = "--" then .ok { positional := rest }
    else if isOption argument then
      let (name, value) := splitValue argument
      match table.lookup name, value with
      | none, _ => .error (.noSuchOption (unknownName argument))
      | some false, some _ => .error (.noValueTaken name)
      | some false, none => (parse table mixed rest).map (withOption name none)
      | some true, some value => (parse table mixed rest).map (withOption name (some value))
      | some true, none =>
        match rest with
        | [] => .error (.valueRequired name)
        | value :: later => (parse table mixed later).map (withOption name (some value))
    else if mixed then (parse table mixed rest).map (withPositional argument)
    else .ok { positional := argument :: rest }

/-- Whether help is asked for. -/
def asksHelp (arguments : Arguments) : Bool :=
  (arguments.options.lookup helpOption).isSome

/-- The value of an option: the last that is given. -/
def value? (name : String) (arguments : Arguments) : Option String :=
  (arguments.options.reverse.lookup name).bind id

/-- The options that are given, each once, in the order in which they first came. -/
def given (arguments : Arguments) : List String :=
  arguments.options.foldl (fun names (name, _) =>
    if names.contains name then names else names ++ [name]) []

end Arguments

/-! ### The command that validates -/

/-- The forms of output. -/
inductive Format
  | text
  | json
  deriving DecidableEq, Repr

/-- The forms of output by name. -/
def Format.byName : List (String × Format) :=
  [("text", .text), ("json", .json)]

/-- What the command that validates is asked for. -/
structure ValidateRequest where
  contract : String
  manifest : String
  severity : Option Severity := none
  format : Format := .text
  config : Option String := none
  logLevel : Option String := none
  deriving DecidableEq, Repr

/-- The choice that a value names. -/
def choose {α : Type} (option : String) (choices : List (String × α)) (value : String) :
    Except UsageFault α :=
  match choices.lookup value with
  | some choice => .ok choice
  | none => .error (.noSuchChoice option value (choices.map Prod.fst))

/-- A path at which something must lie. -/
def existing (workspace : Workspace) (parameter path : String) : Except UsageFault String :=
  if workspace.holds path then .ok path else .error (.noSuchPath parameter path)

/-- The positional argument at a place, at which something must lie. -/
def existingArgument (workspace : Workspace) (arguments : Arguments) (place : Nat) (name : String) :
    Except UsageFault String :=
  match arguments.positional[place]? with
  | some path => existing workspace name path
  | none => .error (.argumentRequired name)

/-- Refuse positional arguments beyond the first `count`. -/
def refuseExtra (arguments : Arguments) (count : Nat) : Except UsageFault Unit :=
  let extra := arguments.positional.drop count
  if extra.isEmpty then .ok () else .error (.extraArguments extra)

namespace ValidateRequest

/-- A request with the value of one option. -/
def withOption (workspace : Workspace) (arguments : Arguments) (request : ValidateRequest)
    (name : String) : Except UsageFault ValidateRequest :=
  match arguments.value? name with
  | none => .ok request
  | some value =>
    if name = "--severity" then
      (choose name Severity.byName value).map fun severity =>
        { request with severity := some severity }
    else if name = "--format" then
      (choose name Format.byName value).map fun format => { request with format := format }
    else if name = "--config" then
      (existing workspace name value).map fun path => { request with config := some path }
    else .ok { request with logLevel := some value }

/-- The request that some arguments make. -/
def ofArguments (workspace : Workspace) (arguments : Arguments) :
    Except UsageFault ValidateRequest := do
  let blank : ValidateRequest := { contract := "", manifest := "" }
  let options ← arguments.given.foldlM (withOption workspace arguments) blank
  let contract ← existingArgument workspace arguments 0 "CONTRACT_PATH"
  let manifest ← existingArgument workspace arguments 1 "MANIFEST_PATH"
  refuseExtra arguments 2
  .ok { options with contract := contract, manifest := manifest }

end ValidateRequest

/-- The contract that the command that lists parameters is asked about. -/
def paramsContract (workspace : Workspace) (arguments : Arguments) : Except UsageFault String := do
  let contract ← existingArgument workspace arguments 0 "CONTRACT_PATH"
  refuseExtra arguments 1
  .ok contract

end ParameterDrift.CommandLine
