import ParameterDrift.Text.Quoted
/-! # Usage of the command line

The commands with their usage lines and help texts, and the ways in which they are used wrongly.
-/

namespace ParameterDrift.CommandLine

/-- The lines of a text, each with its end. -/
def lines (text : List String) : String :=
  String.join (text.map (· ++ "\n"))

/-- What help and usage are about: the program as a whole, or one of its commands. -/
inductive Command
  | program
  | validate
  | params
  deriving DecidableEq, Repr

namespace Command

/-- The name by which the program is called. -/
def programName : String := "main"

/-- The command line up to the options. -/
def path : Command → String
  | .program => programName
  | .validate => programName ++ " validate"
  | .params => programName ++ " params"

/-- The usage line of a command. -/
def usage : Command → String
  | .program => "Usage: " ++ Command.program.path ++ " [OPTIONS] COMMAND [ARGS]..."
  | .validate => "Usage: " ++ Command.validate.path ++ " [OPTIONS] CONTRACT_PATH MANIFEST_PATH"
  | .params => "Usage: " ++ Command.params.path ++ " [OPTIONS] CONTRACT_PATH"

/-- The help text of a command after its usage line. -/
def details : Command → List String
  | .program =>
    ["",
      "  param-check: reconcile contract parameters with resource function signatures.",
      "",
      "Options:",
      "  --help  Show this message and exit.",
      "",
      "Commands:",
      "  params    List every operation of CONTRACT_PATH with its resolved...",
      "  validate  Validate the parameters of MANIFEST_PATH's resources against..."]
  | .validate =>
    ["",
      "  Validate the parameters of MANIFEST_PATH's resources against CONTRACT_PATH.",
      "",
      "Options:",
      "  --severity [error|warning]  Severity of reported findings.",
      "  --format [text|json]        Output format.",
      "  --config PATH               Config file path.",
      "  --log-level TEXT            Logging level (DEBUG, INFO, WARNING, ...).",
      "  --help                      Show this message and exit."]
  | .params =>
    ["",
      "  List every operation of CONTRACT_PATH with its resolved parameters.",
      "",
      "Options:",
      "  --help  Show this message and exit."]

/-- The help text of a command. -/
def help (command : Command) : String :=
  lines (command.usage :: command.details)

/-- The commands by name. -/
def byName : List (String × Command) :=
  [("validate", .validate), ("params", .params)]

end Command

/-- A wrong use of a command. -/
inductive UsageFault
  | noSuchOption (name : String)
  | valueRequired (option : String)
  | noValueTaken (option : String)
  | noCommand
  | noSuchCommand (name : String)
  | argumentRequired (name : String)
  | noSuchChoice (option value : String) (choices : List String)
  | noSuchPath (parameter path : String)
  | extraArguments (values : List String)
  deriving DecidableEq, Repr

namespace UsageFault

/-- What is wrong with the value of a parameter. -/
def ofValue (parameter reason : String) : String :=
  "Invalid value for '" ++ parameter ++ "': " ++ reason

/-- The message about a wrong use. -/
def message : UsageFault → String
  | .noSuchOption name => "No such option " ++ Text.quotedString name ++ "."
  | .valueRequired option => "Option " ++ Text.quotedString option ++ " requires an argument."
  | .noValueTaken option => "Option " ++ Text.quotedString option ++ " does not take a value."
  | .noCommand => "Missing command."
  | .noSuchCommand name => "No such command " ++ Text.quotedString name ++ "."
  | .argumentRequired name => "Missing argument '" ++ name ++ "'."
  | .noSuchChoice option value choices =>
    ofValue option (Text.quotedString value ++ " is not one of " ++
      ", ".intercalate (choices.map Text.quotedString) ++ ".")
  | .noSuchPath parameter path =>
    ofValue parameter ("Path " ++ Text.quotedString path ++ " does not exist.")
  | .extraArguments values =>
    (if values.length = 1 then "Got unexpected extra argument ("
      else "Got unexpected extra arguments (") ++ " ".intercalate values ++ ")"

/-- Whether the message about a wrong use comes without the usage of the command. -/
def isBrief : UsageFault → Bool
  | .valueRequired _ => true
  | .noValueTaken _ => true
  | _ => false

/-- What is printed about a wrong use of a command. -/
def report (command : Command) (fault : UsageFault) : String :=
  let usage := [command.usage, "Try '" ++ command.path ++ " --help' for help.", ""]
  lines ((if fault.isBrief then [] else usage) ++ ["Error: " ++ fault.message])

end UsageFault

end ParameterDrift.CommandLine
