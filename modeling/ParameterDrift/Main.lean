import ParameterDrift.CommandLine
/-! # The program

Reads what the arguments may name into a workspace, runs the command line on it, and prints what it
leaves behind.
-/

namespace ParameterDrift.CommandLine

/-- Whether something lies at a path. -/
def isPresent (path : String) : IO Bool := do
  try
    discard (IO.FS.realPath path)
    return true
  catch _ => return false

/-- The content of what lies at a path. What cannot be read as a file counts as a directory. -/
def contentAt (path : String) : IO Content := do
  try
    return .file (← IO.FS.readBinFile path)
  catch _ => return .directory

/-- The paths that arguments may name: each argument, and what stands behind an equals sign. -/
def namedPaths (arguments : List String) : List String :=
  Settings.defaultFile :: arguments ++
    arguments.filterMap fun argument => (Arguments.splitValue argument).2

/-- The workspace of some paths. -/
def workspaceOf (paths : List String) : IO Workspace := do
  let contents ← paths.filterMapM fun path => do
    let shown := Path.shown path
    if ← isPresent shown then return some (shown, ← contentAt shown) else return none
  return { root := toString (← IO.currentDir), contents := contents }

/-- Run the program on its arguments, and print what it leaves behind. -/
def runProgram (arguments : List String) : IO UInt32 := do
  let outcome := run (← workspaceOf (namedPaths arguments)) arguments
  IO.print outcome.output
  IO.eprint outcome.errors
  if outcome.failure.isSome then IO.eprintln "The run ended with an unexpected failure."
  return outcome.exitCode.toUInt32

end ParameterDrift.CommandLine

/-- Run the program on its arguments. -/
def main (arguments : List String) : IO UInt32 :=
  ParameterDrift.CommandLine.runProgram arguments
