import OpcachePreload.Command.Build
import OpcachePreload.Command.Check
import OpcachePreload.Command.Info
import OpcachePreload.Command.Preload
import OpcachePreload.CommandLine.LogSettings
import OpcachePreload.CommandLine.Options

/-!
# Running command lines

A command line is read, help and the version are printed where they are asked for, and otherwise the
command is executed. A failure that is expected is printed in one line; any other is noted in the
log. Either way the exit status tells that the command failed.
-/

namespace OpcachePreload.CommandLine

open Command (Status succeeded failed)

/-- The name of the program. -/
def programName : String := "preloader"

/-- The version of the program. -/
def programVersion : String := "1.0.0"

/-- The exit status of an interrupted run. -/
def interruptedStatus : Status := 130

/-- The exit status of a command line that cannot be read. -/
def misusedStatus : Status := 2

/-- Print what commands there are instead of one with the given name. -/
def reportUnknown (name : String) : Action Status := do
  Action.print ("Unknown command: " ++ name)
  Action.print ("Available commands: " ++
    String.intercalate ", " (Command.all.map (·.name)))
  Action.print ("Use '" ++ programName ++ " --help' for more information.")
  return failed

/-- Print the help of a command. -/
def explain (name : String) : Action Status := do
  match Command.ofName? name with
  | some command =>
    Action.print command.help
    return succeeded
  | none => reportUnknown name

/-- Print the help of the program. It does not matter whether the output takes it. -/
def explainProgram : Action Unit :=
  tryCatch (Action.printText Command.globalHelp) fun _ => return ()

section

variable (interpreter : Module.Interpreter)

/-- Execute a command; modules are executed and compiled by an interpreter. -/
def execute : Command → Command.Context → Action Status
  | .build => Command.Build.execute
  | .check => Command.Check.execute interpreter
  | .info => Command.Info.execute
  | .preload => Command.Preload.execute interpreter

/-- Execute the command with a name; an expected failure is printed. -/
def dispatch (name : String) (context : Command.Context) : Action Status := do
  match Command.ofName? name with
  | some command =>
    tryCatch (execute interpreter command context) fun failure => do
      if failure.isExpected then
        Action.print failure.message
        return failed
      else Action.fail failure
  | none =>
    Action.complain ("Unknown command: " ++ name)
    reportUnknown name

/-- Do something for a command so that failures end in an exit status, unless the process is asked
to end anyway. -/
def guarded (name : String) (action : Action Status) : Action Status :=
  tryCatch action fun failure => do
    match failure with
    | .interrupted =>
      Action.print "\nInterrupted"
      return interruptedStatus
    | .foreign (.exit status) => Action.fail (.foreign (.exit status))
    | failure =>
      Action.note ⟨.error, "Error executing " ++ name, some failure⟩
      return failed

/-- Run what options say. -/
def runOptions (options : Options) : Action Status := do
  if options.version then
    Action.print (programName ++ " version " ++ programVersion)
    return succeeded
  match options.command with
  | none =>
    explainProgram
    return if options.help then succeeded else failed
  | some name =>
    if options.help || options.arguments.contains "-h" || options.arguments.contains "--help" then
      explain name
    else
      let expand (path : Path) : Action Path := Action.expanded (toString path)
      settleLog options.verbose (← options.loggingConfig.mapM expand)
      let configPath ← options.configPath.mapM expand
      let context : Command.Context := ⟨options.arguments, configPath.map toString⟩
      guarded name (dispatch interpreter name context)

/-- What comes of a command line: its exit status, or what is wrong with it. -/
inductive Ending where
  | ended (status : Status)
  | misused (fault : UsageFault)
  deriving DecidableEq, Repr

/-- The diagnostic for a command line that cannot be read. -/
def UsageFault.diagnostic (fault : UsageFault) : String :=
  programName ++ ": error: " ++ fault.message

/-- The exit status of an ending. -/
def Ending.exitStatus : Ending → Status
  | ended status => status
  | misused _ => misusedStatus

/-- The exit status of a run, which may also end in a failure. -/
def exitStatus : Except Failure Ending → Status
  | .ok ending => ending.exitStatus
  | .error (.foreign (.exit status)) => status
  | .error _ => failed

/-- Run a command line. -/
def run (words : List String) : Action Ending := do
  match Options.read words with
  | .error fault => return .misused fault
  | .ok options => return .ended (← runOptions interpreter options)

end

end OpcachePreload.CommandLine
