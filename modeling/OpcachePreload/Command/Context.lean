import OpcachePreload.Command.Help
import OpcachePreload.Settings.Load

/-!
# What commands work with

A command is run with the words for it and the path of a configuration. Settings that cannot be
loaded are reported in the log, and the command ends.
-/

namespace OpcachePreload.Command

/-- What a command is run with. -/
structure Context where
  /-- The words for the command. -/
  arguments : List String := []
  configPath : Option String := none
  deriving DecidableEq, Repr

/-- The exit status of a run. -/
abbrev Status := Nat

/-- All went well. -/
def succeeded : Status := 0

/-- Something went wrong. -/
def failed : Status := 1

/-- The path of the configuration: that of the context, or the usual file in the working
directory. -/
def configPath (context : Context) : Action Path := do
  match context.configPath.filter (!·.isEmpty) with
  | some path => return .ofString path
  | none => return (← Action.workingDirectory) / .ofString Settings.fileName

/-- Load the configuration at a path, noting that it cannot be used. -/
def loadSettingsAt (path : Path) : Action (Option Settings) :=
  tryCatch (some <$> Settings.load (some (toString path))) fun failure => do
    if failure.isConfiguration then
      Action.complain ("Invalid configuration " ++ toString path)
      return none
    else Action.fail failure

/-- Load the configuration, noting why if that cannot be done. -/
def loadSettings (context : Context) : Action (Option Settings) := do
  let path ← configPath context
  if ← Action.exists? path then loadSettingsAt path
  else
    Action.complain ("Configuration file not found: " ++ toString path)
    return none

/-- Report a word that a command does not know. -/
def rejectArgument (command : Command) (word : String) : Action Status := do
  Action.complain ("Unknown argument: " ++ word)
  Action.print command.help
  return failed

/-- The wanted settings, unless a command has been reported to lack them. -/
def withSettings (context : Context) (go : Settings → Action Status) : Action Status := do
  match ← loadSettings context with
  | none => return failed
  | some settings => go settings

end OpcachePreload.Command
