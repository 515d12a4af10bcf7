import OpcachePreload.Command.Context
import OpcachePreload.Project

/-!
# Checking from the command line

The environment of the host that the configuration names, or the usual one, is checked.
-/

namespace OpcachePreload.Command.Check

/-- Read the words for the command, up to the first that it does not know: the name of the kind of
host that is asked for. -/
def readRuntime (soFar : Option String) : List String → Except String (Option String)
  | [] => .ok soFar
  | word :: rest =>
    if word = "--runtime" then
      match rest with
      | name :: rest => readRuntime (some name) rest
      | [] => .error word
    else .error word

/-- The loader settings of the configuration, the usual ones if there is no configuration, or
nothing if it cannot be used. -/
def loaderSettings (context : Context) : Action (Option Settings.Loader) := do
  let path ← configPath context
  if ← Action.exists? path then
    return (← loadSettings context).map (·.loader)
  else
    Action.info "No configuration file, using loader defaults"
    return some {}

/-- Check the host that loader settings name. -/
def checkHost (interpreter : Module.Interpreter) (loader : Settings.Loader) : Action Unit :=
  fun surroundings => ExceptT.mk fun session =>
  match loader.runtime with
  | .script =>
    let ((result, _), session) :=
      (Script.host loader.probe).check.perform surroundings loader.emptyScript session
    (result, session)
  | .modules =>
    let ((result, _), session) := interpreter.host.check.perform surroundings {} session
    (result, session)

/-- Check with loader settings: what the environment lacks is printed. -/
def run (interpreter : Module.Interpreter) (loader : Settings.Loader) : Action Status :=
  tryCatch (do
    checkHost interpreter loader
    Action.print "Environment OK"
    return succeeded) fun failure => do
    match failure with
    | .environment fault =>
      Action.print fault.message
      return failed
    | failure => Action.fail failure

/-- The command. -/
def execute (interpreter : Module.Interpreter) (context : Context) : Action Status := do
  match readRuntime none context.arguments with
  | .error word => rejectArgument .check word
  | .ok name =>
    match ← loaderSettings context with
    | none => return failed
    | some loader =>
      match name with
      | none => run interpreter loader
      | some name =>
        match Settings.HostKind.ofName? name with
        | some runtime => run interpreter { loader with runtime }
        | none =>
          Action.complain ("Unknown runtime: " ++ name)
          return failed

end OpcachePreload.Command.Check
