import OpcachePreload.Command.Context
import OpcachePreload.Project

/-!
# Replaying from the command line

The manifest is replayed on the host that the configuration or the command line names. With PHP the
result is a script, which is written once the replay is complete.
-/

namespace OpcachePreload.Command.Preload

/-- What a replay is asked for. -/
structure Request where
  output : Option Path := none
  runtime : Option String := none
  includeOnly : Option Bool := none
  checkEnvironment : Option Bool := none
  deriving DecidableEq, Repr

/-- Read the words for the command, up to the first that it does not know. -/
def Request.read (request : Request) : List String → Except String Request
  | [] => .ok request
  | word :: rest =>
    if word = "--include-only" then read { request with includeOnly := some true } rest
    else if word = "--skip-check" then read { request with checkEnvironment := some false } rest
    else if word = "-o" || word = "--output" then
      match rest with
      | path :: rest => read { request with output := some (.ofString path) } rest
      | [] => .error word
    else if word = "--runtime" then
      match rest with
      | name :: rest => read { request with runtime := some name } rest
      | [] => .error word
    else .error word

/-- Replay on a host: the summary, and the state of the host after it. -/
def replayOn {σ : Type} (host : Host σ) (state : σ) (request : Request) (settings : Settings) :
    Action (Replay.Summary × σ) := fun surroundings => ExceptT.mk fun session =>
  let replay := settings.runReplay host none request.includeOnly request.checkEnvironment
  let ((result, state), session) := replay.perform surroundings state session
  (result.map (·, state), session)

/-- Replay into a script and write it. -/
def replayScript (request : Request) (settings : Settings) : Action Replay.Summary := do
  let loader := settings.loader
  let (summary, script) ← replayOn (Script.host loader.probe) loader.emptyScript request settings
  let path ← settings.resolve (toString (request.output.getD loader.script))
  script.write path
  Action.print ("Generated: " ++ toString path)
  return summary

/-- Replay with settings; modules are executed and compiled by an interpreter. -/
def run (interpreter : Module.Interpreter) (request : Request) (settings : Settings) :
    Action Status := do
  let summary ← match settings.loader.runtime with
    | .script => replayScript request settings
    | .modules => Prod.fst <$> replayOn interpreter.host {} request settings
  Action.print ("Preloaded " ++ summary.countsText ++ " in " ++ summary.secondsText ++ "s")
  return succeeded

/-- Settings with the kind of host that is asked for. -/
def withRuntime (runtime : Option Settings.HostKind) (settings : Settings) : Settings :=
  match runtime with
  | none => settings
  | some runtime => { settings with loader := { settings.loader with runtime } }

/-- The kind of host that is asked for, if any, or a name that is none. -/
def runtimeOf : Option String → Except String (Option Settings.HostKind)
  | none => .ok none
  | some name =>
    match Settings.HostKind.ofName? name with
    | some runtime => .ok (some runtime)
    | none => .error name

/-- The command. -/
def execute (interpreter : Module.Interpreter) (context : Context) : Action Status := do
  match Request.read {} context.arguments with
  | .error word => rejectArgument .preload word
  | .ok request =>
    match runtimeOf request.runtime with
    | .error name =>
      Action.complain ("Unknown runtime: " ++ name ++ " (expected one of " ++
        String.intercalate ", " (Settings.HostKind.all.map (·.name)) ++ ")")
      return failed
    | .ok runtime =>
      withSettings context fun settings => run interpreter request (withRuntime runtime settings)

end OpcachePreload.Command.Preload
