import OpcachePreload.Command.Context
import OpcachePreload.Project

/-!
# Building from the command line

The manifest is built from the configuration and written, or only shown.
-/

namespace OpcachePreload.Command.Build

/-- What a build is asked for. -/
structure Request where
  output : Option Path := none
  dryRun : Bool := false
  deriving DecidableEq, Repr

/-- Read the words for the command, up to the first that it does not know. -/
def Request.read (request : Request) : List String → Except String Request
  | [] => .ok request
  | word :: rest =>
    if word = "--dry-run" then read { request with dryRun := true } rest
    else if word = "-o" || word = "--output" then
      match rest with
      | path :: rest => read { request with output := some (.ofString path) } rest
      | [] => .error word
    else .error word

/-- Show a manifest. -/
def preview (manifest : Manifest) : Action Unit := do
  Action.print "\n--- Preview of manifest ---\n"
  Action.print manifest.text
  Action.print "--- End preview (--dry-run, no file written) ---"

/-- Build with settings. -/
def run (request : Request) (settings : Settings) : Action Status := do
  Action.print ("Scanning " ++ toString settings.root ++ "...")
  let manifest := (← settings.build none).manifest
  Action.print ("\nFound " ++ toString manifest.classes.length ++ " class(es), " ++
    toString manifest.files.length ++ " file(s), " ++
    toString manifest.compile.length ++ " compile target(s)")
  if request.dryRun then
    preview manifest
    return succeeded
  else
    let path ← settings.manifestPath request.output
    manifest.write path
    Action.print ("\nGenerated: " ++ toString path)
    return succeeded

/-- The command. -/
def execute (context : Context) : Action Status := do
  match Request.read {} context.arguments with
  | .error word => rejectArgument .build word
  | .ok request => withSettings context (run request)

end OpcachePreload.Command.Build
