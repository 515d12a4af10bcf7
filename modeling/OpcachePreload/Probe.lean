import OpcachePreload.Action.Basic
import OpcachePreload.Json.Reader
import OpcachePreload.Script

/-!
# Probing PHP

A PHP binary is asked for its settings by a one-line program that prints them as a JSON object. What
the object does not hold, or holds as something that counts as nothing, is not enabled.
-/

namespace OpcachePreload

/-- A PHP binary to ask, and the server interface that the script is for; without one, that of the
binary. -/
structure Probe where
  binary : String := "php"
  interface : Option String := none
  deriving DecidableEq, Repr

namespace Probe

/-- The server interface of the command line. -/
def commandLineInterface : String := "cli"

/-- The program that prints the settings. -/
def program : String :=
  "echo json_encode([" ++
  "'enable' => (bool) ini_get('opcache.enable')," ++
  "'enable_cli' => (bool) ini_get('opcache.enable_cli')," ++
  "'compile_file' => function_exists('opcache_compile_file')," ++
  "'sapi' => PHP_SAPI," ++
  "]);"

/-- How the binary is started. -/
def command (probe : Probe) : List String := [probe.binary, "-r", program]

/-- The output of the binary. -/
def output (probe : Probe) : ProcessOutcome → Except Failure String
  | .finished output status =>
    if status = 0 then .ok output else .error (.environment (.binaryFailed probe.binary status))
  | .notFound => .error (.environment (.binaryNotFound probe.binary))
  | .timedOut => .error (.environment (.binaryTimedOut probe.binary))
  | .notPermitted => .error (.notPermitted probe.binary)
  | .interrupted => .error .interrupted

/-- The settings that an output holds. -/
def settings (probe : Probe) (output : String) : Except Failure (List (Value × Value)) :=
  match Json.read output with
  | .ok (.mapping entries) => .ok entries
  | .ok value => .error (.replyKind value.kindName)
  | .error (.tooManyDigits digits) => .error (.content (.json (.tooManyDigits digits)))
  | .error (.malformed _ _ _ _) =>
    .error (.environment (.unexpectedReply probe.binary output))

/-- Whether the script is for the command line. -/
def isCommandLine (probe : Probe) (entries : List (Value × Value)) : Bool :=
  match probe.interface.filter (!·.isEmpty) with
  | some interface => interface = commandLineInterface
  | none =>
    match Value.field? entries "sapi" with
    | some (.text interface) => interface = commandLineInterface
    | some _ => false
    | none => true

/-- The capabilities that settings mean. -/
def ofSettings (probe : Probe) (entries : List (Value × Value)) : Capabilities :=
  let enabled (name : String) : Bool := (Value.field? entries name).any Value.isSomething
  { cacheName := Script.cacheName
    compilePrimitive := Script.compilePrimitive
    cacheEnabled := enabled "enable"
    compileAvailable := enabled "compile_file"
    commandLine := probe.isCommandLine entries
    commandLineCacheEnabled := enabled "enable_cli" }

/-- The capabilities that come of starting the binary. -/
def capabilitiesOf (probe : Probe) (outcome : ProcessOutcome) : Except Failure Capabilities := do
  return probe.ofSettings (← probe.settings (← probe.output outcome))

/-- Start the binary and read its reply. -/
def ask (probe : Probe) : Action Capabilities := do
  modify fun session => { session with started := session.started ++ [probe.command] }
  Action.ofExcept id (probe.capabilitiesOf (← read).process)

end Probe

end OpcachePreload
