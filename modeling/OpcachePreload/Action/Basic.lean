import OpcachePreload.System
import OpcachePreload.Text.Line

/-!
# Actions

What the program does to its surroundings: reading and writing files, starting a process, noting
records in a log and printing lines. An action takes the surroundings that it cannot change and a
session that it can, and gives a result or a failure together with the session after it. What was
done before a failure stays done. The output may refuse a text, and the device that holds the files
may store some of the bytes for a file only.
-/

namespace OpcachePreload

/-- A record of the log, with the failure that it reports if there is one. -/
structure Record where
  level : Level
  message : String
  failure : Option Failure
  deriving Repr

/-- What comes of starting a process. -/
inductive ProcessOutcome where
  | finished (output : String) (status : Int)
  | notFound
  | timedOut
  | notPermitted
  | interrupted
  deriving DecidableEq, Repr

/-- What an action finds and cannot change. -/
structure Surroundings where
  /-- The working directory. -/
  directory : Location
  environment : Environment
  /-- What comes of every process that is started. -/
  process : ProcessOutcome
  /-- Whether compiled modules are kept. -/
  keepsBytecode : Bool
  system : System

/-- A file that was executed as a module, and whether to its end. -/
structure Execution where
  file : Path
  completed : Bool
  deriving DecidableEq, Repr

/-- What a device does with bytes for a file. -/
inductive Storing where
  /-- All of them are stored. -/
  | whole
  /-- The file cannot be written, and stays as it is. -/
  | refused
  /-- The file is emptied, and then only the first of them are stored. -/
  | cut (count : Nat)
  deriving DecidableEq, Repr

/-- The bytes that are stored in a file once it is emptied. -/
def Storing.kept : Storing → List UInt8 → List UInt8
  | whole, bytes => bytes
  | refused, _ => []
  | cut count, bytes => bytes.take count

/-- What actions change, and where changes go. -/
structure Session where
  files : FileTree
  /-- What the device does with bytes for a file, whose absolute path is given. -/
  stores : Path → List UInt8 → Storing := fun _ _ => .whole
  /-- The least level of the records that are noted. -/
  threshold : Level := .warning
  /-- Whether records go where a file of log settings says. -/
  redirected : Bool := false
  records : List Record := []
  /-- The processes that were started, with their arguments. -/
  started : List (List String) := []
  /-- The texts that were printed. -/
  printed : List String := []
  /-- Whether the output takes a text after those that were printed. -/
  takes : (printed : List String) → (text : String) → Bool := fun _ _ => true
  /-- The modules of this process, by name, with the file that each was made from. -/
  modules : OrderedMap String Path := .empty
  /-- The files that were executed as modules. -/
  executions : List Execution := []

/-- Something done in a session. -/
abbrev Action (α : Type) := ReaderT Surroundings (ExceptT Failure (StateM Session)) α

namespace Action

/-- Do an action: what comes of it, and the session after it. -/
def perform {α : Type} (action : Action α) (surroundings : Surroundings) (session : Session) :
    Except Failure α × Session :=
  ((action.run surroundings).run).run session

/-- End early. -/
def fail {α : Type} (failure : Failure) : Action α := throw failure

/-- What a check gives, its fault being a failure. -/
def ofExcept {ε α : Type} (failure : ε → Failure) : Except ε α → Action α
  | .ok a => pure a
  | .error e => fail (failure e)

/-! ## Log and output -/

/-- Note a record if it is important enough. -/
def note (record : Record) : Action Unit :=
  modify fun session =>
    if session.threshold.rank ≤ record.level.rank then
      { session with records := session.records ++ [record] }
    else session

/-- Note what was done. -/
def info (message : String) : Action Unit := note ⟨.info, message, none⟩

/-- Note what may be amiss. -/
def warn (message : String) : Action Unit := note ⟨.warning, message, none⟩

/-- Note what is wrong. -/
def complain (message : String) : Action Unit := note ⟨.error, message, none⟩

/-- Print a text as it is. -/
def printText (text : String) : Action Unit := do
  let session ← get
  if session.takes session.printed text then
    set { session with printed := session.printed ++ [text] }
  else fail (.notPrinted text)

/-- Print a line. -/
def print (line : String) : Action Unit := printText (line ++ "\n")

/-! ## Paths and files -/

/-- The path that a text means in the environment. -/
def expanded (text : String) : Action Path := do
  return (← read).environment.path text

/-- The working directory as a path. -/
def workingDirectory : Action Path := do
  return ⟨.slash, (← read).directory⟩

/-- The path taken from the working directory. -/
def absolute (path : Path) : Action Path := do
  return (← workingDirectory) / path

/-- Ask the tree of files something about a path. -/
def ask {α : Type} (text : String) (question : FileTree → Location → Except PathFault α) :
    Action α := do
  ofExcept (.unusablePath · text) (question (← get).files (← read).directory)

/-- What is at a path, nothing if it leads nowhere. -/
def find (path : Path) : Action (Option Node) :=
  ask (toString path) fun tree directory => tree.probe directory path

/-- Whether a path leads to something. -/
def exists? (path : Path) : Action Bool := do
  return (← find path).isSome

/-- Whether a path leads to a directory. -/
def isDirectory (path : Path) : Action Bool := do
  return (← find path) == some .directory

/-- Whether a path leads to a file. -/
def isFile (path : Path) : Action Bool := do
  match ← find path with
  | some (.file _) => return true
  | _ => return false

/-- The bytes of a file. -/
def readBytes (path : Path) : Action (List UInt8) :=
  ask (toString path) fun tree directory => tree.read directory path

/-- The text of bytes as it is read from a file: line ends are unified. -/
def textOfBytes (bytes : List UInt8) : Except Text.Utf8.Malformed String :=
  (Text.Utf8.decode bytes).map fun text => String.ofList (Text.unifyNewlines text)

/-- The text of a file that has to be UTF-8. -/
def readText (path : Path) : Action String := do
  ofExcept (.content <| .undecodable ·) (textOfBytes (← readBytes path))

/-- Replace or create a file, as far as the device goes along. -/
def writeText (path : Path) (text : String) : Action Unit := do
  let bytes := Text.Utf8.encode text.toList
  let storing := (← get).stores (← absolute path) bytes
  let files ← ask (toString path) fun tree directory =>
    tree.write directory path (storing.kept bytes)
  match storing with
  | .whole => modify fun session => { session with files }
  | .refused => fail (.notStored path)
  | .cut _ =>
    modify fun session => { session with files }
    fail (.notStored path)

/-- Make sure that a directory is there, making those above it as needed. -/
def ensureDirectory (path : Path) : Action Unit := do
  let (files, fault?) := (← get).files.ensureDirectory (← read).directory path
  modify fun session => { session with files }
  if let some fault := fault? then fail (.unusablePath fault.fault (toString fault.path))

/-- Write a file, making the directories above it as needed. -/
def writeInto (path : Path) (text : String) : Action Unit := do
  ensureDirectory path.parent
  writeText path text

end Action

end OpcachePreload
