import OpcachePreload.CommandLine.Run

/-!
# The program

The words of a command line are run in a snapshot of the files below the working directory and below
the directories that the words name. Afterwards what was printed and noted is shown, and files that
are new or different are written. The PHP binary is started by whoever runs the program, and what it
printed is handed over in a file; without one the binary counts as missing.
-/

namespace OpcachePreload.Program

/-- The location of a path that starts at the root. -/
def locationOf (path : String) : Location :=
  (Path.ofString path).names

/-- The path of a location. -/
def pathOf (location : Location) : String :=
  toString (Path.mk .slash location)

/-- How many directories within each other are looked into. -/
def depthLimit : Nat := 16

/-- Add what is at a location and below it, as far as it can be read. -/
def snapshot : (depth : Nat) → FileTree → Location → IO FileTree
  | 0, tree, _ => return tree
  | depth + 1, tree, location => do
    let path := (← IO.currentDir) / pathOf location
    if ← path.isDir then
      let entries ← tryCatch path.readDir fun _ => pure #[]
      entries.toList.foldlM (fun tree entry => snapshot depth tree (location ++ [entry.fileName]))
        (tree.put location .directory)
    else
      tryCatch (do return tree.put location (.file (← IO.FS.readBinFile path).toList))
        fun _ => pure tree

/-- Add the directories above a location. -/
def withParents (tree : FileTree) (location : Location) : FileTree :=
  (List.range location.length).foldl
    (fun tree count => if count = 0 then tree else tree.put (location.take count) .directory) tree

/-- Add what is at and below a location, with the directories above it, unless it is there. -/
def withLocation (tree : FileTree) (location : Location) : IO FileTree := do
  if (tree.get? location).isSome then return tree
  else snapshot depthLimit (withParents tree location) location

/-- The environment variables of the program. -/
def environment : IO Environment := do
  let bytes ← tryCatch (IO.FS.readBinFile "/proc/self/environ") fun _ => pure .empty
  let settings := Text.split (Char.ofNat 0) (Text.Utf8.decodeLossy bytes.toList)
  return .ofList (settings.filterMap fun setting =>
    match Text.split '=' setting with
    | name :: value@(_ :: _) => some (String.ofList name, String.ofList (Text.joinWith '=' value))
    | _ => none)

/-- The variable for the file that holds what the PHP binary printed. -/
def replyVariable : String := "PHP_REPLY"

/-- The variable for the exit status of the PHP binary. -/
def statusVariable : String := "PHP_STATUS"

/-- What came of the PHP binary. -/
def processOutcome (env : Environment) : IO ProcessOutcome := do
  match env.get? replyVariable with
  | none => return .notFound
  | some path =>
    let reply ← IO.FS.readBinFile path
    let status := ((env.get? statusVariable).bind String.toInt?).getD 0
    return .finished (String.ofList (Text.Utf8.decodeLossy reply.toList)) status

/-- Write what is new or different in a tree. -/
def writeChanges (before after : FileTree) : IO Unit :=
  after.nodes.forM fun (location, node) => do
    if before.get? location != some node then
      match node with
      | .directory => IO.FS.createDirAll (pathOf location)
      | .file bytes => IO.FS.writeBinFile (pathOf location) ⟨bytes.toArray⟩

/-- Show a record of the log. -/
def showRecord (record : Record) : IO Unit := do
  IO.eprintln (record.level.name ++ " - " ++ record.message)
  if let some failure := record.failure then IO.eprintln failure.message

/-- The files that a command line may need. -/
def filesFor (directory : Location) (env : Environment) (words : List String) : IO FileTree := do
  let named := words.map fun word =>
    (Path.mk .slash directory / (env.path word).parent).names
  (directory :: named).foldlM withLocation .empty

end OpcachePreload.Program

open OpcachePreload in
/-- Run a command line and leave its exit status. -/
def main (words : List String) : IO UInt32 := do
  let directory := Program.locationOf (toString (← IO.currentDir))
  let env ← Program.environment
  let files ← Program.filesFor directory env words
  let surroundings : Surroundings :=
    ⟨directory, env, ← Program.processOutcome env, true, .ordinary⟩
  let (ending, after) := (CommandLine.run Module.sources words).perform surroundings { files }
  after.printed.forM (IO.print ·)
  after.records.forM Program.showRecord
  Program.writeChanges files after.files
  match ending with
  | .ok (.misused fault) => IO.eprintln (Command.globalUsage ++ fault.diagnostic)
  | .ok (.ended _) => pure ()
  | .error failure => IO.eprintln failure.message
  return (CommandLine.exitStatus ending).toUInt32
