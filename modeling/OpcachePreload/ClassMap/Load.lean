import OpcachePreload.ClassMap.Autoload
import OpcachePreload.DataFile

/-!
# Loading class maps

A class map is given as a file, an autoload array or a data file, or as a directory in which the
dependency manager has put its autoload array.
-/

namespace OpcachePreload.ClassMap

/-- Where a class map is looked for below a directory, in order. -/
def candidates (directory : Path) : List Path :=
  let file : Path := ⟨.relative, [directoryName, fileName]⟩
  [directory / file, directory / ⟨.relative, [dependencyDirectoryName]⟩ / file]

/-- The first of some paths that leads to a file. -/
def firstFile : List Path → Action (Option Path)
  | [] => return none
  | path :: rest => do
    if ← Action.isFile path then return some path else firstFile rest

/-- The class map file for a path: the path itself unless it is a directory. -/
def locate (path : Path) : Action Path := do
  if ← Action.isDirectory path then
    match ← firstFile (candidates path) with
    | some file => return file
    | none => Action.fail (.classMap path .nothingBelow)
  else return path

/-- Whether a failure to read a data file makes it a bad class map. -/
def problemOf (path : Path) : Failure → Failure
  | .content fault =>
    if Failure.isContent fault then .classMap path (.unreadable fault) else .content fault
  | failure => failure

/-- The failure for a problem with a data file. A problem whose wording cannot be made up is not
reported. -/
def rejection (path : Path) (problem : Problem) : Failure :=
  if problem.isShowable then .classMap path problem else .notShowable

/-- Read a class map from a data file. -/
def loadData (path : Path) : Action CodedClassMap := do
  let value ← tryCatch (DataFile.load path) fun failure => Action.fail (problemOf path failure)
  Action.ofExcept (rejection path) (ofValue value)

/-- Read a class map from a file. -/
def loadFile (path : Path) : Action CodedClassMap := do
  if DataFile.isDataFile path then loadData path
  else if path.suffix = ".php" then
    let text ← Action.readText path
    coded <$> Action.ofExcept (.classMap path) (Autoload.read (← Action.absolute path) text)
  else Action.fail (.classMap path .unsupportedKind)

/-- Load the class map for a path. -/
def load (path : Path) : Action CodedClassMap := do
  let file ← locate path
  if !(← Action.isFile file) then Action.fail (.classMap file .fileNotFound)
  let map ← loadFile file
  Action.info ("Loaded " ++ toString map.size ++ " class(es) from " ++ toString file)
  return map

end OpcachePreload.ClassMap
