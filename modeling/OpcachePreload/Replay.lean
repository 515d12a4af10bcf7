import OpcachePreload.ClassMap.Basic
import OpcachePreload.Host
import OpcachePreload.Manifest.File

/-!
# Replaying manifests

A manifest is replayed by handing a host the files of its classes, its other files and the files
that are to be compiled, in this order. The classes are looked up in the class map first; if one of
them is missing nothing is handed over.
-/

namespace OpcachePreload

/-- What a host is asked to do with a file. -/
inductive Step where
  | load (file : String) (required : Bool)
  | compile (file : String)
  deriving DecidableEq, Repr

/-- Do a step on a host. -/
def Host.take {σ : Type} (host : Host σ) : Step → HostAction σ Unit
  | .load file required => host.load file required
  | .compile file => host.compile file

/-- Check that a host can preload. -/
def Host.check {σ : Type} (host : Host σ) : HostAction σ Unit := do
  let capabilities ← host.capabilities
  match capabilities.lack? with
  | none => return ()
  | some lack =>
    throw (.environment (.lacking capabilities.cacheName capabilities.compilePrimitive lack))

/-- A manifest that is about to be replayed. -/
structure Replay where
  classMap : ClassMap
  path : Path
  manifest : Manifest

namespace Replay

/-- How much was handed over, and how many seconds that took. Actions take no time here. -/
structure Summary where
  seconds : Float := 0
  classes : Nat
  files : Nat
  compiles : Nat
  deriving Repr

/-- The seconds of a summary to four places. -/
def Summary.secondsText (_ : Summary) : String := "0.0000"

/-- What a summary counts. -/
def Summary.countsText (summary : Summary) : String :=
  toString summary.classes ++ " class(es), " ++ toString summary.files ++ " file(s), " ++
    toString summary.compiles ++ " compile(s)"

/-- Take the manifest of a file for replaying. -/
def ofFile (classMap : ClassMap) (path : Path) : Action Replay := do
  return ⟨classMap, path, ← Manifest.load path⟩

/-- The files of classes, or the first class that has none. -/
def filesOf (classMap : ClassMap) : List String → Except String (List String)
  | [] => .ok []
  | name :: rest =>
    match classMap.get? name with
    | none => .error name
    | some file => (filesOf classMap rest).map (file :: ·)

/-- The files of the classes of the manifest. -/
def classFiles (replay : Replay) : Action (List String) := do
  match filesOf replay.classMap replay.manifest.classes with
  | .ok files => return files
  | .error name =>
    Action.complain ("Class " ++ name ++ " from " ++ toString replay.path ++
      " is not in the class map")
    Action.fail (.unknownClass name)

/-- The steps of a replay, given the files of the classes. Compile targets may be left out. -/
def steps (manifest : Manifest) (classFiles : List String) (includeOnly : Bool) : List Step :=
  classFiles.map (.load · true) ++ manifest.files.map (.load · false) ++
    if includeOnly then [] else manifest.compile.map .compile

/-- Do steps on a host one after the other. -/
def takeAll {σ : Type} (host : Host σ) : List Step → HostAction σ Unit
  | [] => return ()
  | step :: rest => do
    host.take step
    takeAll host rest

/-- Replay a manifest on a host. -/
def run {σ : Type} (replay : Replay) (host : Host σ) (includeOnly : Bool) :
    HostAction σ Summary := do
  let files ← HostAction.ofAction replay.classFiles
  takeAll host (steps replay.manifest files includeOnly)
  let summary : Summary := {
    classes := files.length
    files := replay.manifest.files.length
    compiles := if includeOnly then 0 else replay.manifest.compile.length }
  HostAction.ofAction (Action.info
    ("Preloaded " ++ summary.countsText ++ " in " ++ summary.secondsText ++ "s"))
  return summary

end Replay

end OpcachePreload
