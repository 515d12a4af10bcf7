import OpcachePreload.Action.Basic
import OpcachePreload.Glob.Expansion
import OpcachePreload.OrderedSet
import OpcachePreload.Settings.Basic

/-!
# Paths of a project

Relative paths are taken from the root of the project. A glob stands for the files that match it, in
the order of paths; a path without wildcards stands for itself, whether it leads to something or
not.
-/

namespace OpcachePreload.Settings

/-- The path that a text means below a root. -/
def resolveIn (env : Environment) (root : Path) (text : String) : Path := root / env.path text

/-- The path that a text means in a project. -/
def resolve (settings : Settings) (text : String) : Action Path := do
  return resolveIn (← read).environment settings.root text

/-- The paths that lead to a file. -/
def filesAmong : List Path → Action (List Path)
  | [] => return []
  | path :: rest => do
    if ← Action.isFile path then return path :: (← filesAmong rest) else filesAmong rest

/-- The files that match a glob, in order. -/
def matchesOf (glob : Path) : Action (List Path) := do
  let paths ← Action.ask (toString glob) fun tree directory => Glob.found tree directory glob
  return (← filesAmong paths).mergeSort Path.le

/-- The paths that an entry of the settings stands for. -/
def pathsOf (settings : Settings) (entry : String) : Action (List Path) := do
  let path ← settings.resolve entry
  if Glob.isWildcard entry then
    let paths ← matchesOf path
    if paths.isEmpty then Action.warn ("Pattern matched no files: " ++ entry)
    return paths
  else return [path]

/-- The paths that some entries stand for, one entry after the other. -/
def allPathsOf (settings : Settings) : List String → Action (List Path)
  | [] => return []
  | entry :: rest => do
    let paths ← settings.pathsOf entry
    return paths ++ (← allPathsOf settings rest)

/-- The paths that some entries stand for, each path once. -/
def expand (settings : Settings) (entries : List String) : Action (List Path) := do
  return (OrderedSet.ofList (← settings.allPathsOf entries)).toList

end OpcachePreload.Settings
