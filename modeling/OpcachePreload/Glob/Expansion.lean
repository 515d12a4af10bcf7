import OpcachePreload.FileTree
import OpcachePreload.Glob.Wildcard

/-!
# Paths that match a glob

A glob is a path whose names may be wildcards; a double star stands for any number of directories.
The paths that match it are found from left to right: every name turns each path found so far into
some paths below it.
-/

namespace OpcachePreload.Glob

/-- The name that stands for any number of directories, or for everything below. -/
def anyDepth : String := "**"

variable (tree : FileTree) (directory : Location)

/-- Where a path leads, if there is a directory. -/
def directoryAt? (path : Path) : Option Location :=
  match tree.locate directory path with
  | .ok location => if tree.isDirectoryAt location then some location else none
  | .error _ => none

/-- Whether a path leads to something. -/
def leadsSomewhere (path : Path) : Bool := (tree.lookup directory path).isOk

/-- The names in a directory. Where more names follow only directories matter. -/
def listed (path : Path) (more : Bool) : List String :=
  match directoryAt? tree directory path with
  | none => []
  | some location =>
    (tree.names location).filter fun name => !more || tree.isDirectoryAt (location ++ [name])

/-- Everything below a directory that is not hidden and not in something hidden, and the directory
itself. -/
def everything (path : Path) (more : Bool) : List Path :=
  match directoryAt? tree directory path with
  | none => []
  | some location =>
    path :: ((tree.below location).filter fun names =>
      !names.any isHidden && (!more || tree.isDirectoryAt (location ++ names))).map
        fun names => { path with names := path.names ++ names }

/-- The paths that a name of a glob makes of a path. -/
def advance (name : String) (more : Bool) (path : Path) : List Path :=
  if name = anyDepth then everything tree directory path more
  else if isWildcard name then
    ((listed tree directory path more).filter (admits name)).map fun found =>
      { path with names := path.names ++ [found] }
  else
    let found : Path := { path with names := path.names ++ [name] }
    if leadsSomewhere tree directory found then [found] else []

/-- The paths that some names make of paths. -/
def advanceAll : List Path → List String → List Path
  | paths, [] => paths
  | paths, name :: rest =>
    advanceAll (paths.flatMap (advance tree directory name !rest.isEmpty)) rest

/-- The paths that match a glob, in no particular order and possibly several times. The names before
the first wildcard are taken as they are. -/
def found (glob : Path) : Except PathFault (List Path) :=
  let plain := glob.names.takeWhile (!isWildcard ·)
  let rest := glob.names.drop plain.length
  let start : Path := { glob with names := plain }
  if rest.isEmpty then .ok (if leadsSomewhere tree directory glob then [glob] else [])
  else if plain.any (·.toList.contains (Char.ofNat 0)) then .error .nullCharacter
  else .ok (advanceAll tree directory [start] rest)

end OpcachePreload.Glob
