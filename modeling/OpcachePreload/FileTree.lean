import OpcachePreload.Path

/-!
# Trees of files

The files and directories below the root, each at its location: the names on the way from the root.
A path is looked up from a working directory one name after the other; every name but the last has
to be that of a directory. A lookup fails for one of a few causes, and a change is made only where
the lookup of what holds it succeeds.
-/

namespace OpcachePreload

/-- The names on the way from the root. -/
abbrev Location := List String

/-- A directory, or a file and its bytes. -/
inductive Node where
  | directory
  | file (bytes : List UInt8)
  deriving DecidableEq, Repr

/-- Why a path cannot be used. -/
inductive PathFault where
  | notFound
  | notADirectory
  | isADirectory
  | alreadyThere
  | nameTooLong
  | nullCharacter
  deriving DecidableEq, Repr

/-- What is where; the root is a directory in any case. -/
structure FileTree where
  nodes : List (Location × Node)
  deriving Repr

namespace FileTree

/-- The tree with nothing below the root. -/
def empty : FileTree := ⟨[]⟩

instance : Inhabited FileTree := ⟨empty⟩

/-- What is at a location. -/
def get? (tree : FileTree) (location : Location) : Option Node :=
  if location = [] then some .directory
  else (tree.nodes.find? (·.1 = location)).map Prod.snd

/-- Put something at a location, in place of what is there. -/
def put (tree : FileTree) (location : Location) (node : Node) : FileTree :=
  if tree.nodes.any (·.1 = location) then
    ⟨tree.nodes.map fun entry => if entry.1 = location then (location, node) else entry⟩
  else ⟨tree.nodes ++ [(location, node)]⟩

/-- Whether there is a directory at a location. -/
def isDirectoryAt (tree : FileTree) (location : Location) : Bool :=
  tree.get? location = some .directory

/-! ## Looking up paths -/

/-- The longest name that a file or directory may have, in bytes. -/
def nameLimit : Nat := 255

/-- Go on from a directory by some names. -/
def descend (tree : FileTree) : Location → List String → Except PathFault Location
  | location, [] => .ok location
  | location, name :: names =>
    match tree.get? location with
    | none => .error .notFound
    | some (.file _) => .error .notADirectory
    | some .directory =>
      if nameLimit < name.utf8ByteSize then .error .nameTooLong
      else if name = ".." then descend tree location.dropLast names
      else descend tree (location ++ [name]) names

/-- Where a path leads from a working directory. The last name need not be there. -/
def locate (tree : FileTree) (directory : Location) (path : Path) : Except PathFault Location :=
  if path.names.any (·.toList.contains (Char.ofNat 0)) then .error .nullCharacter
  else tree.descend (if path.isAbsolute then [] else directory) path.names

/-- What a path leads to. -/
def lookup (tree : FileTree) (directory : Location) (path : Path) : Except PathFault Node := do
  match tree.get? (← tree.locate directory path) with
  | some node => return node
  | none => throw .notFound

/-- The bytes of the file that a path leads to. -/
def read (tree : FileTree) (directory : Location) (path : Path) :
    Except PathFault (List UInt8) := do
  match ← tree.lookup directory path with
  | .file bytes => return bytes
  | .directory => throw .isADirectory

/-- Causes for which a path counts as leading nowhere when it is only asked whether it does. -/
def isAbsence : PathFault → Bool
  | .notFound | .notADirectory | .nullCharacter => true
  | .isADirectory | .alreadyThere | .nameTooLong => false

/-- What a path leads to, nothing if it leads nowhere. -/
def probe (tree : FileTree) (directory : Location) (path : Path) :
    Except PathFault (Option Node) :=
  match tree.lookup directory path with
  | .ok node => .ok (some node)
  | .error fault => if isAbsence fault then .ok none else .error fault

/-! ## Changes -/

/-- Replace or create the file that a path leads to. -/
def write (tree : FileTree) (directory : Location) (path : Path) (bytes : List UInt8) :
    Except PathFault FileTree := do
  let location ← tree.locate directory path
  match tree.get? location with
  | some .directory => throw .isADirectory
  | some (.file _) => return tree.put location (.file bytes)
  | none => return tree.put location (.file bytes)

/-- Create a directory. The last name must be new. -/
def makeDirectory (tree : FileTree) (directory : Location) (path : Path) :
    Except PathFault FileTree := do
  let location ← tree.locate directory path
  if path.names.isEmpty || path.names.getLast? = some ".." then throw .alreadyThere
  match tree.get? location with
  | some _ => throw .alreadyThere
  | none => return tree.put location .directory

/-- Why a directory could not be made: the cause and the path that has it. -/
structure DirectoryFault where
  fault : PathFault
  path : Path
  deriving DecidableEq, Repr

/-- Make sure that a path leads to a directory, without making those above it. -/
def ensureOne (tree : FileTree) (directory : Location) (path : Path) :
    Except DirectoryFault FileTree :=
  match tree.makeDirectory directory path with
  | .ok tree => .ok tree
  | .error fault =>
    match fault, tree.lookup directory path with
    | .alreadyThere, .ok .directory => .ok tree
    | _, _ => .error ⟨fault, path⟩

/-- Make sure that the path with some names dropped from its end leads to a directory, making those
above it as needed. `kept` are the names, last first. The tree is returned in any case: directories
that were made stay. -/
def ensureNames (tree : FileTree) (directory : Location) (root : PathRoot) :
    (kept : List String) → FileTree × Option DirectoryFault
  | [] =>
    match tree.ensureOne directory ⟨root, []⟩ with
    | .ok tree => (tree, none)
    | .error fault => (tree, some fault)
  | name :: kept =>
    let path : Path := ⟨root, (name :: kept).reverse⟩
    match tree.ensureOne directory path with
    | .ok tree => (tree, none)
    | .error fault =>
      if fault.fault = .notFound then
        match ensureNames tree directory root kept with
        | (tree, some fault) => (tree, some fault)
        | (tree, none) =>
          match tree.ensureOne directory path with
          | .ok tree => (tree, none)
          | .error fault => (tree, some fault)
      else (tree, some fault)

/-- Make sure that a path leads to a directory, making those above it as needed. -/
def ensureDirectory (tree : FileTree) (directory : Location) (path : Path) :
    FileTree × Option DirectoryFault :=
  tree.ensureNames directory path.root path.names.reverse

/-! ## Listing -/

/-- The names in a directory. What cannot be a name is none. -/
def names (tree : FileTree) (location : Location) : List String :=
  (tree.nodes.filterMap fun entry =>
    if entry.1.dropLast = location then entry.1.getLast? else none).filter Path.isName

/-- The locations below a directory, relative to it. -/
def below (tree : FileTree) (location : Location) : List Location :=
  (tree.nodes.filterMap fun entry =>
    if location.isPrefixOf entry.1 && entry.1.length != location.length then
      some (entry.1.drop location.length)
    else none).filter (·.all Path.isName)

end FileTree

end OpcachePreload
