import OpcachePreload.Text.Split

/-!
# Paths

A path is a root, which is empty for a relative path, and the names below it. Reading a path drops
empty names and single dots and keeps double dots, so two texts that name the same file in the same
way give the same path. Paths are ordered by their names, not by their text.
-/

namespace OpcachePreload

/-- Where a path starts. Two slashes at the front are a root of their own; any other number of them
is the ordinary root. -/
inductive PathRoot where
  | relative
  | slash
  | doubleSlash
  deriving DecidableEq, Repr

/-- The text of a root. -/
def PathRoot.text : PathRoot → String
  | relative => ""
  | slash => "/"
  | doubleSlash => "//"

/-- A root and the names below it. -/
structure Path where
  root : PathRoot
  names : List String
  deriving DecidableEq, Repr

namespace Path

/-- Whether a text can be a name in a path: it is not empty, no single dot, and holds no slash. -/
def isName (name : String) : Bool :=
  name != "" && name != "." && !name.toList.contains '/'

/-- The root that a text starts with. -/
def rootOf : List Char → PathRoot
  | '/' :: '/' :: '/' :: _ => .slash
  | '/' :: '/' :: _ => .doubleSlash
  | '/' :: _ => .slash
  | _ => .relative

/-- Read a path. -/
def ofString (text : String) : Path where
  root := rootOf text.toList
  names := (Text.split '/' text.toList).filterMap fun name =>
    if name = [] || name = ['.'] then none else some (String.ofList name)

instance : Coe String Path := ⟨ofString⟩

/-- The text of a path; the empty relative path is a dot. -/
def toString (path : Path) : String :=
  if path.root = .relative && path.names.isEmpty then "."
  else path.root.text ++ String.intercalate "/" path.names

instance : ToString Path := ⟨toString⟩

/-- Whether the path has a root. -/
def isAbsolute (path : Path) : Bool := path.root != .relative

/-- A path taken relative to another one; an absolute one stands for itself. -/
def join (base path : Path) : Path :=
  if path.isAbsolute then path else { base with names := base.names ++ path.names }

instance : HDiv Path Path Path := ⟨join⟩

/-- The path without its last name. -/
def parent (path : Path) : Path := { path with names := path.names.dropLast }

/-- The last name, empty if there is none. -/
def name (path : Path) : String := path.names.getLastD ""

/-- Split a name before its last dot, unless the dot is its first or last character. -/
def splitSuffix (name : List Char) : List Char × List Char :=
  let tail := name.reverse.takeWhile (· != '.')
  let head := name.take (name.length - tail.length - 1)
  if tail.isEmpty || head.isEmpty || tail.length = name.length then (name, [])
  else (head, '.' :: tail.reverse)

/-- The suffix of the last name, with its dot. -/
def suffix (path : Path) : String := String.ofList (splitSuffix path.name.toList).2

/-- The last name without its suffix. -/
def stem (path : Path) : String := String.ofList (splitSuffix path.name.toList).1

/-- What orders paths: the root and the names. -/
def key (path : Path) : List String :=
  if path.isAbsolute then path.root.text :: path.names else path.names

/-- Whether a path comes before another one or is the same. -/
def le (p q : Path) : Bool := !decide (q.key < p.key)

@[simp]
theorem join_of_isAbsolute {base path : Path} (absolute : path.isAbsolute = true) :
    base / path = path := by
  simp [HDiv.hDiv, join, absolute]

end Path

end OpcachePreload
