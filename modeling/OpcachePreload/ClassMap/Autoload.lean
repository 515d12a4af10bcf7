import OpcachePreload.ClassMap.Basic
import OpcachePreload.Path
import OpcachePreload.Pattern.Basic

/-!
# Autoload arrays

The class map that a dependency manager generates is source text: an array with one entry a line.
Names and files are written between single quotes; a file may be given relative to the directory of
the dependencies or to the one above it. Lines that are no entries are passed over.
-/

namespace OpcachePreload.ClassMap.Autoload

open Pattern

/-- The directory that a file is relative to. -/
inductive Base where
  /-- The directory of the dependencies. -/
  | vendor
  /-- The directory above it. -/
  | project
  deriving DecidableEq, Repr

/-- The variable that holds a base directory. -/
def Base.variable : Base → String
  | vendor => "vendorDir"
  | project => "baseDir"

/-- Blanks. -/
def blanks : Pattern := many (one { members := [.category .blank false true] })

/-- The inside of a single-quoted string: a backslash takes the next character along, which is not a
line feed. -/
def stringBody : Pattern :=
  many (orElse (one (.except ['\'', '\\']))
    (andThen (literal "\\") (one (.except ['\n']))))

/-- A single-quoted string whose inside is captured. -/
def string (index : Nat) : Pattern :=
  sequence [literal "'", group index stringBody, literal "'"]

/-- An entry: the name, the base directory's variable, and the file. -/
def entry : Pattern :=
  sequence [anchored .lineStart, blanks, string 1, blanks, literal "=>", blanks,
    optional (sequence [literal "$",
      group 2 (orElse (literal Base.vendor.variable) (literal Base.project.variable)),
      blanks, literal ".", blanks]),
    string 3, blanks, optional (literal ","), blanks, anchored .lineEnd]

/-- The text that the inside of a single-quoted string stands for. -/
def unescape : List Char → List Char
  | '\\' :: '\\' :: rest => '\\' :: unescape rest
  | '\\' :: '\'' :: rest => '\'' :: unescape rest
  | c :: rest => c :: unescape rest
  | [] => []

/-- The base directories for a class map at an absolute path: the directory above that of the file,
and the one above that. -/
def baseDirectory (file : Path) : Base → Path
  | .vendor => file.parent.parent
  | .project => file.parent.parent.parent

/-- The name and file of an entry. -/
def entryOf (file : Path) (found : Match) : String × String :=
  let directory := match found.capture? 2 with
    | none => ""
    | some name =>
      if name = Base.vendor.variable.toList then toString (baseDirectory file .vendor)
      else toString (baseDirectory file .project)
  let text (index : Nat) : String :=
    String.ofList (unescape ((found.capture? index).getD []))
  (text 1, directory ++ text 3)

/-- Whether an arrow occurs in a text. -/
def hasArrow : List Char → Bool
  | '=' :: '>' :: _ => true
  | _ :: rest => hasArrow rest
  | [] => false

/-- Read the autoload array at an absolute path. A text with arrows but without entries is no such
array. -/
def read (file : Path) (text : String) : Except Problem ClassMap :=
  let map : ClassMap := .ofList ((findAll entry text.toList).map (entryOf file))
  if map.toList.isEmpty && hasArrow text.toList then .error .noEntries else .ok map

end OpcachePreload.ClassMap.Autoload
