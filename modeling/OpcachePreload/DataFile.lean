import OpcachePreload.Action.Basic
import OpcachePreload.Json.Reader
import OpcachePreload.Text.Lowercase
import OpcachePreload.Yaml.Document

/-!
# Data files

Files that hold one value, in YAML or JSON as their suffix says. A blank file is an empty mapping.
-/

namespace OpcachePreload.DataFile

/-- The formats of data files. -/
inductive Format where
  | yaml
  | json
  deriving DecidableEq, Repr

/-- The formats by suffix. -/
def formats : List (String × Format) := [(".yaml", .yaml), (".yml", .yaml), (".json", .json)]

/-- The format that a path's suffix says, in whatever case. -/
def format? (path : Path) : Option Format :=
  formats.lookup (Text.lowercase path.suffix)

/-- Whether a path has the suffix of a data file. -/
def isDataFile (path : Path) : Bool := (format? path).isSome

/-- Whether a text holds nothing but blanks. -/
def isBlankText (text : String) : Bool := text.toList.all Text.isBlank

/-- The value that a text of a format is. -/
def parse (format : Format) (text : String) : Except ContentFault Value :=
  match format with
  | .yaml => (Yaml.read text).mapError .yaml
  | .json => (Json.read text).mapError .json

/-- The value of a text, blank or not. -/
def valueOf (format : Format) (text : String) : Except ContentFault Value :=
  if isBlankText text then .ok .emptyMapping else parse format text

/-- Read a data file. -/
def load (path : Path) : Action Value := do
  match ← Action.find path with
  | none => Action.fail (.dataFileMissing (← Action.absolute path))
  | some .directory => Action.fail (.dataFileIsDirectory (← Action.absolute path))
  | some (.file _) =>
    match format? path with
    | none => Action.fail (.unknownFormat path.name)
    | some format =>
      let text ← Action.readText path
      Action.ofExcept .content (valueOf format text)

end OpcachePreload.DataFile
