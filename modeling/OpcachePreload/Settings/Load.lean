import OpcachePreload.DataFile
import OpcachePreload.Settings.Check
import OpcachePreload.Settings.VariableFile
import OpcachePreload.Settings.Variables

/-!
# Loading settings

Settings come from values that are given, from the environment, and from a file of variables in the
working directory; what comes first counts more, and groups of fields are merged field by field. A
configuration file gives values; without a root of its own its directory is the root.
-/

namespace OpcachePreload.Settings

/-- The file of variables. -/
def variableFile : Path := .ofString ".env"

/-- The variables of the file of variables, if there is one. -/
def fileVariables : Action Variables := do
  if ← Action.isFile variableFile then
    let text ← Action.readText variableFile
    return .ofFile (VariableFile.read (← read).environment text)
  else return .empty

/-- The value that is given to a field. Its name may be in any case; of several spellings the first
counts. -/
def given? (entries : List (Value × Value)) (field : String) : Option Value :=
  (entries.find? fun entry =>
    match entry.1 with
    | .text name => Text.lowercase name = field
    | _ => false).map Prod.snd

/-- Given entries under the names of the fields. -/
def underFieldNames (entries : List (Value × Value)) : List (Value × Value) :=
  fieldNames.filterMap fun field => (given? entries field).map fun value => (.text field, value)

/-- The entries of all sources. -/
def mergedEntries (env : Environment) (file : Variables) (given : List (Value × Value)) :
    Except Failure (List (Value × Value)) := do
  let fromEnvironment ← (Variables.ofEnvironment env).entries.mapError
    (.variableText · .environment)
  let fromFile ← file.entries.mapError (.variableText · .file)
  return Variables.mergeEntries fromFile
    (Variables.mergeEntries fromEnvironment (underFieldNames given))

/-- The result of a check, or the failure that it amounts to. -/
def Checked.result {α : Type} : Checked α → Except Failure α
  | valid a => .ok a
  | invalid faults => .error (.settings faults)
  | aborted pattern rejection => .error (.pattern pattern rejection)

/-- The settings of all sources. -/
def ofSources (env : Environment) (file : Variables) (given : List (Value × Value)) :
    Except Failure Settings := do
  (ofEntries env (← mergedEntries env file given)).result

/-- Whether an argument of the library is among entries. -/
def hasArgument (library : SettingsLibrary) (given : List (Value × Value)) : Bool :=
  given.any fun entry =>
    match entry.1 with
    | .text name => library.isArgument name
    | _ => false

/-- The settings that the library makes of entries with its own arguments among them. -/
def makeByLibrary (given : List (Value × Value)) : Action Settings := do
  let surroundings ← read
  let files := (← get).files
  Action.ofExcept .foreign
    (surroundings.system.library.make surroundings.environment surroundings.directory files given)

/-- The settings with given values, all of which need a name. -/
def make (given : List (Value × Value)) : Action Settings := do
  if given.any fun entry => !entry.1.isText then Action.fail .fieldNotText
  if hasArgument (← read).system.library given then makeByLibrary given
  else
    let file ← fileVariables
    Action.ofExcept id (ofSources (← read).environment file given)

/-- The root that a configuration at a path gives, as it is written. -/
def writtenRoot (path : Path) (entries : List (Value × Value)) : Except Failure String :=
  let value := ((Value.field? entries "root").filter Value.isSomething).getD (.text ".")
  match value.toText? with
  | some text => .ok text
  | none => .error (.rootKind path value.kindName)

/-- The entries of a configuration at a path. -/
def entriesOf (path : Path) (value : Value) : Except Failure (List (Value × Value)) :=
  if !value.isSomething then .ok []
  else match value with
    | .mapping entries => .ok entries
    | value => .error (.configurationKind path value.kindName)

/-- Load the settings of a configuration file: the usual one, unless a path is given. -/
def load (path : Option String) : Action Settings := do
  let path ← Action.expanded ((path.filter (!·.isEmpty)).getD fileName)
  let entries ← Action.ofExcept id (entriesOf path (← DataFile.load path))
  let root ← Action.expanded (← Action.ofExcept id (writtenRoot path entries))
  let root := (← Action.absolute path.parent) / root
  make (Value.assign (.text "root") (.text (toString root)) entries)

end OpcachePreload.Settings
