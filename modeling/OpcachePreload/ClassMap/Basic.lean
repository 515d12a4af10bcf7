import OpcachePreload.OrderedMap
import OpcachePreload.Value.Shown
import OpcachePreload.Failure.Content

/-!
# Class maps

A class map says in which file each class is defined. The entries keep the order of their source. As
it is loaded, a class map has its names and files by their code points, since a data file can hold
texts with lone surrogates.
-/

namespace OpcachePreload

/-- The files of classes by name. -/
abbrev ClassMap := OrderedMap String String

/-- The files of classes by name, each text given by its code points. -/
abbrev CodedClassMap := OrderedMap (List Nat) (List Nat)

namespace ClassMap

/-- The class map by the code points of its texts. -/
def coded (map : ClassMap) : CodedClassMap :=
  .ofList (map.toList.map fun entry => (Text.codes entry.1, Text.codes entry.2))

/-- The class map whose texts have some code points. -/
def ofCoded (map : CodedClassMap) : ClassMap :=
  .ofList (map.toList.map fun entry => (Text.ofCodes entry.1, Text.ofCodes entry.2))

/-- Why there is no usable class map. -/
inductive Problem where
  /-- A directory holds no class map where one is looked for. -/
  | nothingBelow
  | fileNotFound
  | unsupportedKind
  /-- The text has arrows but no entry. -/
  | noEntries
  | unreadable (fault : ContentFault)
  | notAMapping
  | badEntry (name file : Value)
  deriving Repr

/-- The directory, below that of the dependencies, in which the class map is. -/
def directoryName : String := "composer"

/-- The directory of the dependencies. -/
def dependencyDirectoryName : String := "vendor"

/-- The name of the file with the class map. -/
def fileName : String := "autoload_classmap.php"

/-- The wording of a problem. -/
def Problem.message : Problem → String
  | nothingBelow => "no " ++ directoryName ++ "/" ++ fileName ++ " found"
  | fileNotFound => "file not found"
  | unsupportedKind => "unsupported file type"
  | noEntries => "no class map entries could be parsed"
  | unreadable fault => fault.message
  | notAMapping => "expected an object of class name to file path"
  | badEntry name file => "invalid entry " ++ name.shown ++ ": " ++ file.shown

/-- Whether the wording of a problem can be made up: that of a bad entry shows its name and file. -/
def Problem.isShowable : Problem → Bool
  | badEntry name file => name.isShowable && file.isShowable
  | _ => true

/-- The entry of a class map that an entry of a mapping is, if its name and file are texts. -/
def entryOf (entry : Value × Value) : Except Problem (List Nat × List Nat) :=
  match entry.1.codes?, entry.2.codes? with
  | some name, some file => .ok (name, file)
  | _, _ => .error (.badEntry entry.1 entry.2)

/-- The class map that a value of a data file is. Whatever is empty is a map without entries. -/
def ofValue (value : Value) : Except Problem CodedClassMap :=
  if !value.isSomething then .ok .empty
  else match value with
    | .mapping entries => .ofList <$> entries.mapM entryOf
    | _ => .error .notAMapping

end ClassMap

end OpcachePreload
