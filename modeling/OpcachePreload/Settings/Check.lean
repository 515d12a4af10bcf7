import OpcachePreload.Environment
import OpcachePreload.Pattern.Compile
import OpcachePreload.Settings.Basic
import OpcachePreload.Settings.Fault
import OpcachePreload.Value.Shown
import OpcachePreload.Text.Utf8

/-!
# Settings from values

Every field is checked, and all the faults are reported together: those of the fields in their
order, then the names that are no fields. Truth values may be written as numbers or words.
-/

namespace OpcachePreload.Settings

/-- What comes of a check: a result, faults, or a pattern that cannot even be looked at, which ends
all checking. -/
inductive Checked (α : Type) where
  | valid (a : α)
  | invalid (faults : List Fault)
  | aborted (pattern : String) (rejection : Pattern.Rejection)
  deriving Repr

namespace Checked

variable {α β : Type}

/-- Change a result. -/
def map (f : α → β) : Checked α → Checked β
  | valid a => valid (f a)
  | invalid faults => invalid faults
  | aborted pattern rejection => aborted pattern rejection

/-- Both of two checks, the first of them made first: faults add up. -/
def both (f : Checked (α → β)) (a : Checked α) : Checked β :=
  match f, a with
  | aborted pattern rejection, _ => aborted pattern rejection
  | _, aborted pattern rejection => aborted pattern rejection
  | valid f, valid a => valid (f a)
  | valid _, invalid faults => invalid faults
  | invalid faults, valid _ => invalid faults
  | invalid first, invalid second => invalid (first ++ second)

/-- The faults of a check that is a part of another one, at its place there. -/
def within (step : String) : Checked α → Checked α
  | invalid faults => invalid (faults.map fun fault => { fault with place := step :: fault.place })
  | checked => checked

/-- A single fault. -/
def misfit (misfit : Misfit) : Checked α := invalid [⟨[], misfit⟩]

instance : Functor Checked := ⟨map, fun a => map fun _ => a⟩

instance : Applicative Checked where
  pure := valid
  seq f a := both f (a ())

/-- All of some checks, in order. -/
def all : List (Checked α) → Checked (List α)
  | [] => valid []
  | a :: rest => List.cons <$> a <*> all rest

end Checked

/-! ## Kinds of fields -/

/-- A text. Bytes that are the encoding of one count as one. -/
def text : Value → Checked String
  | .text text => .valid text
  | .codes codes => .valid (Text.ofCodes codes)
  | .bytes bytes =>
    match Text.Utf8.decode bytes with
    | .ok text => .valid (String.ofList text)
    | .error _ => .misfit .notValidText
  | _ => .misfit .notText

/-- A text or nothing. -/
def textOrNothing : Value → Checked (Option String)
  | .null => .valid none
  | value => some <$> text value

/-- A list of texts. -/
def texts : Value → Checked (List String)
  | .list items | .set items =>
    .all (items.zipIdx.map fun item => (text item.1).within (toString item.2))
  | _ => .misfit .notAList

/-- A path as it is written. -/
def path : Value → Checked Path
  | .text text => .valid (.ofString text)
  | .codes codes => .valid (.ofString (Text.ofCodes codes))
  | _ => .misfit .notAPath

/-- A path in which the home directory and variables are replaced. -/
def expandedPath (env : Environment) : Value → Checked Path
  | .text text => .valid (env.path text)
  | .codes codes => .valid (env.path (Text.ofCodes codes))
  | value => path value

/-- The words for no. -/
def noWords : List String := ["0", "off", "f", "false", "n", "no"]

/-- The words for yes. -/
def yesWords : List String := ["1", "on", "t", "true", "y", "yes"]

/-- The truth value that a word means, in whatever case. -/
def wordTruth (word : String) : Checked Bool :=
  let word := word.map Char.toLower
  if word ∈ noWords then .valid false
  else if word ∈ yesWords then .valid true
  else .misfit .notABooleanText

/-- The truth value that a number means. -/
def numberTruth (n : Int) : Checked Bool :=
  if n = 0 then .valid false
  else if n = 1 then .valid true
  else if -0x8000000000000000 ≤ n ∧ n < 0x8000000000000000 then .misfit .notABooleanText
  else .misfit .notABoolean

/-- Whether a binary fraction is a whole number of a machine word. -/
def isWholeWord (x : Float) : Bool :=
  x == x.floor && -9223372036854775808 ≤ x && x < 9223372036854775808

/-- A truth value. -/
def truth : Value → Checked Bool
  | .bool b => .valid b
  | .int n => numberTruth n
  | .float x =>
    if x == 0 then .valid false
    else if x == 1 then .valid true
    else .misfit (if isWholeWord x then .notABooleanText else .notABoolean)
  | .text word => wordTruth word
  | .bytes bytes =>
    match Text.Utf8.decode bytes with
    | .ok word => wordTruth (String.ofList word)
    | .error _ => .misfit .notABooleanText
  | .codes _ => .misfit .notValidText
  | _ => .misfit .notABoolean

/-- A kind of host by name. -/
def hostKind : Value → Checked HostKind
  | .text name =>
    match HostKind.ofName? name with
    | some kind => .valid kind
    | none => .misfit .notAChoice
  | .codes _ => .misfit .notValidText
  | _ => .misfit .notAChoice

/-- The first of some patterns that is rejected, and why. -/
def firstRejected : List String → Option (String × Pattern.Rejection)
  | [] => none
  | pattern :: rest =>
    match Pattern.compile pattern with
    | .ok _ => firstRejected rest
    | .error rejection => some (pattern, rejection)

/-- A list of patterns. -/
def patterns (value : Value) : Checked (List String) :=
  match texts value with
  | .valid list =>
    match firstRejected list with
    | none => .valid list
    | some (pattern, .countTooLarge) => .aborted pattern .countTooLarge
    | some (pattern, rejection) => .misfit (.badPattern pattern rejection)
  | checked => checked

/-! ## Groups of fields -/

/-- A field by name, with what it is when it is not given. -/
def field {α : Type} (entries : List (Value × Value)) (name : String) (check : Value → Checked α)
    (usual : α) : Checked α :=
  match Value.field? entries name with
  | none => .valid usual
  | some value => (check value).within name

/-- A name that is no text, as it is given in the place of a fault. -/
def shownName : Value → String
  | .bool b => if b then "1" else "0"
  | name => if name.isShowable then name.shown else "<unprintable " ++ name.kindName ++ " object>"

/-- A check that there are no other fields than some. -/
def noOthers (names : List String) (entries : List (Value × Value)) : Checked Unit :=
  let faults := entries.filterMap fun entry =>
    match entry.1 with
    | .text name => if name ∈ names then none else some ⟨[name], .unknownField⟩
    | .codes _ => some ⟨[], .notValidText⟩
    | name => some ⟨[shownName name], .fieldNotText⟩
  if faults.isEmpty then .valid () else .invalid faults

/-- The scan settings with some entries. -/
def Scan.ofEntries (entries : List (Value × Value)) : Checked Scan :=
  (fun types imports _ => ⟨types, imports⟩)
    <$> field entries "types" texts []
    <*> field entries "imports" texts []
    <*> noOthers scanFieldNames entries

/-- The loader settings with some entries. -/
def Loader.ofEntries (entries : List (Value × Value)) : Checked Loader :=
  let usual : Loader := {}
  (fun runtime binary interface script includeOnly checkEnvironment _ =>
      ⟨runtime, binary, interface, script, includeOnly, checkEnvironment⟩)
    <$> field entries "runtime" hostKind usual.runtime
    <*> field entries "php_binary" text usual.phpBinary
    <*> field entries "sapi" textOrNothing usual.interface
    <*> field entries "script" path usual.script
    <*> field entries "include_only" truth usual.includeOnly
    <*> field entries "check_environment" truth usual.checkEnvironment
    <*> noOthers loaderFieldNames entries

/-- Settings inside a field. -/
def group {α : Type} (ofEntries : List (Value × Value) → Checked α) : Value → Checked α
  | .mapping entries => ofEntries entries
  | _ => .misfit .notAMapping

/-- The settings with some entries. Names that are no fields do not matter. -/
def ofEntries (env : Environment) (entries : List (Value × Value)) : Checked Settings :=
  let usual : Settings := {}
  let place (name : String) (usual : Path) : Checked Path :=
    field entries name (expandedPath env) (env.path (toString usual))
  (fun root classMap manifest scan exclude excludeNamespaces preload preloadNamespaces files compile
      loader => ⟨root, classMap, manifest, scan, exclude, excludeNamespaces, preload,
        preloadNamespaces, files, compile, loader⟩)
    <$> place "root" usual.root
    <*> place "class_map" usual.classMap
    <*> place "manifest" usual.manifest
    <*> field entries "scan" (group Scan.ofEntries) usual.scan
    <*> field entries "exclude" patterns usual.exclude
    <*> field entries "exclude_namespaces" texts usual.excludeNamespaces
    <*> field entries "preload" patterns usual.preload
    <*> field entries "preload_namespaces" texts usual.preloadNamespaces
    <*> field entries "files" texts usual.files
    <*> field entries "compile" texts usual.compile
    <*> field entries "loader" (group Loader.ofEntries) usual.loader

end OpcachePreload.Settings
