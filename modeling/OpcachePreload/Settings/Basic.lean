import OpcachePreload.Path

/-!
# Settings

What a project wants preloaded and how: where things are, which sources are scanned, which classes
are taken or left out, and how the manifest is replayed.
-/

namespace OpcachePreload

namespace Settings

/-- The globs of the sources that are scanned. -/
structure Scan where
  types : List String := []
  imports : List String := []
  deriving DecidableEq, Repr

/-- The hosts that a manifest can be replayed on. -/
inductive HostKind where
  /-- A preload script, which PHP runs. -/
  | script
  /-- Modules of this process. -/
  | modules
  deriving DecidableEq, Repr

/-- The name of a kind of host. -/
def HostKind.name : HostKind → String
  | script => "php"
  | modules => "python"

/-- All kinds of host. -/
def HostKind.all : List HostKind := [.script, .modules]

/-- The kind of host with a name. -/
def HostKind.ofName? (name : String) : Option HostKind := all.find? (·.name = name)

/-- How the manifest is replayed. -/
structure Loader where
  runtime : HostKind := .script
  phpBinary : String := "php"
  interface : Option String := none
  script : Path := .ofString "var/preload.php"
  includeOnly : Bool := false
  checkEnvironment : Bool := true
  deriving DecidableEq, Repr

end Settings

/-- The settings of a project. -/
structure Settings where
  root : Path := .ofString "."
  classMap : Path := .ofString "vendor/composer/autoload_classmap.php"
  manifest : Path := .ofString "var/preload.json"
  scan : Settings.Scan := {}
  exclude : List String := []
  excludeNamespaces : List String := []
  preload : List String := []
  preloadNamespaces : List String := []
  files : List String := []
  compile : List String := []
  loader : Settings.Loader := {}
  deriving DecidableEq, Repr

namespace Settings

/-- The name of the configuration file. -/
def fileName : String := "preload.yaml"

/-- The names of the fields, in order. -/
def fieldNames : List String :=
  ["root", "class_map", "manifest", "scan", "exclude", "exclude_namespaces", "preload",
    "preload_namespaces", "files", "compile", "loader"]

/-- The names of the fields of the scan settings. -/
def scanFieldNames : List String := ["types", "imports"]

/-- The names of the fields of the loader settings. -/
def loaderFieldNames : List String :=
  ["runtime", "php_binary", "sapi", "script", "include_only", "check_environment"]

/-- The fields that hold a list or fields of their own: a variable that sets one holds JSON. -/
def structuredFieldNames : List String :=
  ["scan", "exclude", "exclude_namespaces", "preload", "preload_namespaces", "files", "compile",
    "loader"]

/-- The names of the fields inside a field. -/
def innerFieldNames (field : String) : List String :=
  if field = "scan" then scanFieldNames
  else if field = "loader" then loaderFieldNames
  else []

end Settings

end OpcachePreload
