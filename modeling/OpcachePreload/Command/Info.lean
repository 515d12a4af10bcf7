import OpcachePreload.Command.Context
import OpcachePreload.Project

/-!
# Showing manifests from the command line

What a manifest holds is shown, together with the classes that the class map does not know any more:
replaying it would fail for them.
-/

namespace OpcachePreload.Command.Info

/-- What is asked to be shown. -/
structure Request where
  manifest : Option Path := none
  list : Bool := false
  deriving DecidableEq, Repr

/-- Read the words for the command, up to the first that it does not know. -/
def Request.read (request : Request) : List String → Except String Request
  | [] => .ok request
  | word :: rest =>
    if word = "--list" then read { request with list := true } rest
    else if word.toList.head? = some '-' then .error word
    else read { request with manifest := some (.ofString word) } rest

/-- The classes of a manifest that a class map does not know. -/
def stale (manifest : Manifest) (classMap : ClassMap) : List String :=
  manifest.classes.filter fun name => !classMap.contains name

/-- Print items, one a line. -/
def printItems (items : List String) : Action Unit :=
  items.forM fun item => Action.print ("  - " ++ item)

/-- Print a list under its title. -/
def printList (title : String) (items : List String) : Action Unit := do
  Action.print ("\n" ++ title ++ ":")
  printItems items

/-- A line across the page. -/
def rule : String := String.ofList (List.replicate 60 '=')

/-- Print what a manifest holds. -/
def printSummary (settings : Settings) (path : Path) (manifest : Manifest) (classMap : ClassMap) :
    Action Unit := do
  Action.print ("\n" ++ rule)
  Action.print " Preload Manifest Information"
  Action.print rule
  Action.print ("\nManifest: " ++ toString path)
  let classMapPath ← settings.resolve (toString settings.classMap)
  Action.print ("Class map: " ++ toString classMapPath ++ " (" ++ toString classMap.size ++
    " classes)")
  Action.print ("\nClasses:         " ++ toString manifest.classes.length)
  Action.print ("Files:           " ++ toString manifest.files.length)
  Action.print ("Compile targets: " ++ toString manifest.compile.length)

/-- Print everything that a manifest lists. -/
def printLists (manifest : Manifest) : Action Unit := do
  printList "Classes" manifest.classes
  printList "Files" manifest.files
  printList "Compile targets" manifest.compile

/-- Print the classes that are unknown, if there are any. -/
def printStale (stale : List String) : Action Status := do
  if stale.isEmpty then
    Action.print "\nAll classes resolve against the class map."
    return succeeded
  else
    printList ("Stale classes (" ++ toString stale.length ++ ")") stale
    return failed

/-- Show the manifest at a path. -/
def showManifest (request : Request) (settings : Settings) (path : Path) : Action Status := do
  let manifest ← Manifest.load path
  let classMap ← settings.loadClassMap
  printSummary settings path manifest classMap
  if request.list then printLists manifest
  printStale (stale manifest classMap)

/-- Show a manifest with settings. -/
def run (request : Request) (settings : Settings) : Action Status := do
  let path ← settings.manifestPath request.manifest
  if ← Action.exists? path then showManifest request settings path
  else
    Action.complain ("Manifest not found: " ++ toString path)
    Action.info "Run 'preloader build' to create it"
    return failed

/-- The command. -/
def execute (context : Context) : Action Status := do
  match Request.read {} context.arguments with
  | .error word => rejectArgument .info word
  | .ok request => withSettings context (run request)

end OpcachePreload.Command.Info
