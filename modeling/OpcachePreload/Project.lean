import OpcachePreload.Builder.Operation
import OpcachePreload.ClassMap.Load
import OpcachePreload.Module.Host
import OpcachePreload.Replay
import OpcachePreload.Script.Host
import OpcachePreload.Settings.Expand
import OpcachePreload.Settings.Load

/-!
# Projects

What the settings of a project amount to: the builder after all that they ask for, the manifest file
that is written from it, and its replay on a host.
-/

namespace OpcachePreload.Settings

/-- Load the class map of a project. -/
def loadClassMap (settings : Settings) : Action ClassMap := do
  ClassMap.ofCoded <$> ClassMap.load (← settings.resolve (toString settings.classMap))

/-- A class map that is given, or that of the project. -/
def classMapOr (settings : Settings) : Option ClassMap → Action ClassMap
  | some classMap => return classMap
  | none => settings.loadClassMap

/-! ## Building -/

/-- What the settings exclude. -/
def exclusions (settings : Settings) : List Builder.Operation :=
  settings.exclude.map .exclude ++
    settings.excludeNamespaces.map fun name => .exclude (ClassName.startsWithNamespace [name])

/-- What the settings register by pattern. -/
def registrations (settings : Settings) : List Builder.Operation :=
  settings.preload.map .offerMatching ++
    settings.preloadNamespaces.map fun name =>
      .offerMatching (ClassName.startsWithNamespace [name])

/-- The builder after operations. -/
def applied (builder : Builder) (operations : List Builder.Operation) : Action Builder := do
  let read := (← get).files.sourceText (← read).directory
  match builder.applyAll read operations with
  | (builder, none) => return builder
  | (_, some failure) => Action.fail failure

/-- The builder after all that the settings ask for: exclusions, so that they apply to everything
after them, then patterns, then scans, then the files. -/
def build (settings : Settings) (classMap : Option ClassMap) : Action Builder := do
  let builder := Builder.start (← settings.classMapOr classMap)
  let builder ← applied builder (settings.exclusions ++ settings.registrations)
  let types ← settings.expand settings.scan.types
  let imports ← settings.expand settings.scan.imports
  Action.info ("Scanning " ++ toString types.length ++ " file(s) for type usages and " ++
    toString imports.length ++ " file(s) for imports")
  let builder ← applied builder [.scanTypes types, .scanImports imports]
  let files ← settings.expand settings.files
  let builder ← applied builder [.addFiles (files.map toString)]
  let targets ← settings.expand settings.compile
  let builder ← applied builder [.addCompileTargets (targets.map toString)]
  Action.info ("Discovered " ++ toString builder.classes.size ++ " class(es)")
  return builder

/-- The path of the manifest: one that is given, or that of the settings. -/
def manifestPath (settings : Settings) (output : Option Path) : Action Path :=
  settings.resolve (toString (output.getD settings.manifest))

/-- Build the manifest and write it: the builder, and where the manifest is. -/
def buildManifest (settings : Settings) (output : Option Path) (classMap : Option ClassMap) :
    Action (Builder × Path) := do
  let builder ← settings.build classMap
  let path ← settings.manifestPath output
  builder.manifest.write path
  return (builder, path)

/-! ## Replaying -/

/-- The probe of the PHP binary of the settings. -/
def Loader.probe (loader : Loader) : Probe := ⟨loader.phpBinary, loader.interface⟩

/-- The script that the settings start with. -/
def Loader.emptyScript (loader : Loader) : Script := .empty loader.checkEnvironment

/-- The manifest of a project, about to be replayed. -/
def replay (settings : Settings) (classMap : Option ClassMap) (manifest : Option Path) :
    Action Replay := do
  let classMap ← settings.classMapOr classMap
  Replay.ofFile classMap (← settings.manifestPath manifest)

/-- Check the environment, if that is wanted, and replay the manifest of a project. -/
def runReplay {σ : Type} (settings : Settings) (host : Host σ) (classMap : Option ClassMap)
    (includeOnly checkEnvironment : Option Bool) : HostAction σ Replay.Summary := do
  let replay ← HostAction.ofAction (settings.replay classMap none)
  if checkEnvironment.getD settings.loader.checkEnvironment then host.check
  replay.run host (includeOnly.getD settings.loader.includeOnly)

end OpcachePreload.Settings
