import OpcachePreload.Host
import OpcachePreload.Module.Name
import OpcachePreload.Module.Source

/-!
# Modules as hosts

Files are executed as modules of this process and compiled in it. A module is executed once: its
name is looked up among the modules of the process first. The name is taken while the file is
executed, and given back if that fails, so only what was completed is remembered.
-/

namespace OpcachePreload

/-! ## Sessions -/

/-- The session in which a file is executed: its module is there already. -/
def Session.entering (session : Session) (path : Path) : Session :=
  { session with modules := session.modules.insert (Module.name path) path }

/-- The session after a file was executed to its end. -/
def Session.completing (session : Session) (path : Path) : Session :=
  { session with executions := session.executions ++ [⟨path, true⟩] }

/-- The session after a file failed while it was executed: its module is gone. -/
def Session.abandoning (session : Session) (path : Path) : Session :=
  { session with
    modules := session.modules.erase (Module.name path)
    executions := session.executions ++ [⟨path, false⟩] }

namespace Module

/-- What has been loaded, by resolved path, with the name of its module, and what has been compiled,
as it was given. -/
structure State where
  loaded : OrderedMap String String := .empty
  compiled : List String := []

/-- The name of the cache in diagnostics. -/
def cacheName : String := "Bytecode cache"

/-- What compiles a file. -/
def compilePrimitive : String := "py_compile.compile"

/-- The resolved path from the ordinary root. -/
def resolve (path : Path) : Action Path := do
  if path.names.any (·.toList.contains (Char.ofNat 0)) then
    Action.fail (.unusablePath .nullCharacter (toString path))
  let path ← Action.absolute path
  return ⟨.slash, (← read).system.resolver.resolve path.names⟩

/-! ## Interpreters -/

/-- What executes and compiles files: the part of the process that knows their language. -/
structure Interpreter where
  /-- Whether a file can be executed, as far as its path tells. -/
  accepts : Path → Bool
  /-- Execute a file. -/
  run : Path → Action Unit
  /-- Compile a file whose path is taken as it is written. -/
  compile : (file : String) → Action Unit

namespace Interpreter

variable (interpreter : Interpreter)

/-- Execute a file as a module. -/
def enter (path : Path) : Action Unit := do
  modify (·.entering path)
  tryCatch (interpreter.run path) fun failure => do
    modify (·.abandoning path)
    Action.fail failure
  modify (·.completing path)

/-- The module of a file, executed unless one of its name is there already. -/
def execute (path : Path) : Action Unit := do
  if (← get).modules.contains (name path) then return
  if !interpreter.accepts path then Action.fail (.moduleFault .unknownSuffix)
  interpreter.enter path

/-- Load the file at a resolved path. The result says whether its module is there. -/
def loadResolved (path : Path) (required : Bool) : Action Bool := do
  if ← Action.isFile path then
    interpreter.execute path
    return true
  else if required then
    Action.complain ("Module not found: " ++ toString path)
    Action.fail (.moduleFault (.missing path))
  else
    Action.warn ("Skipping missing file: " ++ toString path)
    return false

/-- The host that executes and compiles modules. -/
def host : Host State where
  load file required := do
    let path ← HostAction.ofAction (resolve (.ofString file))
    if (← HostAction.state).loaded.contains (toString path) then return
    if ← HostAction.ofAction (interpreter.loadResolved path required) then
      HostAction.update fun state =>
        { state with loaded := state.loaded.insert (toString path) (name path) }
  compile file := do
    HostAction.ofAction (interpreter.compile file)
    HostAction.update fun state => { state with compiled := state.compiled ++ [file] }
  capabilities := do
    let enabled := (← read).keepsBytecode
    return {
      cacheName := cacheName
      compilePrimitive := compilePrimitive
      cacheEnabled := enabled
      compileAvailable := true
      commandLine := true
      commandLineCacheEnabled := enabled }

end Interpreter

/-! ## Sources -/

/-- The suffix of the files that can be executed. -/
def executableSuffix : String := ".py"

/-- Whether a path ends as that of a file that can be executed. -/
def isExecutable (path : Path) : Bool :=
  executableSuffix.toList.isSuffixOf (toString path).toList

/-- Execute a file as far as its source tells what that comes to. -/
def run (path : Path) : Action Unit := do
  match effect (← Action.readBytes path) with
  | .nothing => return ()
  | .stop kind message => Action.fail (.moduleFault (.stopped kind message))
  | .malformed => Action.fail (.moduleFault .malformed)

/-- The bytes of a file whose path is taken as it is written: an empty one leads nowhere, and a
slash at its end wants a directory. -/
def sourceBytes (file : String) : Action (List UInt8) := do
  if file.isEmpty then Action.fail (.unusablePath .notFound file)
  let bytes ← Action.ask file fun tree directory => tree.read directory (.ofString file)
  if file.toList.getLast? = some '/' then Action.fail (.unusablePath .notADirectory file)
  return bytes

/-- Compile a file. -/
def compile (file : String) : Action Unit := do
  if effect (← sourceBytes file) = .malformed then Action.fail (.moduleFault .notCompiled)

/-- The interpreter of the sources whose effect is told here. -/
def sources : Interpreter := ⟨isExecutable, run, compile⟩

end Module

end OpcachePreload
