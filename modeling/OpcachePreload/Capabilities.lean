/-!
# Capabilities of a runtime

Before anything is preloaded the runtime has to have its cache enabled, to be able to compile, and,
on the command line, to have the cache enabled there too. The first condition that fails is
reported.
-/

namespace OpcachePreload

/-- What a runtime reports about itself. The names are those of its cache and of what compiles a
file. -/
structure Capabilities where
  cacheName : String
  compilePrimitive : String
  cacheEnabled : Bool
  compileAvailable : Bool
  commandLine : Bool
  commandLineCacheEnabled : Bool
  deriving DecidableEq, Repr

namespace Capabilities

/-- What a runtime lacks. -/
inductive Lack where
  | cache
  | compilePrimitive
  | commandLineCache
  deriving DecidableEq, Repr

/-- The wording of a lack for a cache and a compile primitive with the given names. -/
def Lack.message (cacheName compilePrimitive : String) : Lack → String
  | cache => cacheName ++ " is not available."
  | .compilePrimitive => cacheName ++ " function " ++ compilePrimitive ++ " is not available."
  | commandLineCache => cacheName ++ " is not enabled for CLI applications."

/-- The first thing that a runtime lacks for preloading. -/
def lack? (capabilities : Capabilities) : Option Lack :=
  if !capabilities.cacheEnabled then some .cache
  else if !capabilities.compileAvailable then some .compilePrimitive
  else if capabilities.commandLine && !capabilities.commandLineCacheEnabled then
    some .commandLineCache
  else none

end Capabilities

end OpcachePreload
