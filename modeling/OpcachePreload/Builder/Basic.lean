import OpcachePreload.ClassMap.Basic
import OpcachePreload.ClassName
import OpcachePreload.Manifest.Basic
import OpcachePreload.OrderedSet
import OpcachePreload.Pattern.Compile

/-!
# Building manifests

A builder collects the classes and files that a process is to preload. Names are offered to it one
after the other; it registers those that the class map knows and that no exclusion holds back. An
exclusion applies to the offers after it and leaves what is registered alone.
-/

namespace OpcachePreload

/-- A manifest in the making: the class map that decides which names count, the exclusions by their
text, and what has been registered. -/
structure Builder where
  classMap : ClassMap
  excluded : OrderedMap String Pattern := .empty
  classes : OrderedSet String := .empty
  files : OrderedSet String := .empty
  compile : OrderedSet String := .empty

namespace Builder

/-- A builder that has registered nothing. -/
def start (classMap : ClassMap) : Builder := { classMap }

/-- Whether an exclusion matches a name. -/
def excludes (builder : Builder) (name : String) : Bool :=
  builder.excluded.toList.any fun entry => entry.2.occursIn name

/-- Whether a name, its leading separator taken off, is registered when it is offered. -/
def accepts (builder : Builder) (name : String) : Bool :=
  !builder.classes.contains name && !builder.excludes name && builder.classMap.contains name

/-- Offer a name: the builder after it, and whether the name was registered. -/
def offer (builder : Builder) (name : String) : Builder × Bool :=
  let name := ClassName.stripSeparator name
  if builder.accepts name then
    ({ builder with classes := builder.classes.insert name }, true)
  else (builder, false)

/-- Offer names one after the other: the builder after them, and how many were registered. -/
def offerAll (builder : Builder) : List String → Builder × Nat
  | [] => (builder, 0)
  | name :: rest =>
    let (builder, registered) := builder.offer name
    let (builder, count) := offerAll builder rest
    (builder, registered.toNat + count)

/-- How many classes a builder has registered since an earlier state. -/
def registeredSince (builder earlier : Builder) : Nat :=
  builder.classes.size - earlier.classes.size

/-- Exclude the names that a pattern matches from now on. -/
def exclude (builder : Builder) (text : String) : Except Pattern.Rejection Builder := do
  if builder.excluded.contains text then return builder
  else
    let pattern ← Pattern.compile text
    return { builder with excluded := builder.excluded.insert text pattern }

/-- The names in the class map that a pattern matches. -/
def matching (builder : Builder) (pattern : Pattern) : List String :=
  builder.classMap.keys.filter pattern.occursIn

/-- Offer the names in the class map that a pattern matches. -/
def offerMatching (builder : Builder) (text : String) :
    Except Pattern.Rejection (Builder × Nat) := do
  let pattern ← Pattern.compile text
  return builder.offerAll (builder.matching pattern)

/-- Register a file to be loaded as it is. -/
def addFile (builder : Builder) (file : String) : Builder :=
  { builder with files := builder.files.insert file }

/-- Register a file to be compiled. -/
def addCompileTarget (builder : Builder) (file : String) : Builder :=
  { builder with compile := builder.compile.insert file }

/-- The manifest of what is registered. -/
def manifest (builder : Builder) : Manifest where
  classes := builder.classes.toList
  files := builder.files.toList
  compile := builder.compile.toList

end Builder

end OpcachePreload
