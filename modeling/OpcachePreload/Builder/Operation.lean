import OpcachePreload.Builder.Basic
import OpcachePreload.Failure.Basic
import OpcachePreload.Text.Line
import OpcachePreload.Usage

/-!
# Operations on builders

What is done to a builder, as data. An operation either succeeds or fails; the builder after it is
given in both cases. Scanning several files registers what the files before the first unreadable one
name.
-/

namespace OpcachePreload

/-- The source text at a path, as far as it can be read. Source need not be UTF-8: the shapes that
are looked for are ASCII. -/
abbrev SourceReader := Path → Except Failure String

/-- The source text at a path in a tree of files. -/
def FileTree.sourceText (tree : FileTree) (directory : Location) : SourceReader := fun path =>
  match tree.read directory path with
  | .error fault => .error (.unusablePath fault (toString path))
  | .ok bytes => .ok (String.ofList (Text.unifyNewlines (Text.Utf8.decodeLossy bytes)))

namespace Builder

/-- What an operation that succeeds answers: nothing, whether a name was registered, or how many
names were. -/
inductive Answer where
  | done
  | registered (yes : Bool)
  | count (names : Nat)
  deriving DecidableEq, Repr

/-- Offer what some way of scanning finds in files, up to the first that cannot be read. -/
def scan (builder : Builder) (read : SourceReader) (found : String → List String) :
    List Path → Builder × Except Failure Answer
  | [] => (builder, .ok .done)
  | path :: rest =>
    match read path with
    | .error failure => (builder, .error failure)
    | .ok text => scan (builder.offerAll (found text)).1 read found rest

/-- Something that is done to a builder. -/
inductive Operation where
  | exclude (pattern : String)
  | offer (name : String)
  | offerMatching (pattern : String)
  | scanTypes (paths : List Path)
  | scanImports (paths : List Path)
  | addFiles (files : List String)
  | addCompileTargets (files : List String)
  deriving DecidableEq, Repr

/-- The builder after an operation, and what the operation answers or why it failed. -/
def perform (builder : Builder) (read : SourceReader) :
    Operation → Builder × Except Failure Answer
  | .exclude pattern =>
    match builder.exclude pattern with
    | .ok builder => (builder, .ok .done)
    | .error rejection => (builder, .error (.pattern pattern rejection))
  | .offer name =>
    let (builder, registered) := builder.offer name
    (builder, .ok (.registered registered))
  | .offerMatching pattern =>
    match builder.offerMatching pattern with
    | .ok (builder, names) => (builder, .ok (.count names))
    | .error rejection => (builder, .error (.pattern pattern rejection))
  | .scanTypes paths => builder.scan read Usage.typeNames paths
  | .scanImports paths => builder.scan read Usage.importedNames paths
  | .addFiles files => (files.foldl addFile builder, .ok .done)
  | .addCompileTargets files => (files.foldl addCompileTarget builder, .ok .done)

/-- The builder after an operation, and why the operation failed if it did. -/
def apply (builder : Builder) (read : SourceReader) (operation : Operation) :
    Builder × Option Failure :=
  match builder.perform read operation with
  | (builder, .ok _) => (builder, none)
  | (builder, .error failure) => (builder, some failure)

/-- The builder after operations, up to the first that fails. -/
def applyAll (builder : Builder) (read : SourceReader) : List Operation → Builder × Option Failure
  | [] => (builder, none)
  | operation :: rest =>
    match builder.apply read operation with
    | (builder, none) => applyAll builder read rest
    | (builder, some failure) => (builder, some failure)

end Builder

end OpcachePreload
