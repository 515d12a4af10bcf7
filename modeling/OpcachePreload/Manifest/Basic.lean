import OpcachePreload.Json.Reader
import OpcachePreload.Json.Writer

/-!
# Manifests

A manifest lists what a process loads when it starts: classes by name, files that are loaded as they
are, and files that are only compiled. Its text is a JSON object with one array for each list.
-/

namespace OpcachePreload

/-- What to load and compile, in order. -/
structure Manifest where
  classes : List String
  files : List String
  compile : List String
  deriving DecidableEq, Repr

namespace Manifest

/-- The text of a manifest. -/
def text (manifest : Manifest) : String :=
  String.ofList (Json.writtenObject [
    ("classes", manifest.classes),
    ("files", manifest.files),
    ("compile", manifest.compile)])

/-- Why a text is not taken for a manifest. -/
inductive Problem where
  /-- It is not JSON, or has not the expected shape. -/
  | format
  /-- It holds an integer with too many digits. -/
  | tooManyDigits (digits : Nat)
  deriving DecidableEq, Repr

/-- The texts that a value is a list of. -/
def textsOf : Value → Option (List String)
  | .list items => items.mapM Value.toText?
  | _ => none

/-- The manifest that a value is: an object with a list of texts for each of the three names. What
else it holds does not matter. -/
def ofValue : Value → Option Manifest
  | .mapping entries => do
    let texts (name : String) : Option (List String) :=
      (Value.field? entries name).bind textsOf
    return ⟨← texts "classes", ← texts "files", ← texts "compile"⟩
  | _ => none

/-- Read the text of a manifest. -/
def ofText (text : String) : Except Problem Manifest :=
  match Json.read text with
  | .error (.tooManyDigits digits) => .error (.tooManyDigits digits)
  | .error (.malformed _ _ _ _) => .error .format
  | .ok value =>
    match ofValue value with
    | some manifest => .ok manifest
    | none => .error .format

end Manifest

end OpcachePreload
