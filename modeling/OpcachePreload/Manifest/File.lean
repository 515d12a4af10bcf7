import OpcachePreload.Action.Basic
import OpcachePreload.Manifest.Basic

/-!
# Manifest files

Reading and writing the file that a manifest is handed over in.
-/

namespace OpcachePreload.Manifest

/-- The failure that a problem of the manifest at a path is. -/
def Problem.failure (path : String) : Problem → Failure
  | format => .manifestFormat path
  | tooManyDigits digits => .content (.json (.tooManyDigits digits))

/-- Read the text of the manifest at a path. -/
def parse (text path : String) : Except Failure Manifest :=
  (ofText text).mapError (Problem.failure path)

/-- Read a manifest from the bytes of the file at a path. -/
def ofBytes (bytes : List UInt8) (path : String) : Except Failure Manifest := do
  match Action.textOfBytes bytes with
  | .error _ => throw (.manifestFormat path)
  | .ok text => parse text path

/-- Read a manifest file. -/
def load (path : Path) : Action Manifest := do
  Action.ofExcept id (ofBytes (← Action.readBytes path) (toString path))

/-- Write a manifest file, replacing what is there. -/
def write (manifest : Manifest) (path : Path) : Action Unit := do
  Action.writeInto path (manifest.text ++ "\n")
  Action.info ("Wrote manifest: " ++ toString path)

end OpcachePreload.Manifest
