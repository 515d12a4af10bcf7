import OpcachePreload.Digest.Sha1
import OpcachePreload.Path
import OpcachePreload.Text.Quoted
import OpcachePreload.Text.Utf8

/-!
# Names of modules

A file that is executed as a module is known by a name that is made from its path: the stem of the
file and the first eight hexadecimal digits of the digest of the path.
-/

namespace OpcachePreload.Module

/-- What the names of preloaded modules start with. -/
def namePrefix : String := "_preloaded_"

/-- The name of the module in a file. -/
def name (path : Path) : String :=
  let digest := Digest.sha1 (Text.Utf8.encode (toString path).toList)
  namePrefix ++ path.stem ++ "_" ++ String.ofList (Text.hex 8 digest.a.toNat)

end OpcachePreload.Module
