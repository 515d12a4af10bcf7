import OpcachePreload.Json.Fault
import OpcachePreload.Yaml.Fault
import OpcachePreload.Text.Utf8

/-!
# What is wrong with the content of a file

A file may not be UTF-8, or its text may not be of the format that it is read as.
-/

namespace OpcachePreload

/-- Why the content of a file cannot be used. -/
inductive ContentFault where
  | undecodable (malformed : Text.Utf8.Malformed)
  | json (fault : Json.Fault)
  | yaml (fault : Yaml.Fault)
  deriving Repr

/-- The wording for a malformed piece of UTF-8. -/
def Text.Utf8.Malformed.message (malformed : Text.Utf8.Malformed) : String :=
  let reason := match malformed.fault with
    | .invalidStart => "invalid start byte"
    | .invalidContinuation => "invalid continuation byte"
    | .unexpectedEnd => "unexpected end of data"
  let place :=
    if malformed.size = 1 then
      "byte 0x" ++ String.ofList (Text.hex 2 malformed.first.toNat) ++ " in position " ++
        toString malformed.position
    else
      "bytes in position " ++ toString malformed.position ++ "-" ++
        toString (malformed.position + malformed.size - 1)
  "'utf-8' codec can't decode " ++ place ++ ": " ++ reason

/-- The wording of a fault. -/
def ContentFault.message : ContentFault → String
  | undecodable malformed => malformed.message
  | json fault => fault.message
  | yaml fault => fault.message

end OpcachePreload
