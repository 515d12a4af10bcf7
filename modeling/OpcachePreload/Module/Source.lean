import OpcachePreload.Failure.Basic
import OpcachePreload.Text.Blank
import OpcachePreload.Text.Line

/-!
# Sources of modules

What executing a module amounts to, as far as it is told from the source here: nothing but comments
and blank lines does nothing, a single statement that raises an exception stops, and everything else
is not well formed.
-/

namespace OpcachePreload.Module

/-- What a source does when it is executed. -/
inductive Effect where
  | nothing
  /-- It stops with an exception. -/
  | stop (kind message : String)
  | malformed
  deriving DecidableEq, Repr

/-- Whether a line is blank or a comment. -/
def isIdle (line : List Char) : Bool :=
  match Text.trimStart line with
  | [] => true
  | c :: _ => c = '#'

/-- The exception that a line raises: a name, and a message between double quotes. -/
def raised? (line : List Char) : Option (String × String) := do
  let statement := "raise ".toList
  guard (statement.isPrefixOf line)
  let call := Text.trimEnd (line.drop statement.length)
  let kind := call.takeWhile Char.isAlpha
  let argument := call.drop kind.length
  guard (!kind.isEmpty && "(\"".toList.isPrefixOf argument)
  let message := (argument.drop 2).takeWhile fun c => c != '"' && c != '\\'
  guard (argument.drop (message.length + 2) = "\")".toList)
  return (String.ofList kind, String.ofList message)

/-- What lines do. -/
def effectOfLines (lines : List (List Char)) : Effect :=
  match lines.filter (!isIdle ·) with
  | [] => .nothing
  | [line] =>
    match raised? line with
    | some (kind, message) => .stop kind message
    | none => .malformed
  | _ => .malformed

/-- What a source does. -/
def effect (bytes : List UInt8) : Effect :=
  match Text.Utf8.decode bytes with
  | .error _ => .malformed
  | .ok text => effectOfLines (Text.split '\n' (Text.unifyNewlines text))

end OpcachePreload.Module
