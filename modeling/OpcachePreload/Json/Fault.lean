import OpcachePreload.Text.Integer
import OpcachePreload.Text.Line

/-!
# What is wrong with a JSON text

The causes for which a text is not JSON, where each was noticed, and their wording.
-/

namespace OpcachePreload.Json

/-- Why a text is not JSON. -/
inductive Problem where
  | byteOrderMark
  | expectingValue
  | expectingName
  | expectingColon
  | expectingComma
  | extraData
  | unterminatedString
  | controlCharacter
  | badEscape
  | badCodeEscape
  deriving DecidableEq, Repr

/-- The wording of a problem. -/
def Problem.message : Problem → String
  | byteOrderMark => "Unexpected UTF-8 BOM (decode using utf-8-sig)"
  | expectingValue => "Expecting value"
  | expectingName => "Expecting property name enclosed in double quotes"
  | expectingColon => "Expecting ':' delimiter"
  | expectingComma => "Expecting ',' delimiter"
  | extraData => "Extra data"
  | unterminatedString => "Unterminated string starting at"
  | controlCharacter => "Invalid control character at"
  | badEscape => "Invalid \\escape"
  | badCodeEscape => "Invalid \\uXXXX escape"

/-- Why a text cannot be read: it is not JSON, noticed at a place counted in characters, lines and
columns; or an integer in it has more digits than are read. -/
inductive Fault where
  | malformed (problem : Problem) (position line column : Nat)
  | tooManyDigits (digits : Nat)
  deriving DecidableEq, Repr

/-- The wording of a fault. -/
def Fault.message : Fault → String
  | malformed problem position line column =>
    problem.message ++ ": line " ++ toString line ++ " column " ++ toString column ++
      " (char " ++ toString position ++ ")"
  | tooManyDigits digits => Text.tooManyDigitsMessage digits

end OpcachePreload.Json
