import OpcachePreload.Json.Fault
import OpcachePreload.Value.Shown

/-!
# What is wrong with a YAML text

A text may not be well formed, or a scalar in it may not be of the kind that it claims. The second
sort has causes of several kinds, each with its own wording.
-/

namespace OpcachePreload.Yaml

/-- Why a text is not a well-formed document. -/
inductive Problem where
  | unprintable (c : Char)
  | unexpectedCharacter (c : Char)
  | unmatchedBracket
  | keyWithoutColon
  | entryNotAllowed
  | keyNotAllowed
  | valueNotAllowed
  | badDirective
  | badName
  | badTag
  | badBlockHeader
  | badEscape
  | unexpectedEnd
  | documentSeparator
  | undefinedHandle
  | expectedNode
  | expectedBlockEnd
  | expectedFlowEntry
  | expectedDocumentStart
  | severalDocuments
  | undefinedAlias
  | duplicateAnchor
  | unknownTag (tag : String)
  | wrongKind
  | badMerge
  | unhashableKey
  | badBytes
  deriving DecidableEq, Repr

/-- Why a text cannot be read. -/
inductive Fault where
  | malformed (problem : Problem)
  /-- An escape names no code point, being too large for one, or even for a machine word. -/
  | codePoint (tooLargeForWord : Bool)
  | notAnInteger (base : Nat) (text : String)
  | tooManyDigits (digits : Nat)
  | notANumber (text : String)
  | emptyNumber
  /-- A part of sixty of a binary fraction weighs more than such a fraction can. -/
  | overweight
  | notABoolean (text : String)
  | notATimestamp
  /-- A mapping is said to be a date or moment. -/
  | mappingTimestamp
  | calendar (fault : CalendarFault)
  deriving DecidableEq, Repr

/-- The wording for a date or time that is out of range. -/
def calendarMessage : CalendarFault → String
  | .year year => "year " ++ toString year ++ " is out of range"
  | .month => "month must be in 1..12"
  | .day => "day is out of range for month"
  | .hour => "hour must be in 0..23"
  | .minute => "minute must be in 0..59"
  | .second => "second must be in 0..59"
  | .offset minutes =>
    "offset must be a timedelta strictly between -timedelta(hours=24) and " ++
      "timedelta(hours=24), not " ++ Value.shownSpan minutes ++ "."

/-- The longest quotation of a text that is not an integer. -/
def quotationLimit : Nat := 200

/-- The wording of a fault; well-formedness problems have none. -/
def Fault.message : Fault → String
  | malformed _ => ""
  | codePoint false => "chr() arg not in range(0x110000)"
  | codePoint true => "Python int too large to convert to C int"
  | notAnInteger base text =>
    "invalid literal for int() with base " ++ toString base ++ ": " ++
      String.ofList ((Text.quoted text).toList.take quotationLimit)
  | tooManyDigits digits => Text.tooManyDigitsMessage digits
  | notANumber text => "could not convert string to float: " ++ Text.quoted text
  | emptyNumber => "string index out of range"
  | overweight => "int too large to convert to float"
  | notABoolean text => Text.quoted text
  | notATimestamp => "'NoneType' object has no attribute 'groupdict'"
  | mappingTimestamp => "expected string or bytes-like object, got 'list'"
  | calendar fault => calendarMessage fault

end OpcachePreload.Yaml
