import OpcachePreload.Pattern.Basic

/-!
# Tags of YAML

The kinds that a node may have, and the kind that a plain scalar has by its text. The texts of
numbers and dates are described by patterns.
-/

namespace OpcachePreload.Yaml

/-- The kind of a node. -/
inductive Tag where
  | null
  | bool
  | int
  | float
  | text
  | bytes
  | timestamp
  | sequence
  | mapping
  | set
  | orderedMapping
  | pairs
  | merge
  /-- The equals sign, which names the value of a mapping as a whole. -/
  | value
  | unknown (name : String)
  deriving DecidableEq, Repr

/-- Whether nodes of a kind are collections. -/
def Tag.isCollection : Tag → Bool
  | .sequence | .mapping | .set | .orderedMapping | .pairs => true
  | .null | .bool | .int | .float | .text | .bytes | .timestamp | .merge | .value | .unknown _ =>
    false

/-- What the names of the known kinds start with. -/
def standardHandle : String := "tag:yaml.org,2002:"

/-- The kinds by name. -/
def standardTags : List (String × Tag) := [
  ("null", .null), ("bool", .bool), ("int", .int), ("float", .float), ("str", .text),
  ("binary", .bytes), ("timestamp", .timestamp), ("seq", .sequence), ("map", .mapping),
  ("set", .set), ("omap", .orderedMapping), ("pairs", .pairs), ("merge", .merge),
  ("value", .value)]

/-- The kind with a full name. -/
def Tag.ofName (name : String) : Tag :=
  ((standardTags.find? fun entry => standardHandle ++ entry.1 == name).map Prod.snd).getD
    (.unknown name)

namespace Scalar

open Pattern

/-- One of some characters. -/
def oneOf (cs : String) : Pattern := one (.ofChars cs.toList)

/-- An ASCII digit. -/
def digit : Pattern := oneOf "0123456789"

/-- One of some texts. -/
def anyOf : List String → Pattern
  | [] => ahead false nothing
  | [text] => literal text
  | text :: rest => orElse (literal text) (anyOf rest)

/-- One of some patterns. -/
def choice : List Pattern → Pattern
  | [] => ahead false nothing
  | [p] => p
  | p :: rest => orElse p (choice rest)

/-- A sign that may be missing. -/
def sign : Pattern := optional (oneOf "-+")

/-- Digits and underscores. -/
def digits : Pattern := many (oneOf "0123456789_")

/-- Minutes or seconds after a colon, at least once. -/
def sixtieths : Pattern :=
  many1 (sequence [literal ":", optional (oneOf "012345"), digit])

/-- An exponent that may be missing. -/
def exponent : Pattern := optional (sequence [oneOf "eE", oneOf "-+", many1 digit])

/-- The texts of truth values. -/
def boolPattern : Pattern :=
  anyOf ["yes", "Yes", "YES", "no", "No", "NO", "true", "True", "TRUE", "false", "False", "FALSE",
    "on", "On", "ON", "off", "Off", "OFF"]

/-- The texts of binary fractions. -/
def floatPattern : Pattern := choice [
  sequence [sign, digit, digits, literal ".", digits, exponent],
  sequence [literal ".", digit, digits, exponent],
  sequence [sign, digit, digits, sixtieths, literal ".", digits],
  sequence [sign, literal ".", anyOf ["inf", "Inf", "INF"]],
  sequence [literal ".", anyOf ["nan", "NaN", "NAN"]]]

/-- The texts of whole numbers. -/
def intPattern : Pattern := choice [
  sequence [sign, literal "0b", many1 (oneOf "01_")],
  sequence [sign, literal "0", many1 (oneOf "01234567_")],
  sequence [sign, orElse (literal "0") (sequence [oneOf "123456789", digits])],
  sequence [sign, literal "0x", many1 (oneOf "0123456789abcdefABCDEF_")],
  sequence [sign, oneOf "123456789", digits, sixtieths]]

/-- The texts of nothing. -/
def nullPattern : Pattern := anyOf ["~", "null", "Null", "NULL", ""]

/-- Two digits. -/
def twoDigits : Pattern := sequence [digit, digit]

/-- One digit or two. -/
def upToTwoDigits : Pattern := sequence [digit, optional digit]

/-- Blanks between the parts of a timestamp. -/
def blank : Pattern := oneOf " \t"

/-- The texts of dates and times. -/
def timestampPattern : Pattern :=
  let year := sequence [digit, digit, digit, digit]
  let zone := orElse (literal "Z")
    (sequence [oneOf "-+", upToTwoDigits, optional (sequence [literal ":", twoDigits])])
  orElse (sequence [year, literal "-", twoDigits, literal "-", twoDigits, anchored .lastLineEnd])
    (sequence [year, literal "-", upToTwoDigits, literal "-", upToTwoDigits,
      orElse (oneOf "Tt") (many1 blank), upToTwoDigits, literal ":", twoDigits, literal ":",
      twoDigits, optional (sequence [literal ".", many digit]),
      optional (sequence [many blank, zone])])

/-- Whether a whole text is described by a pattern. -/
def isAll (pattern : Pattern) (text : List Char) : Bool :=
  (run (andThen pattern (anchored .lastLineEnd)) (.start text) some).isSome

/-- The kinds that a plain scalar may have: the characters that it may start with and the pattern of
its text. The first that fits counts. -/
def kinds : List (String × Pattern × Tag) := [
  ("yYnNtTfFoO", boolPattern, .bool),
  ("-+0123456789.", floatPattern, .float),
  ("-+0123456789", intPattern, .int),
  ("<", literal "<<", .merge),
  ("~nN", nullPattern, .null),
  ("0123456789", timestampPattern, .timestamp),
  ("=", literal "=", .value),
  ("!&*", oneOf "!&*", .unknown (standardHandle ++ "yaml"))]

/-- The kind that a plain scalar has by its text. -/
def resolve (text : List Char) : Tag :=
  match text with
  | [] => .null
  | c :: _ =>
    let fits (kind : String × Pattern × Tag) : Bool :=
      kind.1.toList.contains c && isAll kind.2.1 text
    ((kinds.find? fits).map (·.2.2)).getD .text

end Scalar

end OpcachePreload.Yaml
