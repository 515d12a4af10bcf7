import OpcachePreload.Json.Fault
import OpcachePreload.Value.Basic
import OpcachePreload.Decimal.Text
import OpcachePreload.Text.Integer

/-!
# Reading JSON

A reader takes a value off the front of a text and returns what is left, or stops: where it stops is
told by how much is left there. A name that an object repeats keeps its first place and takes its
last value. The names `NaN`, `Infinity` and `-Infinity` are numbers here. Arrays and objects may be
nested to any depth: nothing stands here for a stack that could be used up.
-/

namespace OpcachePreload.Json

/-- Where and why reading stops: how many characters are left there. -/
inductive Stop where
  | problem (problem : Problem) (left : Nat)
  | tooManyDigits (digits : Nat)
  deriving DecidableEq, Repr

/-- Taking something off the front of a text. -/
abbrev Reader (α : Type) := List Char → Except Stop (α × List Char)

/-- The blanks of JSON. -/
def isBlank (c : Char) : Bool :=
  c == ' ' || c == '\t' || c == '\n' || c == '\r'

/-- What follows the blanks at the front. -/
def skipBlanks (text : List Char) : List Char := text.dropWhile isBlank

/-! ## Strings -/

/-- The value of a hexadecimal digit. -/
def hexValue? (c : Char) : Option Nat :=
  if c.toNat < 0x80 then Text.digitIn 16 c else none

/-- The code that four hexadecimal digits at the front write. -/
def hexCode? : List Char → Option (Nat × List Char)
  | a :: b :: c :: d :: rest => do
    let a ← hexValue? a
    let b ← hexValue? b
    let c ← hexValue? c
    let d ← hexValue? d
    return (((a * 16 + b) * 16 + c) * 16 + d, rest)
  | _ => none

/-- The character that a letter after a backslash stands for. -/
def simpleEscape? : Char → Option Char
  | '"' => some '"'
  | '\\' => some '\\'
  | '/' => some '/'
  | 'b' => some (Char.ofNat 8)
  | 'f' => some (Char.ofNat 12)
  | 'n' => some '\n'
  | 'r' => some '\r'
  | 't' => some '\t'
  | _ => none

/-- The first half of a pair of surrogates. -/
def isHighSurrogate (n : Nat) : Bool := 0xd800 ≤ n && n ≤ 0xdbff

/-- The second half of a pair of surrogates. -/
def isLowSurrogate (n : Nat) : Bool := 0xdc00 ≤ n && n ≤ 0xdfff

/-- The code point of a pair of surrogates. -/
def joinSurrogates (high low : Nat) : Nat :=
  0x10000 + (high - 0xd800) * 0x400 + (low - 0xdc00)

/-- The code point that an escape by code writes, its letter taken off. A high half takes the low
half along if that is written right after it and the string goes on. -/
def codeEscape (text : List Char) : Except Stop (Nat × List Char) :=
  let bad {α : Type} (left : Nat) : Except Stop α := .error (.problem .badCodeEscape left)
  if text.length ≤ 4 then bad (text.length + 1)
  else match hexCode? text with
    | none => bad (text.length + 1)
    | some (code, rest) =>
      if isHighSurrogate code then
        match rest with
        | '\\' :: 'u' :: second =>
          if second.length ≤ 4 then .ok (code, rest)
          else match hexCode? second with
            | none => bad (second.length + 1)
            | some (low, after) =>
              if isLowSurrogate low then .ok (joinSurrogates code low, after) else .ok (code, rest)
        | _ => .ok (code, rest)
      else .ok (code, rest)

/-- Read the characters of a string up to its closing quote. `start` is how much was left where the
string starts. -/
def stringFrom (start : Nat) : (fuel : Nat) → Reader (List Nat)
  | 0, _ => .error (.problem .unterminatedString start)
  | _ + 1, [] => .error (.problem .unterminatedString start)
  | fuel + 1, c :: rest =>
    if c = '"' then .ok ([], rest)
    else if c = '\\' then
      match rest with
      | [] => .error (.problem .unterminatedString start)
      | 'u' :: rest => do
        let (code, rest) ← codeEscape rest
        let (codes, rest) ← stringFrom start fuel rest
        return (code :: codes, rest)
      | e :: rest =>
        match simpleEscape? e with
        | none => .error (.problem .badEscape (rest.length + 2))
        | some c => do
          let (codes, rest) ← stringFrom start fuel rest
          return (c.toNat :: codes, rest)
    else if c.toNat ≤ 0x1f then .error (.problem .controlCharacter (rest.length + 1))
    else do
      let (codes, rest) ← stringFrom start fuel rest
      return (c.toNat :: codes, rest)

/-- Read a string, its opening quote taken off. -/
def stringAfterQuote : Reader (List Nat) := fun text =>
  stringFrom (text.length + 1) (text.length + 1) text

/-- The value of some code points: a text unless some are lone surrogates. -/
def textOfCodes (codes : List Nat) : Value :=
  if codes.all (·.isValidChar) then .text (String.ofList (codes.map Char.ofNat)) else .codes codes

/-! ## Numbers -/

/-- The ASCII digits at the front, and what follows them. -/
def digitsAtFront (text : List Char) : List Char × List Char :=
  (text.takeWhile Char.isDigit, text.dropWhile Char.isDigit)

/-- The digits of a whole number at the front: a zero, or digits that do not start with one. -/
def wholeAtFront : List Char → List Char × List Char
  | '0' :: rest => (['0'], rest)
  | text => digitsAtFront text

/-- The fraction at the front: nothing unless a digit follows the point. -/
def fractionAtFront (text : List Char) : List Char × List Char :=
  match text with
  | '.' :: rest =>
    let (digits, after) := digitsAtFront rest
    if digits.isEmpty then ([], text) else (digits, after)
  | _ => ([], text)

/-- The exponent at the front: nothing unless it has a digit. -/
def exponentAtFront (text : List Char) : Option Int × List Char :=
  let unsigned (negative : Bool) (rest : List Char) : Option Int × List Char :=
    let (digits, after) := digitsAtFront rest
    if digits.isEmpty then (none, text)
    else
      let size : Int := (Text.natural? 10 digits).getD 0
      (some (if negative then -size else size), after)
  match text with
  | e :: rest =>
    if e = 'e' || e = 'E' then
      match rest with
      | '-' :: rest => unsigned true rest
      | '+' :: rest => unsigned false rest
      | _ => unsigned false rest
    else (none, text)
  | [] => (none, text)

/-- Read a number. It is whole if it has neither fraction nor exponent. -/
def number : Reader Value := fun text =>
  let (negative, rest) := match text with
    | '-' :: rest => (true, rest)
    | _ => (false, text)
  let (whole, rest) := wholeAtFront rest
  if whole.isEmpty then .error (.problem .expectingValue text.length)
  else
    let (fraction, rest) := fractionAtFront rest
    let (exponent, rest) := exponentAtFront rest
    if fraction.isEmpty && exponent.isNone then
      if Text.digitLimit < whole.length then .error (.tooManyDigits whole.length)
      else
        let size : Int := (Text.natural? 10 whole).getD 0
        .ok (.int (if negative then -size else size), rest)
    else
      let digits := (Text.natural? 10 (whole ++ fraction)).getD 0
      let size := Decimal.nearest digits (exponent.getD 0 - fraction.length)
      .ok (.float (if negative then -size else size), rest)

/-! ## Values -/

/-- The values that are written as a name. -/
def names : List (List Char × Value) := [
  ("null".toList, .null),
  ("true".toList, .bool true),
  ("false".toList, .bool false),
  ("NaN".toList, .float (0 / 0)),
  ("Infinity".toList, .float (1 / 0)),
  ("-Infinity".toList, .float (-1 / 0))]

/-- The value whose name is at the front. -/
def name? (text : List Char) : Option (Value × List Char) :=
  (names.find? fun entry => entry.1.isPrefixOf text).map fun entry =>
    (entry.2, text.drop entry.1.length)

mutual

/-- Read a value. -/
def value : (fuel : Nat) → Reader Value
  | 0, text => .error (.problem .expectingValue text.length)
  | fuel + 1, text =>
    match text with
    | '"' :: rest => do
      let (codes, rest) ← stringAfterQuote rest
      return (textOfCodes codes, rest)
    | '\x7b' :: rest => do
      match skipBlanks rest with
      | '\x7d' :: rest => return (.mapping [], rest)
      | rest =>
        let (entries, rest) ← members fuel [] rest
        return (.mapping entries, rest)
    | '[' :: rest => do
      match skipBlanks rest with
      | ']' :: rest => return (.list [], rest)
      | rest =>
        let (items, rest) ← elements fuel rest
        return (.list items, rest)
    | _ =>
      match name? text with
      | some found => .ok found
      | none => number text

/-- Read the elements of an array, at least one, and its closing bracket. -/
def elements : (fuel : Nat) → Reader (List Value)
  | 0, text => .error (.problem .expectingValue text.length)
  | fuel + 1, text => do
    let (item, rest) ← value fuel text
    match skipBlanks rest with
    | ']' :: rest => return ([item], rest)
    | ',' :: rest =>
      let (items, rest) ← elements fuel (skipBlanks rest)
      return (item :: items, rest)
    | rest => throw (.problem .expectingComma rest.length)

/-- Read the members of an object, at least one, after those in `soFar`, and its closing brace. -/
def members : (fuel : Nat) → (soFar : List (Value × Value)) → Reader (List (Value × Value))
  | 0, _, text => .error (.problem .expectingName text.length)
  | fuel + 1, soFar, text =>
    match text with
    | '"' :: rest => do
      let (codes, rest) ← stringAfterQuote rest
      match skipBlanks rest with
      | ':' :: rest =>
        let (item, rest) ← value fuel (skipBlanks rest)
        let entries := Value.assign (textOfCodes codes) item soFar
        match skipBlanks rest with
        | '\x7d' :: rest => return (entries, rest)
        | ',' :: rest => members fuel entries (skipBlanks rest)
        | rest => throw (.problem .expectingComma rest.length)
      | rest => throw (.problem .expectingColon rest.length)
    | _ => .error (.problem .expectingName text.length)

end

/-- The fault that a stop is in a text. -/
def Stop.fault (text : List Char) : Stop → Fault
  | problem why left =>
    let position := text.length - left
    .malformed why position (Text.lineOf text position) (Text.columnOf text position)
  | tooManyDigits digits => .tooManyDigits digits

/-- Read a text that is one value, with blanks around it. -/
def document (text : List Char) : Except Stop Value :=
  if text.head? = some (Char.ofNat 0xfeff) then .error (.problem .byteOrderMark text.length)
  else do
    let start := skipBlanks text
    let (found, rest) ← value (2 * start.length + 2) start
    match skipBlanks rest with
    | [] => return found
    | rest => throw (.problem .extraData rest.length)

/-- Read a JSON text. -/
def read (text : String) : Except Fault Value :=
  (document text.toList).mapError (Stop.fault text.toList)

end OpcachePreload.Json
