import OpcachePreload.Environment
import OpcachePreload.Pattern.Basic
import OpcachePreload.Text.Split

/-!
# Files of variables

A file of variables has one binding a line: a name, and after an equals sign a value, which may be
quoted and then go on over lines. Lines that are no bindings are passed over. Values may refer to
the environment and to the variables before them, with a default for what is not set.
-/

namespace OpcachePreload.Settings.VariableFile

open Pattern

/-- A binding: a name with its value, if it has one. -/
structure Binding where
  name : String
  value : Option String
  deriving DecidableEq, Repr

/-! ## Reading -/

/-- A blank that does not end a line. -/
def isLineBlank (c : Char) : Bool := Text.isBlank c && c != '\n' && c != '\r'

/-- What follows the blanks at the front, in the same line. -/
def skipBlanks (text : List Char) : List Char := text.dropWhile isLineBlank

/-- What follows the end of the line, if only blanks and a comment come before it. -/
def endOfLine? (text : List Char) : Option (List Char) :=
  let text := skipBlanks text
  let text := if text.head? = some '#' then text.dropWhile (· != '\n') else text
  match text with
  | [] => some []
  | '\n' :: rest => some rest
  | _ => none

/-- What follows the line. -/
def restOfLine (text : List Char) : List Char := (text.dropWhile (· != '\n')).drop 1

/-- What follows the word that marks a binding for export. -/
def skipExport (text : List Char) : List Char :=
  let word := "export".toList
  let rest := text.drop word.length
  if word.isPrefixOf text && rest.head?.any isLineBlank then skipBlanks rest else text

/-- Read a name; nothing where a comment starts. The second part is none where there is no name. -/
def name? (text : List Char) : Option (Option (List Char) × List Char) :=
  match text with
  | '#' :: _ => some (none, text)
  | '\'' :: rest =>
    let name := rest.takeWhile (· != '\'')
    let after := rest.drop name.length
    if name.isEmpty || after.isEmpty then none else some (some name, after.drop 1)
  | _ =>
    let name := text.takeWhile fun c => c != '=' && c != '#' && !Text.isBlank c
    if name.isEmpty then none else some (some name, text.drop name.length)

/-- A value between quotes of a kind; a backslash keeps a quote from ending it. -/
def quotedValue (quote : Char) : Pattern :=
  sequence [one (.single quote),
    group 1 (many (orElse (andThen (literal "\\") (one (.single quote))) (one (.except [quote])))),
    one (.single quote)]

/-- The character that a letter after a backslash stands for between double quotes. -/
def escaped? : Char → Option Char
  | '\\' => some '\\'
  | '\'' => some '\''
  | '"' => some '"'
  | 'a' => some (Char.ofNat 7)
  | 'b' => some (Char.ofNat 8)
  | 'f' => some (Char.ofNat 12)
  | 'n' => some '\n'
  | 'r' => some '\r'
  | 't' => some '\t'
  | 'v' => some (Char.ofNat 11)
  | _ => none

/-- Replace escapes; those that stand for nothing stay as they are written. -/
def unescape (escaped : Char → Option Char) : List Char → List Char
  | '\\' :: c :: rest =>
    match escaped c with
    | some d => d :: unescape escaped rest
    | none => '\\' :: unescape escaped (c :: rest)
  | c :: rest => c :: unescape escaped rest
  | [] => []

/-- Read a quoted value. -/
def quoted? (quote : Char) (escaped : Char → Option Char) (text : List Char) :
    Option (List Char × List Char) :=
  (matchAt (quotedValue quote) false (.start text)).map fun found =>
    (unescape escaped ((found.capture? 1).getD []), found.last.after)

/-- A comment in the line of a value that is not quoted. -/
def comment : Pattern :=
  sequence [many1 (one { members := [.category .blank false true] }), literal "#"]

/-- A value that is not quoted, without the comment and the blanks at its end. -/
def bareValue (line : List Char) : List Char :=
  let value := match find? comment line with
    | some found => line.take found.first.position
    | none => line
  Text.trimEnd value

/-- Read the value after an equals sign and blanks. -/
def value? (text : List Char) : Option (List Char × List Char) :=
  match text with
  | [] => some ([], [])
  | '\n' :: _ => some ([], text)
  | '\'' :: _ => quoted? '\'' (fun c => (escaped? c).filter fun d => d = '\\' || d = '\'') text
  | '"' :: _ => quoted? '"' escaped? text
  | _ =>
    let line := text.takeWhile (· != '\n')
    some (bareValue line, text.drop line.length)

/-- What reading a binding gives: the binding, if there is one, and what follows its line. -/
structure Reading where
  binding : Option Binding
  rest : List Char

/-- A line that is passed over. -/
def passOver (text : List Char) : Reading := ⟨none, restOfLine text⟩

/-- Read the binding at the front, blank lines before it left out. -/
def binding (text : List Char) : Reading :=
  let text := Text.trimStart text
  if text.isEmpty then ⟨none, []⟩
  else
    let text := skipExport text
    match name? text with
    | none => passOver text
    | some (name, rest) =>
      let rest := skipBlanks rest
      let finish (value : Option (List Char)) (rest : List Char) : Reading :=
        match endOfLine? rest with
        | none => passOver rest
        | some after =>
          ⟨name.map fun name => ⟨String.ofList name, value.map String.ofList⟩, after⟩
      match rest with
      | '=' :: rest =>
        let rest := skipBlanks rest
        match value? rest with
        | none => passOver rest
        | some (value, rest) => finish (some value) rest
      | _ => finish none rest

/-- Read bindings up to the end of the text. -/
def bindingsFrom : (fuel : Nat) → List Char → List Binding
  | 0, _ => []
  | fuel + 1, text =>
    if text.isEmpty then []
    else
      let reading := binding text
      reading.binding.toList ++ bindingsFrom fuel reading.rest

/-- The bindings of a text. -/
def bindings (text : String) : List Binding :=
  bindingsFrom (text.toList.length + 1) text.toList

/-! ## References -/

/-- A reference to a variable, with a default. -/
structure Reference where
  name : List Char
  default : List Char
  /-- How many characters it is written with, the dollar sign left out. -/
  width : Nat

/-- The reference that follows a dollar sign. -/
def reference? : List Char → Option Reference
  | '\x7b' :: rest =>
    let name := rest.takeWhile fun c => c != '\x7d' && c != ':'
    match rest.drop name.length with
    | '\x7d' :: _ => some ⟨name, [], name.length + 2⟩
    | ':' :: '-' :: more =>
      let default := more.takeWhile (· != '\x7d')
      if default.length < more.length then
        some ⟨name, default, name.length + default.length + 4⟩
      else none
    | _ => none
  | _ => none

/-- Replace references in what follows `skip` characters that have been dealt with. -/
def resolveFrom (value : String → Option String) (skip : Nat) : List Char → List Char
  | [] => []
  | c :: rest =>
    match skip with
    | skip + 1 => resolveFrom value skip rest
    | 0 =>
      match if c = '$' then reference? rest else none with
      | none => c :: resolveFrom value 0 rest
      | some reference =>
        ((value (String.ofList reference.name)).map String.toList).getD reference.default ++
          resolveFrom value reference.width rest

/-- The value of a name: that of the variables so far if they have it, else that of the environment.
A variable without a value is empty. -/
def valueOf (env : Environment) (soFar : OrderedMap String (Option String)) (name : String) :
    Option String :=
  match soFar.get? name with
  | some value => some (value.getD "")
  | none => env.get? name

/-- The variables that bindings make: of several bindings of a name the last counts. -/
def resolve (env : Environment) (bindings : List Binding) : OrderedMap String (Option String) :=
  bindings.foldl (fun soFar binding =>
    let value := binding.value.map fun text =>
      String.ofList (resolveFrom (valueOf env soFar) 0 text.toList)
    soFar.insert binding.name value) .empty

/-- The variables of the text of a file. -/
def read (env : Environment) (text : String) : OrderedMap String (Option String) :=
  resolve env (bindings text)

end OpcachePreload.Settings.VariableFile
