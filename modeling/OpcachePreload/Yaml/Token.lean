import OpcachePreload.Yaml.Place
import OpcachePreload.Text.Utf8
import OpcachePreload.Text.Integer

/-!
# YAML tokens

The tokens of YAML and how each is taken off a text: names, tags and the scalars of all styles.
-/

namespace OpcachePreload.Yaml

/-- What a directive says. -/
inductive Directive where
  | version (major : Nat)
  | handle (handle expansion : String)
  | other
  deriving DecidableEq, Repr

/-- A token. -/
inductive Token where
  | directive (directive : Directive)
  | documentStart
  | documentEnd
  | blockSequenceStart
  | blockMappingStart
  | blockEnd
  | flowSequenceStart
  | flowMappingStart
  | flowSequenceEnd
  | flowMappingEnd
  | key
  | value
  | blockEntry
  | flowEntry
  | alias (name : String)
  | anchor (name : String)
  | tag (handle : Option String) (suffix : String)
  | scalar (text : String) (plain : Bool)
  deriving DecidableEq, Repr

/-- Taking something off the front of a text. -/
abbrev Scan (α : Type) := Place → Except Fault (α × Place)

/-! ## Names and tags -/

/-- The name of an anchor or alias, its indicator taken off. -/
def anchorName : Scan String := fun place =>
  let (name, after) := place.span isNameChar
  let closes := match after.peek with
    | some c => endsWord (some c) || "?:,]\x7d%@`".toList.contains c
    | none => true
  if name.isEmpty || !closes then place.reject .badName
  else .ok (String.ofList name, after)

/-- A handle of tags: an exclamation mark, or a name between two of them. -/
def tagHandle : Scan String := fun place =>
  if place.peek != some '!' then place.reject .badTag
  else if place.peek 1 == some ' ' then .ok ("!", place.forward 1)
  else
    let (name, after) := (place.forward 1).span isNameChar
    if after.peek != some '!' then place.reject .badTag
    else .ok (String.ofList ('!' :: name ++ ['!']), after.forward 1)

/-- A character of a tag that stands for itself. -/
def isUriChar (c : Char) : Bool :=
  isNameChar c || ";/?:@&=+$,.!~*'()[]".toList.contains c

/-- Bytes written by a percent sign and two hexadecimal digits each. -/
def uriBytes : (fuel : Nat) → Scan (List UInt8)
  | 0, place => .ok ([], place)
  | fuel + 1, place =>
    match place.ahead 3 with
    | ['%', a, b] =>
      match (Text.digitIn 16 a).bind fun a => (Text.digitIn 16 b).map fun b => 16 * a + b with
      | none => place.reject .badTag
      | some n => do
        let (bytes, after) ← uriBytes fuel (place.forward 3)
        return (UInt8.ofNat n :: bytes, after)
    | '%' :: _ => place.reject .badTag
    | _ => .ok ([], place)

/-- The characters of a tag from here on. -/
def uriFrom : (fuel : Nat) → Scan (List Char)
  | 0, place => .ok ([], place)
  | fuel + 1, place =>
    let (found, after) := place.span isUriChar
    if after.peek == some '%' then do
      let (bytes, after) ← uriBytes (after.rest.length + 1) after
      match Text.Utf8.decode bytes with
      | .error _ => place.reject .badTag
      | .ok text =>
        let (more, after) ← uriFrom fuel after
        return (found ++ text ++ more, after)
    else .ok (found, after)

/-- The characters of a tag, at least one. -/
def uri : Scan String := fun place => do
  let (text, after) ← uriFrom (place.rest.length + 1) place
  if after.index = place.index then place.reject .badTag else return (String.ofList text, after)

/-- A tag. -/
def tagToken : Scan Token := fun place => do
  let (token, after) ←
    if place.peek 1 == some '<' then do
      let (suffix, after) ← uri (place.forward 2)
      if after.peek != some '>' then place.reject .badTag
      else pure (Token.tag none suffix, after.forward 1)
    else if endsWord (place.peek 1) then pure (Token.tag none "!", place.forward 1)
    else do
      let word := (place.rest.drop 1).takeWhile fun c => !endsField (some c)
      let (handle, after) ←
        if word.contains '!' then tagHandle place else pure ("!", place.forward 1)
      let (suffix, after) ← uri after
      pure (Token.tag (some handle) suffix, after)
  if endsField after.peek then return (token, after) else place.reject .badTag

/-! ## Directives -/

/-- The rest of a line that may hold a comment only, and the line break. -/
def ignoredLine (problem : Problem) (place : Place) : Except Fault Place :=
  let place := place.skipSpaces.skipComment
  if endsLine place.peek then .ok place.lineBreak.2 else place.reject problem

/-- A number of a version. -/
def versionNumber : Scan Nat := fun place =>
  let (digits, after) := place.span Char.isDigit
  if Text.digitLimit < digits.length then .error (.tooManyDigits digits.length)
  else match Text.natural? 10 digits with
  | none => place.reject .badDirective
  | some n => .ok (n, after)

/-- A directive with its line. -/
def directiveToken : Scan Token := fun place => do
  let (name, place) := (place.forward 1).span isNameChar
  if name.isEmpty || !endsField place.peek then place.reject .badDirective
  let (directive, place) ←
    if name = "YAML".toList then do
      let (major, place) ← versionNumber place.skipSpaces
      if place.peek != some '.' then place.reject .badDirective
      let (_, place) ← versionNumber (place.forward 1)
      if endsField place.peek then pure (Directive.version major, place)
      else place.reject .badDirective
    else if name = "TAG".toList then do
      let (handle, place) ← tagHandle place.skipSpaces
      if place.peek != some ' ' then place.reject .badDirective
      let (expansion, place) ← uri place.skipSpaces
      if endsField place.peek then pure (Directive.handle handle expansion, place)
      else place.reject .badDirective
    else pure (Directive.other, (place.span fun c => !isBreak c).2)
  return (.directive directive, ← ignoredLine .badDirective place)

/-! ## Block scalars -/

/-- What becomes of the line breaks at the end of a block scalar. -/
inductive Chomping where
  | clip
  | strip
  | keep
  deriving DecidableEq, Repr

/-- The chomping that a sign asks for. -/
def chomping? : Option Char → Option Chomping
  | some '+' => some .keep
  | some '-' => some .strip
  | _ => none

/-- The indentation that a digit asks for. -/
def indentation? : Option Char → Option Nat
  | some c => if c.isDigit then some (c.toNat - '0'.toNat) else none
  | none => none

/-- The header of a block scalar, its indicator taken off: the sign and the digit in either order.
-/
def blockHeader : Scan (Chomping × Option Nat) := fun place => do
  let (chomping, increment, place) :=
    match chomping? place.peek with
    | some chomping =>
      let place := place.forward 1
      match indentation? place.peek with
      | some n => (chomping, some n, place.forward 1)
      | none => (chomping, none, place)
    | none =>
      match indentation? place.peek with
      | some n =>
        let place := place.forward 1
        match chomping? place.peek with
        | some chomping => (chomping, some n, place.forward 1)
        | none => (.clip, some n, place)
      | none => (.clip, none, place)
  if increment == some 0 || !endsField place.peek then place.reject .badBlockHeader
  else return ((chomping, increment), ← ignoredLine .badBlockHeader place)

/-- The place after the spaces at the front, up to a column. -/
def skipIndentation (column : Nat) (place : Place) : Place :=
  let spaces := (place.rest.takeWhile (· == ' ')).length
  place.forward (min spaces (column - place.column))

/-- The line breaks of empty lines at the front, and the greatest column of the spaces before the
first line that is not empty. -/
def leadingBreaks : (fuel : Nat) → (greatest : Nat) → Place → List Char × Nat × Place
  | 0, greatest, place => ([], greatest, place)
  | fuel + 1, greatest, place =>
    let place := place.skipSpaces
    let greatest := max greatest place.column
    if endsLine place.peek && place.peek.isSome then
      let (found, place) := place.lineBreak
      let (more, greatest, place) := leadingBreaks fuel greatest place
      (found ++ more, greatest, place)
    else ([], greatest, place)

/-- The line breaks of empty lines at the front, indented no further than a column. -/
def blockBreaks (column : Nat) : (fuel : Nat) → Place → List Char × Place
  | 0, place => ([], place)
  | fuel + 1, place =>
    let place := skipIndentation column place
    if endsLine place.peek && place.peek.isSome then
      let (found, place) := place.lineBreak
      let (more, place) := blockBreaks column fuel place
      (found ++ more, place)
    else ([], place)

/-- The lines of a block scalar at a column, after the line breaks `breaks`: the text, the line
break after it, and the line breaks of the empty lines that follow. -/
def blockLines (folded : Bool) (column : Nat) :
    (fuel : Nat) → (breaks : List Char) → Place → List Char × List Char × List Char × Place
  | 0, breaks, place => ([], [], breaks, place)
  | fuel + 1, breaks, place =>
    if place.column = column && place.peek.isSome then
      let isBlank (c : Option Char) : Bool := c == some ' ' || c == some '\t'
      let leading := isBlank place.peek
      let (line, place) := place.span fun c => !isBreak c
      let (lineBreak, place) := place.lineBreak
      let (following, place) := blockBreaks column (place.rest.length + 1) place
      if place.column = column && place.peek.isSome then
        let joint :=
          if folded && lineBreak == ['\n'] && !leading && !isBlank place.peek then
            if following.isEmpty then [' '] else []
          else lineBreak
        let (more, last, tail, place) := blockLines folded column fuel following place
        (breaks ++ line ++ joint ++ more, last, tail, place)
      else (breaks ++ line, lineBreak, following, place)
    else ([], [], breaks, place)

/-- A block scalar in a collection with the given indentation. -/
def blockScalar (indent : Int) (folded : Bool) : Scan Token := fun place => do
  let ((chomping, increment), place) ← blockHeader (place.forward 1)
  let least := max 1 (indent + 1).toNat
  let size := place.rest.length + 1
  let (breaks, column, place) :=
    match increment with
    | none =>
      let (breaks, greatest, place) := leadingBreaks size 0 place
      (breaks, max least greatest, place)
    | some n =>
      let column := least + n - 1
      let (breaks, place) := blockBreaks column size place
      (breaks, column, place)
  let (text, last, tail, place) := blockLines folded column size breaks place
  let ending := match chomping with
    | .strip => []
    | .clip => last
    | .keep => last ++ tail
  return (.scalar (String.ofList (text ++ ending)) false, place)

/-! ## Quoted scalars -/

/-- The character that a letter after a backslash stands for. -/
def escape? : Char → Option Char
  | '0' => some (Char.ofNat 0)
  | 'a' => some (Char.ofNat 7)
  | 'b' => some (Char.ofNat 8)
  | 't' => some '\t'
  | '\t' => some '\t'
  | 'n' => some '\n'
  | 'v' => some (Char.ofNat 11)
  | 'f' => some (Char.ofNat 12)
  | 'r' => some '\r'
  | 'e' => some (Char.ofNat 27)
  | ' ' => some ' '
  | '"' => some '"'
  | '\\' => some '\\'
  | '/' => some '/'
  | 'N' => some (Char.ofNat 0x85)
  | '_' => some (Char.ofNat 0xa0)
  | 'L' => some (Char.ofNat 0x2028)
  | 'P' => some (Char.ofNat 0x2029)
  | _ => none

/-- How many hexadecimal digits follow a letter after a backslash. -/
def codeDigits? : Char → Option Nat
  | 'x' => some 2
  | 'u' => some 4
  | 'U' => some 8
  | _ => none

/-- The character with a code; a lone surrogate is replaced. -/
def codeChar (code : Nat) : Except Fault Char :=
  if code < 0x110000 then .ok (if code.isValidChar then Char.ofNat code else Char.ofNat 0xfffd)
  else .error (.codePoint (decide (0x80000000 ≤ code)))

/-- The line breaks of empty lines at the front and the blanks around them. -/
def quotedBreaks : (fuel : Nat) → Scan (List Char)
  | 0, place => .ok ([], place)
  | fuel + 1, place =>
    if place.isSeparator then place.reject .documentSeparator
    else
      let place := (place.span fun c => c == ' ' || c == '\t').2
      if endsLine place.peek && place.peek.isSome then do
        let (found, place) := place.lineBreak
        let (more, place) ← quotedBreaks fuel place
        return (found ++ more, place)
      else .ok ([], place)

/-- Blanks and line breaks inside a quoted scalar: a line break is a space, and of several the first
is left out. -/
def quotedBlanks : Scan (List Char) := fun place => do
  let (blanks, place) := place.span fun c => c == ' ' || c == '\t'
  match place.peek with
  | none => place.reject .unexpectedEnd
  | some c =>
    if isBreak c then
      let (lineBreak, place) := place.lineBreak
      let (breaks, place) ← quotedBreaks (place.rest.length + 1) place
      let joint :=
        if lineBreak != ['\n'] then lineBreak else if breaks.isEmpty then [' '] else []
      return (joint ++ breaks, place)
    else return (blanks, place)

/-- An escape, its backslash taken off. -/
def quotedEscape : Scan (List Char) := fun place =>
  match place.peek with
  | none => place.reject .badEscape
  | some c =>
    match escape? c, codeDigits? c with
    | some d, _ => .ok ([d], place.forward 1)
    | none, some n =>
      let digits := (place.forward 1).ahead n
      let values := digits.map fun d => if d.toNat < 0x80 then Text.digitIn 16 d else none
      if digits.length < n || values.any Option.isNone then place.reject .badEscape
      else do
        let code := values.foldl (fun code d => 16 * code + d.getD 0) 0
        return ([← codeChar code], place.forward (n + 1))
    | none, none =>
      if isBreak c then
        let place := place.lineBreak.2
        quotedBreaks (place.rest.length + 1) place
      else place.reject .badEscape

/-- A character that means nothing special inside quotes. -/
def isOrdinary (c : Char) : Bool :=
  !(c == '\'' || c == '"' || c == '\\' || endsWord (some c))

/-- The text of a quoted scalar up to its closing quote. -/
def quotedText (double : Bool) : (fuel : Nat) → Scan (List Char)
  | 0, place => place.reject .unexpectedEnd
  | fuel + 1, place => do
    let quote := if double then '"' else '\''
    let goOn (found : List Char) (place : Place) : Except Fault (List Char × Place) := do
      let (more, place) ← quotedText double fuel place
      return (found ++ more, place)
    match place.peek with
    | none => place.reject .unexpectedEnd
    | some c =>
      if isOrdinary c then
        let (found, place) := place.span isOrdinary
        goOn found place
      else if endsWord (some c) then
        let (found, place) ← quotedBlanks place
        goOn found place
      else if !double && c == '\'' && place.peek 1 == some '\'' then
        goOn ['\''] (place.forward 2)
      else if c == quote then return ([], place.forward 1)
      else if double && c == '\\' then
        let (found, place) ← quotedEscape (place.forward 1)
        goOn found place
      else goOn [c] (place.forward 1)

/-- A quoted scalar. -/
def quotedScalar (double : Bool) : Scan Token := fun place => do
  let (text, place) ← quotedText double (place.rest.length + 1) (place.forward 1)
  return (.scalar (String.ofList text) false, place)

/-! ## Plain scalars -/

/-- Whether a plain scalar ends before the character at the front. -/
def endsPlain (inFlow : Bool) : List Char → Bool
  | [] => true
  | ':' :: rest =>
    endsWord rest.head? || (inFlow && rest.head?.any fun c => ",[]\x7b\x7d".toList.contains c)
  | c :: _ => endsWord (some c) || (inFlow && ",?[]\x7b\x7d".toList.contains c)

/-- How many characters of a plain scalar stand at the front without a blank. -/
def plainLength (inFlow : Bool) : List Char → Nat
  | [] => 0
  | c :: rest => if endsPlain inFlow (c :: rest) then 0 else plainLength inFlow rest + 1

/-- The line breaks of empty lines at the front and the spaces around them; nothing if a separator
of documents is met. -/
def plainBreaks : (fuel : Nat) → Place → Option (List Char) × Place
  | 0, place => (some [], place)
  | fuel + 1, place =>
    let place := place.skipSpaces
    if endsLine place.peek && place.peek.isSome then
      let (found, place) := place.lineBreak
      if place.isSeparator then (none, place)
      else
        let (more, place) := plainBreaks fuel place
        (more.map (found ++ ·), place)
    else (some [], place)

/-- Spaces and line breaks inside a plain scalar, empty if the scalar ends here, and whether a line
break was among them. -/
def plainBlanks (place : Place) : List Char × Bool × Place :=
  let (blanks, place) := place.span (· == ' ')
  if endsLine place.peek && place.peek.isSome then
    let (lineBreak, place) := place.lineBreak
    if place.isSeparator then ([], true, place)
    else
      match plainBreaks (place.rest.length + 1) place with
      | (none, place) => ([], true, place)
      | (some breaks, place) =>
        let joint :=
          if lineBreak != ['\n'] then lineBreak else if breaks.isEmpty then [' '] else []
        (joint ++ breaks, true, place)
  else (blanks, false, place)

/-- The text of a plain scalar after the blanks `blanks`, whether a line break stands right after
it, and the place after that. -/
def plainText (indent : Int) (inFlow : Bool) :
    (fuel : Nat) → (blanks : List Char) → (broken : Bool) → Place → List Char × Bool × Place
  | 0, _, broken, place => ([], broken, place)
  | fuel + 1, blanks, broken, place =>
    let length := if place.peek == some '#' then 0 else plainLength inFlow place.rest
    if length = 0 then ([], broken, place)
    else
      let word := place.ahead length
      let (spaces, broken, after) := plainBlanks (place.forward length)
      if spaces.isEmpty || after.peek == some '#' ||
          (!inFlow && (after.column : Int) < indent + 1) then
        (blanks ++ word, broken, after)
      else
        let (more, broken, after) := plainText indent inFlow fuel spaces broken after
        (blanks ++ word ++ more, broken, after)

end OpcachePreload.Yaml
