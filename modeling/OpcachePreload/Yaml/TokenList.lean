import OpcachePreload.Yaml.Token

/-!
# The tokens of a YAML text

Whether a scalar is a key is known only when a colon follows it. So the place of every token that
may start a key is remembered, one for each level of brackets, and the tokens that announce a key
are put there afterwards. Indentation opens and closes collections outside brackets. A fault ends
the tokens, and is noticed only where one of those that it keeps back is needed.
-/

namespace OpcachePreload.Yaml

/-- A token that may turn out to start a key: how many tokens precede it, whether it has to be a
key, and where it stands. -/
structure PossibleKey where
  tokens : Nat
  required : Bool
  index : Nat
  line : Nat
  column : Nat
  deriving DecidableEq, Repr

/-- How far apart a key and its colon may be. -/
def keyLimit : Nat := 1024

/-- The state of taking tokens off a text. `indent` is the column of the innermost block collection
and `indents` those around it; `keyAllowed` tells whether a key may start here; `keys` holds the
possible keys by level of brackets. -/
structure Scanner where
  place : Place
  tokens : Array Token := #[]
  level : Nat := 0
  indent : Int := -1
  indents : List Int := []
  keyAllowed : Bool := true
  keys : List (Nat × PossibleKey) := []

namespace Scanner

/-- Add a token. -/
def push (scanner : Scanner) (token : Token) : Scanner :=
  { scanner with tokens := scanner.tokens.push token }

/-- The possible key at this level of brackets. -/
def key? (scanner : Scanner) : Option PossibleKey :=
  (scanner.keys.find? (·.1 == scanner.level)).map Prod.snd

/-- Forget the possible key at this level of brackets. -/
def forgetKey (scanner : Scanner) : Scanner :=
  { scanner with keys := scanner.keys.filter (·.1 != scanner.level) }

/-- Give up the possible key at this level, which must not be one that has to be a key. -/
def dropKey (scanner : Scanner) : Except Fault Scanner :=
  if scanner.key?.any (·.required) then scanner.place.reject .keyWithoutColon
  else .ok scanner.forgetKey

/-- Whether a possible key is too far away or on another line. -/
def isStale (scanner : Scanner) (key : PossibleKey) : Bool :=
  key.line != scanner.place.line || keyLimit < scanner.place.index - key.index

/-- The possible keys that still are. -/
def freshKeys (scanner : Scanner) : List (Nat × PossibleKey) :=
  scanner.keys.filter fun entry => !scanner.isStale entry.2

/-- Give up the possible keys that are too far away or on another line. -/
def dropStaleKeys (scanner : Scanner) : Except Fault Scanner :=
  if scanner.keys.any fun entry => scanner.isStale entry.2 && entry.2.required then
    scanner.place.reject .keyWithoutColon
  else .ok { scanner with keys := scanner.freshKeys }

/-- The tokens that precede every possible key. Only these can be used before another one is taken.
-/
def settledTokens (scanner : Scanner) : List Token :=
  let size := (scanner.freshKeys.map (·.2.tokens)).foldl min scanner.tokens.size
  scanner.tokens.toList.take size

/-- Remember that the next token may start a key. -/
def saveKey (scanner : Scanner) : Except Fault Scanner :=
  if scanner.keyAllowed then do
    let required := scanner.level == 0 && scanner.indent == (scanner.place.column : Int)
    let scanner ← scanner.dropKey
    let key : PossibleKey := ⟨scanner.tokens.size, required, scanner.place.index,
      scanner.place.line, scanner.place.column⟩
    return { scanner with keys := scanner.keys ++ [(scanner.level, key)] }
  else .ok scanner

/-- Close the block collections that are indented further than a column. -/
def unwindFrom (column : Int) : (indents : List Int) → Scanner → Scanner
  | [], scanner => scanner
  | outer :: indents, scanner =>
    if column < scanner.indent then
      unwindFrom column indents
        { scanner.push .blockEnd with indent := outer, indents }
    else scanner

/-- Close the block collections that are indented further than a column; none inside brackets. -/
def unwind (scanner : Scanner) (column : Int) : Scanner :=
  if scanner.level = 0 then unwindFrom column scanner.indents scanner else scanner

/-- Indent to a column if it is further right, which opens a block collection. -/
def indentTo (scanner : Scanner) (column : Nat) : Option Scanner :=
  if scanner.indent < (column : Int) then
    some { scanner with indent := column, indents := scanner.indent :: scanner.indents }
  else none

/-- Skip spaces, comments and line breaks. After a line break outside brackets a key may start. -/
def skipBlanks : (fuel : Nat) → Scanner → Scanner
  | 0, scanner => scanner
  | fuel + 1, scanner =>
    let place := scanner.place.skipSpaces.skipComment
    if place.peek.any isBreak then
      skipBlanks fuel { scanner with
        place := place.lineBreak.2
        keyAllowed := scanner.keyAllowed || scanner.level == 0 }
    else { scanner with place }

/-- Skip a byte order mark at the start of the text. -/
def skipMark (scanner : Scanner) : Scanner :=
  if scanner.place.index = 0 && scanner.place.peek == some (Char.ofNat 0xfeff) then
    { scanner with place := scanner.place.forward 1 }
  else scanner

/-- Add a token that is `length` characters long. -/
def take (scanner : Scanner) (token : Token) (length : Nat) : Scanner :=
  { scanner.push token with place := scanner.place.forward length }

/-- Add a token that some scan takes off the text. -/
def takeScan (scanner : Scanner) (scan : Scan Token) : Except Fault Scanner := do
  let (token, place) ← scan scanner.place
  return { scanner.push token with place }

/-! ## One token -/

/-- End all block collections before a directive or a separator of documents. -/
def startLine (scanner : Scanner) : Except Fault Scanner := do
  let scanner ← (scanner.unwind (-1)).dropKey
  return { scanner with keyAllowed := false }

/-- An opening bracket or brace. -/
def openFlow (scanner : Scanner) (token : Token) : Except Fault Scanner := do
  let scanner ← scanner.saveKey
  return { scanner.take token 1 with level := scanner.level + 1, keyAllowed := true }

/-- A closing bracket or brace. -/
def closeFlow (scanner : Scanner) (token : Token) : Except Fault Scanner := do
  let scanner ← scanner.dropKey
  if scanner.level = 0 then scanner.place.reject .unmatchedBracket
  else return { scanner.take token 1 with level := scanner.level - 1, keyAllowed := false }

/-- A comma inside brackets. -/
def flowEntry (scanner : Scanner) : Except Fault Scanner := do
  let scanner ← scanner.dropKey
  return { scanner.take .flowEntry 1 with keyAllowed := true }

/-- A dash before an entry of a block sequence. -/
def blockEntry (scanner : Scanner) : Except Fault Scanner := do
  let scanner ←
    if scanner.level = 0 then
      if !scanner.keyAllowed then scanner.place.reject .entryNotAllowed
      else match scanner.indentTo scanner.place.column with
        | some scanner => pure (scanner.push .blockSequenceStart)
        | none => pure scanner
    else pure scanner
  let scanner ← scanner.dropKey
  return { scanner.take .blockEntry 1 with keyAllowed := true }

/-- A question mark before a key. -/
def explicitKey (scanner : Scanner) : Except Fault Scanner := do
  let scanner ←
    if scanner.level = 0 then
      if !scanner.keyAllowed then scanner.place.reject .keyNotAllowed
      else match scanner.indentTo scanner.place.column with
        | some scanner => pure (scanner.push .blockMappingStart)
        | none => pure scanner
    else pure scanner
  let scanner ← { scanner with keyAllowed := scanner.level == 0 }.dropKey
  return scanner.take .key 1

/-- A colon before a value. If a possible key precedes it, it is one. -/
def valueMark (scanner : Scanner) : Except Fault Scanner := do
  match scanner.key? with
  | some key =>
    let scanner := { scanner.forgetKey with
      tokens := scanner.tokens.insertIdxIfInBounds key.tokens .key
      keyAllowed := false }
    let scanner :=
      if scanner.level = 0 then
        match scanner.indentTo key.column with
        | some scanner => { scanner with
            tokens := scanner.tokens.insertIdxIfInBounds key.tokens .blockMappingStart }
        | none => scanner
      else scanner
    return scanner.take .value 1
  | none =>
    let scanner ←
      if scanner.level = 0 then
        if !scanner.keyAllowed then scanner.place.reject .valueNotAllowed
        else match scanner.indentTo scanner.place.column with
          | some scanner => pure (scanner.push .blockMappingStart)
          | none => pure scanner
      else pure scanner
    let scanner ← { scanner with keyAllowed := scanner.level == 0 }.dropKey
    return scanner.take .value 1

/-- A token that may start a key and is not followed by one. -/
def inlineToken (scanner : Scanner) (scan : Scan Token) : Except Fault Scanner := do
  let scanner ← scanner.saveKey
  { scanner with keyAllowed := false }.takeScan scan

/-- A block scalar. A key may follow it. -/
def blockToken (scanner : Scanner) (folded : Bool) : Except Fault Scanner := do
  let scanner ← { scanner with keyAllowed := true }.dropKey
  scanner.takeScan (blockScalar scanner.indent folded)

/-- A plain scalar. A key may follow it if a line break does. -/
def plainToken (scanner : Scanner) : Except Fault Scanner := do
  let scanner ← scanner.saveKey
  let place := scanner.place
  let (text, broken, place) :=
    plainText scanner.indent (scanner.level != 0) (place.rest.length + 1) [] false place
  return { scanner.push (.scalar (String.ofList text) true) with place, keyAllowed := broken }

/-- Whether a plain scalar may start here. -/
def startsPlain (scanner : Scanner) (c : Char) : Bool :=
  let special := "-?:,[]\x7b\x7d#&*!|>'\"%@\x60".toList
  !(endsWord (some c) || special.contains c) ||
    (!endsWord (scanner.place.peek 1) &&
      (c == '-' || (scanner.level == 0 && (c == '?' || c == ':'))))

/-- Whether three characters at the start of a line separate documents. -/
def isSeparatorOf (scanner : Scanner) (c : Char) : Bool :=
  scanner.place.column == 0 && scanner.place.ahead 3 == [c, c, c] &&
    endsWord (scanner.place.peek 3)

/-- Take the token that starts with `c`. -/
def takeToken (scanner : Scanner) (c : Char) : Except Fault Scanner := do
  let inFlow := scanner.level != 0
  let alone := endsWord (scanner.place.peek 1)
  if c == '%' && scanner.place.column == 0 then (← scanner.startLine).takeScan directiveToken
  else if scanner.isSeparatorOf '-' then return (← scanner.startLine).take .documentStart 3
  else if scanner.isSeparatorOf '.' then return (← scanner.startLine).take .documentEnd 3
  else if c == '[' then scanner.openFlow .flowSequenceStart
  else if c == '\x7b' then scanner.openFlow .flowMappingStart
  else if c == ']' then scanner.closeFlow .flowSequenceEnd
  else if c == '\x7d' then scanner.closeFlow .flowMappingEnd
  else if c == ',' then scanner.flowEntry
  else if c == '-' && alone then scanner.blockEntry
  else if c == '?' && (inFlow || alone) then scanner.explicitKey
  else if c == ':' && (inFlow || alone) then scanner.valueMark
  else if c == '*' then
    scanner.inlineToken fun place => do
      let (name, place) ← anchorName (place.forward 1)
      return (.alias name, place)
  else if c == '&' then
    scanner.inlineToken fun place => do
      let (name, place) ← anchorName (place.forward 1)
      return (.anchor name, place)
  else if c == '!' then scanner.inlineToken tagToken
  else if (c == '|' || c == '>') && !inFlow then scanner.blockToken (c == '>')
  else if c == '\'' then scanner.inlineToken (quotedScalar false)
  else if c == '"' then scanner.inlineToken (quotedScalar true)
  else if scanner.startsPlain c then scanner.plainToken
  else scanner.place.reject (.unexpectedCharacter c)

/-- Take the next token. The flag tells whether there was one. -/
def takeNext (scanner : Scanner) : Except Fault (Bool × Scanner) := do
  let scanner := scanner.skipMark
  let scanner ← (scanner.skipBlanks (scanner.place.rest.length + 1)).dropStaleKeys
  let scanner := scanner.unwind scanner.place.column
  match scanner.place.peek with
  | none => return (false, ← (scanner.unwind (-1)).dropKey)
  | some c => return (true, ← scanner.takeToken c)

end Scanner

/-- The tokens of a text, and why there are no more of them if that is for a fault. -/
structure TokenStream where
  tokens : List Token
  fault? : Option Fault := none
  deriving DecidableEq

/-- Take all tokens. -/
def Scanner.takeAll : (fuel : Nat) → Scanner → TokenStream
  | 0, scanner => { tokens := scanner.tokens.toList }
  | fuel + 1, scanner =>
    match scanner.takeNext with
    | .error fault => { tokens := scanner.settledTokens, fault? := some fault }
    | .ok (false, scanner) => { tokens := scanner.tokens.toList }
    | .ok (true, scanner) => scanner.takeAll fuel

/-- A character that a YAML text may hold. -/
def isAllowed (c : Char) : Bool :=
  let n := c.toNat
  n == 9 || n == 10 || n == 13 || (0x20 ≤ n && n ≤ 0x7e) || n == 0x85 ||
    (0xa0 ≤ n && n ≤ 0xd7ff) || (0xe000 ≤ n && n ≤ 0xfffd) || 0x10000 ≤ n

/-- The tokens of a text. -/
def tokens (text : List Char) : TokenStream :=
  match text.find? (!isAllowed ·) with
  | some c => { tokens := [], fault? := some (.malformed (.unprintable c)) }
  | none => Scanner.takeAll (text.length + 1) { place := .start text }

end OpcachePreload.Yaml
