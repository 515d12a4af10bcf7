import OpcachePreload.Pattern.Basic
import OpcachePreload.Pattern.Source
import OpcachePreload.Text.CharacterName
import OpcachePreload.Text.Integer

/-!
# Reading patterns

A pattern is read from left to right with a stack of open groups. Every step takes at least one
token, opens a group, adds a part to the innermost open group, or closes that group and adds it as a
part to the group around it. What a step needs to know about earlier parts (their widths, the groups
that are complete, the flags in force) is kept with them.
-/

namespace OpcachePreload.Pattern

/-! ## Parts -/

/-- The flags in force. -/
structure Flags where
  ignoreCase : Bool := false
  multiLine : Bool := false
  dotAll : Bool := false
  verbose : Bool := false
  ascii : Bool := false
  unicode : Bool := false
  template : Bool := false
  deriving DecidableEq, Repr

/-- The greatest width that is told apart. -/
def widthLimit : Nat := 0x10000000000000000

/-- The least and the greatest number of characters that a part takes. -/
structure Width where
  low : Nat
  high : Nat
  deriving DecidableEq, Repr

/-- What matters of a part to a quantifier after it. -/
inductive PartKind where
  | anchor
  | repetition
  | other
  deriving DecidableEq, Repr

/-- A part of a pattern. -/
structure Part where
  pattern : Pattern
  width : Width
  kind : PartKind := .other

/-- Parts one after the other, and their width. -/
structure Branch where
  pattern : Pattern
  width : Width

/-- Join parts, given latest first. -/
def Branch.ofParts (parts : List Part) : Branch :=
  let low := parts.foldl (fun n part => n + part.width.low) 0
  let high := parts.foldl (fun n part => n + part.width.high) 0
  ⟨sequence (parts.reverse.map Part.pattern), min low widthLimit, min high widthLimit⟩

/-- Join alternatives, given latest first. -/
def Branch.ofAlternatives : List Branch → Branch
  | [] => ⟨nothing, 0, 0⟩
  | last :: earlier => earlier.foldl (fun rest branch =>
      ⟨orElse branch.pattern rest.pattern,
        min branch.width.low rest.width.low, max branch.width.high rest.width.high⟩) last

/-- What a group is for. -/
inductive FrameKind where
  | whole
  | capture (index : Nat)
  | plain
  | atomic
  | ahead (holds : Bool)
  | behind (holds : Bool) (outer : Option Nat)
  | condition (index : Nat) (yes : Option Branch)

/-- A group that is open: where it starts, the flags inside it, its complete alternatives and the
parts of the one being read, latest first. -/
structure Frame where
  kind : FrameKind
  start : Nat
  flags : Flags
  alternatives : List Branch := []
  parts : List Part := []

/-- The state of reading a pattern: what is left, the innermost open group and those around it, the
widths of the groups so far (none for an open one), their names, the number of groups before the
outermost open look-behind, the groups that conditions ask about, and whether some look-behind has
no fixed width. -/
structure State where
  source : Source
  frame : Frame
  outer : List Frame := []
  groups : List (Option Width) := []
  names : List (List Char × Nat) := []
  lookbehind : Option Nat := none
  conditions : List (Nat × Nat) := []
  variableLookbehind : Bool := false

namespace State

/-- Add a part to the innermost open group. -/
def push (state : State) (part : Part) : State :=
  { state with frame := { state.frame with parts := part :: state.frame.parts } }

/-- Open a group. -/
def enter (state : State) (kind : FrameKind) (start : Nat) (flags : Flags) : State :=
  { state with frame := ⟨kind, start, flags, [], []⟩, outer := state.frame :: state.outer }

/-- The width of a complete group; group 0 is the whole pattern and never complete here. -/
def groupWidth? (state : State) (index : Nat) : Option Width :=
  if index = 0 then none else (state.groups[index - 1]?).join

/-- How many groups there are, the whole pattern included. -/
def groupCount (state : State) : Nat := state.groups.length + 1

/-- Check that a group may be asked about in a look-behind. -/
def checkLookbehind (state : State) (source : Source) (index : Nat) : Except Rejection Unit :=
  match state.lookbehind with
  | none => .ok ()
  | some limit =>
    if (state.groupWidth? index).isNone then source.reject .openGroup
    else if limit ≤ index then source.reject .groupOfSameLookbehind
    else .ok ()

end State

/-! ## Characters and classes -/

/-- How the flags compare characters. -/
def Flags.folding (flags : Flags) : Folding :=
  if !flags.ignoreCase then .exact else if flags.ascii then .ascii else .unicode

/-- A part that takes one character. -/
def onePart (set : Charset) : Part := ⟨one set, ⟨1, 1⟩, .other⟩

/-- A part that takes the code point `n`. -/
def Flags.literalPart (flags : Flags) (n : Nat) : Part :=
  onePart ⟨[.range n n], true, flags.folding⟩

/-- A part that takes no character. -/
def anchorPart (anchor : Anchor) : Part := ⟨anchored anchor, ⟨0, 0⟩, .anchor⟩

/-- The control characters that have an escape of their own. -/
def controlEscape? : Char → Option Nat
  | 'a' => some 7
  | 'b' => some 8
  | 'f' => some 12
  | 'n' => some 10
  | 'r' => some 13
  | 't' => some 9
  | 'v' => some 11
  | '\\' => some 0x5c
  | _ => none

/-- The classes that have an escape of their own. -/
def classEscape? (asciiOnly : Bool) : Char → Option Member
  | 'd' => some (.category .digit asciiOnly true)
  | 'D' => some (.category .digit asciiOnly false)
  | 's' => some (.category .blank asciiOnly true)
  | 'S' => some (.category .blank asciiOnly false)
  | 'w' => some (.category .word asciiOnly true)
  | 'W' => some (.category .word asciiOnly false)
  | _ => none

/-- The anchors that have an escape of their own. -/
def anchorEscape? (asciiOnly : Bool) : Char → Option Anchor
  | 'A' => some .textStart
  | 'Z' => some .textEnd
  | 'b' => some (.wordEdge asciiOnly true)
  | 'B' => some (.wordEdge asciiOnly false)
  | _ => none

/-- A hexadecimal digit. -/
def isHexDigit (c : Char) : Bool :=
  c.isDigit || ('a' ≤ c && c ≤ 'f') || ('A' ≤ c && c ≤ 'F')

/-- An octal digit. -/
def isOctalDigit (c : Char) : Bool := '0' ≤ c && c ≤ '7'

/-- The number that digits write to a base. -/
def numeral (base : Nat) (digits : List Char) : Nat :=
  (Text.natural? base digits).getD 0

/-- An ASCII letter. -/
def isAsciiLetter (c : Char) : Bool := c.isAlpha

/-- The value of an escape by code point: `c` is the letter or digit after the backslash, already
moved over. Nothing for an escape of another form. -/
def codeEscape? (source : Source) (c : Char) : Except Rejection (Option (Nat × Source)) := do
  let hexadecimal (digits : Nat) : Except Rejection (Option (Nat × Source)) := do
    let (found, source) ← source.takeUpTo isHexDigit digits
    let escape := '\\' :: c :: found
    if found.length < digits then
      source.reject (.incompleteEscape (String.ofList escape)) escape.length
    else if numeral 16 found > 0x10ffff then
      source.reject (.badEscape (String.ofList escape)) escape.length
    else return some (numeral 16 found, source)
  match c with
  | 'x' => hexadecimal 2
  | 'u' => hexadecimal 4
  | 'U' => hexadecimal 8
  | 'N' =>
    match ← source.accept? '\x7b' with
    | none => source.reject .missingBrace
    | some source =>
      let (name, source) ← source.name '\x7d' "character name"
      match Text.namedCharacter? name with
      | some n => return some (n, source)
      | none => source.reject (.unknownCharacterName (String.ofList name)) (name.length + 4)
  | _ => return none

/-- The value of an octal escape of two or three digits in all, given the digits. -/
def octalValue (source : Source) (digits : List Char) : Except Rejection (Nat × Source) :=
  let value := numeral 8 digits
  if value > 0o377 then
    source.reject (.octalTooLarge (String.ofList ('\\' :: digits))) (digits.length + 1)
  else .ok (value, source)

/-- An escape that stands for the character itself; letters have no such escape. -/
def selfEscape (source : Source) (c : Char) : Except Rejection Nat :=
  if isAsciiLetter c then source.reject (.badEscape (String.ofList ['\\', c])) 2
  else .ok c.toNat

/-! ## Character sets -/

/-- A member of a set after a backslash and `c`, both moved over. -/
def charsetEscape (flags : Flags) (source : Source) (c : Char) :
    Except Rejection (Member × Source) := do
  let literal (n : Nat) (source : Source) : Member × Source := (.range n n, source)
  if let some n := controlEscape? c then return literal n source
  if let some member := classEscape? flags.ascii c then return (member, source)
  if let some (n, source) ← codeEscape? source c then return literal n source
  if isOctalDigit c then
    let (more, source) ← source.takeUpTo isOctalDigit 2
    let (n, source) ← octalValue source (c :: more)
    return literal n source
  if c.isDigit then source.reject (.badEscape (String.ofList ['\\', c])) 2
  else return literal (← selfEscape source c) source

/-- The member that a token of a set stands for. -/
def charsetMember (flags : Flags) (source : Source) : Token → Except Rejection (Member × Source)
  | .plain c => .ok (.range c.toNat c.toNat, source)
  | .escaped c => charsetEscape flags source c

/-- The one code point of a member. -/
def Member.single? : Member → Option Nat
  | .range first last => if first = last then some first else none
  | .category .. => none

/-- Read the members of a set up to its end. `start` is where the set starts. -/
def charsetMembers (flags : Flags) (start : Nat) :
    (fuel : Nat) → (soFar : List Member) → Source → Except Rejection (List Member × Source)
  | 0, soFar, source => .ok (soFar, source)
  | fuel + 1, soFar, source => do
    let unterminated : Except Rejection (List Member × Source) :=
      .error (.malformed .unterminatedCharset (some start))
    let (token, source) ← source.next
    match token with
    | none => unterminated
    | some token =>
      if token = .plain ']' && !soFar.isEmpty then return (soFar, source)
      let (member, source) ← charsetMember flags source token
      match ← source.accept? '-' with
      | none => charsetMembers flags start fuel (soFar ++ [member]) source
      | some source =>
        let (upper, source) ← source.next
        match upper with
        | none => unterminated
        | some (.plain ']') =>
          return (soFar ++ [member, .range '-'.toNat '-'.toNat], source)
        | some upper =>
          let (last, source) ← charsetMember flags source upper
          let badRange : Except Rejection (List Member × Source) :=
            let text := token.chars ++ '-' :: upper.chars
            source.reject (.badRange (String.ofList text)) text.length
          match member.single?, last.single? with
          | some low, some high =>
            if high < low then badRange
            else charsetMembers flags start fuel (soFar ++ [.range low high]) source
          | _, _ => badRange

/-- Read a set, its opening bracket moved over. -/
def charset (flags : Flags) (source : Source) : Except Rejection (Part × Source) := do
  let start := source.position - 1
  let caret ← source.accept? '^'
  let source := caret.getD source
  let (members, source) ← charsetMembers flags start (source.rest.length + 1) [] source
  return (onePart ⟨members, caret.isNone, flags.folding⟩, source)

/-! ## Escapes outside sets -/

/-- A reference to a group by number, the digits written given. -/
def backReference (state : State) (source : Source) (digits : List Char) :
    Except Rejection (Part × Source) := do
  let index := numeral 10 digits
  if index < state.groupCount then
    match state.groupWidth? index with
    | none => source.reject .openGroup (digits.length + 1)
    | some width =>
      state.checkLookbehind source index
      return (⟨again index state.frame.flags.folding, width, .other⟩, source)
  else source.reject (.invalidGroup index) digits.length

/-- The part that a backslash and `c` stand for, both moved over. -/
def escapePart (state : State) (source : Source) (c : Char) :
    Except Rejection (Part × Source) := do
  let flags := state.frame.flags
  if let some anchor := anchorEscape? flags.ascii c then return (anchorPart anchor, source)
  if let some member := classEscape? flags.ascii c then
    return (onePart ⟨[member], true, flags.folding⟩, source)
  if let some n := controlEscape? c then return (flags.literalPart n, source)
  if let some (n, source) ← codeEscape? source c then return (flags.literalPart n, source)
  if c = '0' then
    let (more, source) ← source.takeUpTo isOctalDigit 2
    return (flags.literalPart (numeral 8 (c :: more)), source)
  if c.isDigit then
    let (second, source) ← source.takeUpTo Char.isDigit 1
    if !second.isEmpty && isOctalDigit c && second.all isOctalDigit then
      let (third, source) ← source.takeUpTo isOctalDigit 1
      if !third.isEmpty then
        let (n, source) ← octalValue source (c :: second ++ third)
        return (flags.literalPart n, source)
    backReference state source (c :: second)
  else return (flags.literalPart (← selfEscape source c), source)

/-! ## Quantifiers -/

/-- The counts from which on a repetition is out of range. -/
def countLimit : Nat := 4294967295

/-- The bounds of a quantifier. -/
structure Bounds where
  least : Nat
  most : Option Nat

/-- The count that some digits write. -/
def count (digits : List Char) : Except Rejection Nat :=
  if Text.digitLimit < digits.length then .error (.countTooLong digits.length)
  else if countLimit ≤ numeral 10 digits then .error .countTooLarge
  else .ok (numeral 10 digits)

/-- Read the bounds between braces, the opening brace moved over; nothing if the text is none. -/
def countedBounds (source : Source) : Except Rejection (Option (Bounds × Source)) := do
  if source.peek = some (.plain '\x7d') then return none
  let size := source.rest.length
  let (low, inner) ← source.takeUpTo Char.isDigit size
  let comma ← inner.accept? ','
  let (high, inner) ←
    match comma with
    | some inner => inner.takeUpTo Char.isDigit size
    | none => pure (low, inner)
  match ← inner.accept? '\x7d' with
  | none => return none
  | some inner =>
    let least ← count low
    let most ← if high.isEmpty then pure none else some <$> count high
    if most.any (· < least) then source.reject .leastAboveMost
    else return some (⟨least, most⟩, inner)

/-- Repeat a part. -/
def Part.times (part : Part) (bounds : Bounds) (wrap : Pattern → Pattern) : Part :=
  let high := match bounds.most with
    | some most => part.width.high * most
    | none => if part.width.high = 0 then 0 else widthLimit
  ⟨wrap part.pattern, ⟨part.width.low * bounds.least, high⟩, .repetition⟩

/-- Apply a quantifier, moved over, to the part before it. -/
def quantify (state : State) (source : Source) (start : Nat) (bounds : Bounds) :
    Except Rejection State := do
  match state.frame.parts with
  | [] => throw (.malformed .nothingToRepeat (some start))
  | part :: earlier =>
    if part.kind = .anchor then throw (.malformed .nothingToRepeat (some start))
    if part.kind = .repetition then throw (.malformed .multipleRepeat (some start))
    let repetition (manner : Manner) : Repetition := ⟨bounds.least, bounds.most, manner⟩
    let (wrap, source) ←
      match ← source.accept? '?' with
      | some source => pure ((repeated · (repetition .lazy)), source)
      | none =>
        match ← source.accept? '+' with
        | some source => pure ((possessively · bounds.least bounds.most), source)
        | none => pure ((repeated · (repetition .greedy)), source)
    return { state with
      source, frame := { state.frame with parts := part.times bounds wrap :: earlier } }

/-! ## Groups -/

/-- A name of a group: a letter or underscore, then word characters. -/
def isName : List Char → Bool
  | [] => false
  | c :: rest => Text.isWord c && !Text.isDigit c && rest.all Text.isWord

/-- The flag that a letter stands for, set. -/
def Flags.raise? (flags : Flags) : Char → Option Flags
  | 'i' => some { flags with ignoreCase := true }
  | 'm' => some { flags with multiLine := true }
  | 's' => some { flags with dotAll := true }
  | 'x' => some { flags with verbose := true }
  | 'a' => some { flags with ascii := true }
  | 'u' => some { flags with unicode := true }
  | 't' => some { flags with template := true }
  | 'L' => some flags
  | _ => none

/-- All flags that are set in either. -/
def Flags.union (f g : Flags) : Flags where
  ignoreCase := f.ignoreCase || g.ignoreCase
  multiLine := f.multiLine || g.multiLine
  dotAll := f.dotAll || g.dotAll
  verbose := f.verbose || g.verbose
  ascii := f.ascii || g.ascii
  unicode := f.unicode || g.unicode
  template := f.template || g.template

/-- All flags that are set in both. -/
def Flags.inter (f g : Flags) : Flags where
  ignoreCase := f.ignoreCase && g.ignoreCase
  multiLine := f.multiLine && g.multiLine
  dotAll := f.dotAll && g.dotAll
  verbose := f.verbose && g.verbose
  ascii := f.ascii && g.ascii
  unicode := f.unicode && g.unicode
  template := f.template && g.template

/-- The flags inside a group that turns some on and some off. Asking for one kind of classes ends
the other. -/
def Flags.within (flags on off : Flags) : Flags :=
  let base :=
    if on.ascii || on.unicode then { flags with ascii := false, unicode := false } else flags
  let all := base.union on
  { all with
    ignoreCase := all.ignoreCase && !off.ignoreCase
    multiLine := all.multiLine && !off.multiLine
    dotAll := all.dotAll && !off.dotAll
    verbose := all.verbose && !off.verbose }

/-- A letter, for the wording of a problem with flags. -/
def looksLikeFlag : Token → Bool
  | .plain c => Text.isWord c && !Text.isDigit c && c != '_'
  | .escaped _ => false

/-- The problem with a token where a flag or the end of the flags was due. -/
def badFlag {α : Type} (source : Source) (token : Token) (due : String) : Except Rejection α :=
  source.reject (if looksLikeFlag token then .unknownFlag else .missing due) token.chars.length

/-- Read the flags to turn on. `letter` is a flag, moved over. The character that ends them is
returned. -/
def flagsOn : (fuel : Nat) → (soFar : Flags) → (letter : Char) → Source →
    Except Rejection (Flags × Char × Source)
  | 0, soFar, letter, source => .ok (soFar, letter, source)
  | fuel + 1, soFar, letter, source => do
    if letter = 'L' then source.reject .localeFlag
    let flags := (soFar.raise? letter).getD soFar
    if (letter = 'a' || letter = 'u') && flags.ascii && flags.unicode then
      source.reject .incompatibleFlags
    let (token, source) ← source.next
    match token with
    | none => source.reject (.missing "-, : or )")
    | some token =>
      match token with
      | .plain c =>
        if c = ')' || c = '-' || c = ':' then return (flags, c, source)
        else if (flags.raise? c).isSome then flagsOn fuel flags c source
        else badFlag source token "-, : or )"
      | .escaped _ => badFlag source token "-, : or )"

/-- Read the flags to turn off. `letter` is a flag, moved over. The colon after them is moved over
too. -/
def flagsOff : (fuel : Nat) → (soFar : Flags) → (letter : Char) → Source →
    Except Rejection (Flags × Source)
  | 0, soFar, _, source => .ok (soFar, source)
  | fuel + 1, soFar, letter, source => do
    if letter = 'a' || letter = 'u' || letter = 'L' then source.reject .fixedFlagOff
    let flags := (soFar.raise? letter).getD soFar
    let (token, source) ← source.next
    match token with
    | none => source.reject (.missing ":")
    | some token =>
      match token with
      | .plain c =>
        if c = ':' then return (flags, source)
        else if (flags.raise? c).isSome then flagsOff fuel flags c source
        else badFlag source token ":"
      | .escaped _ => badFlag source token ":"

/-- What a group's flags are: for the whole pattern, or on and off inside the group. -/
inductive FlagGroup where
  | whole (on : Flags)
  | inside (on off : Flags)

/-- Read a group of flags. `letter` is its first character, moved over: a flag or a minus sign. -/
def flagGroup (source : Source) (letter : Char) : Except Rejection (FlagGroup × Source) := do
  let fuel := source.rest.length + 1
  let (on, stop, source) ←
    if letter = '-' then pure ({}, '-', source) else flagsOn fuel {} letter source
  if stop = ')' then return (.whole on, source)
  if on.template then source.reject .globalFlagOn 1
  let (off, source) ←
    if stop = '-' then do
      let (token, source) ← source.next
      match token with
      | none => source.reject (.missing "flag")
      | some token =>
        match token with
        | .plain c =>
          if ((({} : Flags)).raise? c).isSome then flagsOff fuel {} c source
          else badFlag source token "flag"
        | .escaped _ => badFlag source token "flag"
    else pure ({}, source)
  if off.template then source.reject .globalFlagOff 1
  if on.inter off != {} then source.reject .flagOnAndOff 1
  return (.inside on off, source)

/-- Open a group that captures. -/
def openCapture (state : State) (source : Source) (start : Nat) (name : Option (List Char)) :
    Except Rejection State := do
  let index := state.groupCount
  let names ←
    match name with
    | none => pure state.names
    | some name =>
      match state.names.find? (·.1 = name) with
      | some (_, earlier) =>
        source.reject (.redefinedGroup (String.ofList name) index earlier) (name.length + 1)
      | none => pure (state.names ++ [(name, index)])
  let state := { state with source, names, groups := state.groups ++ [none] }
  return state.enter (.capture index) start state.frame.flags

/-- Read a reference to a group by name, up to and including the closing parenthesis. -/
def namedReference (state : State) (source : Source) : Except Rejection State := do
  let (name, source) ← source.name ')' "group name"
  if !isName name then source.reject (.badGroupName (String.ofList name)) (name.length + 1)
  match state.names.find? (·.1 = name) with
  | none => source.reject (.unknownGroupName (String.ofList name)) (name.length + 1)
  | some (_, index) =>
    match state.groupWidth? index with
    | none => source.reject .openGroup (name.length + 1)
    | some width =>
      state.checkLookbehind source index
      return { state with source }.push ⟨again index state.frame.flags.folding, width, .other⟩

/-- The most groups that a pattern may have. -/
def groupLimit : Nat := 1073741823

/-- The number of a group that a text writes, unless it has too many digits to be read. -/
def groupNumber? (text : List Char) : Option Int :=
  if Text.digitLimit < (text.filter fun c => (Text.digitIn 10 c).isSome).length then none
  else Text.integer? 10 text

/-- Open a group whose content depends on whether another group has captured. The name or number of
that group is next. -/
def openCondition (state : State) (source : Source) (start : Nat) : Except Rejection State := do
  let (name, source) ← source.name ')' "group name"
  let offset := name.length + 1
  let text := String.ofList name
  let (index, conditions) ←
    if isName name then
      match state.names.find? (·.1 = name) with
      | none => source.reject (.unknownGroupName text) offset
      | some (_, index) => pure (index, state.conditions)
    else
      match groupNumber? name with
      | some (.ofNat 0) => source.reject .badGroupNumber offset
      | some (.ofNat index) =>
        if groupLimit ≤ index then source.reject (.invalidGroup index) offset
        else if state.conditions.any (·.1 == index) then pure (index, state.conditions)
        else pure (index, state.conditions ++ [(index, source.position - offset)])
      | _ => source.reject (.badGroupName text) offset
  state.checkLookbehind source index
  return { state with source, conditions }.enter (.condition index none) start state.frame.flags

/-- Open a look-ahead or look-behind. -/
def openLook (state : State) (source : Source) (start : Nat) (behind holds : Bool) : State :=
  if behind then
    let limit := state.lookbehind.getD state.groupCount
    { state with source, lookbehind := some limit }.enter
      (.behind holds state.lookbehind) start state.frame.flags
  else { state with source }.enter (.ahead holds) start state.frame.flags

/-- Read what follows an opening parenthesis and a question mark. -/
def openExtension (state : State) (source : Source) (start : Nat) : Except Rejection State := do
  let flags := state.frame.flags
  let (token, source) ← source.next
  match token with
  | none => source.reject .unexpectedEnd
  | some token =>
    let unknown {α : Type} (before : String) (token : Token) (source : Source) :
        Except Rejection α :=
      source.reject (.unknownExtension (before ++ String.ofList token.chars))
        (token.chars.length + before.length + 1)
    match token with
    | .escaped _ => unknown "" token source
    | .plain 'P' =>
      match ← source.accept? '<' with
      | some source =>
        let (name, source) ← source.name '>' "group name"
        if !isName name then
          source.reject (.badGroupName (String.ofList name)) (name.length + 1)
        openCapture state source start (some name)
      | none =>
        match ← source.accept? '=' with
        | some source => namedReference state source
        | none =>
          let (token, source) ← source.next
          match token with
          | none => source.reject .unexpectedEnd
          | some token => unknown "P" token source
    | .plain ':' => return { state with source }.enter .plain start flags
    | .plain '>' => return { state with source }.enter .atomic start flags
    | .plain '#' =>
      let (closed, source) ← source.skipThrough ')' (source.rest.length + 1)
      if closed then return { state with source }
      else throw (.malformed .unterminatedComment (some start))
    | .plain '=' => return openLook state source start false true
    | .plain '!' => return openLook state source start false false
    | .plain '<' =>
      let (token, source) ← source.next
      match token with
      | none => source.reject .unexpectedEnd
      | some (.plain '=') => return openLook state source start true true
      | some (.plain '!') => return openLook state source start true false
      | some token => unknown "<" token source
    | .plain '(' => openCondition state source start
    | .plain c =>
      if c = '-' || (flags.raise? c).isSome then
        let (flagged, source) ← flagGroup source c
        match flagged with
        | .whole on =>
          let first := state.outer.isEmpty && state.frame.alternatives.isEmpty &&
            state.frame.parts.isEmpty
          if !first then throw (.malformed .flagsNotAtStart (some start))
          return { state with
            source, frame := { state.frame with flags := flags.union on } }
        | .inside on off => return { state with source }.enter .plain start (flags.within on off)
      else unknown "" token source

/-- The end of the alternative being read. -/
def Frame.branches (frame : Frame) : List Branch :=
  .ofParts frame.parts :: frame.alternatives

/-- Begin another alternative, the bar being next. -/
def alternate (state : State) : Except Rejection State := do
  match state.frame.kind with
  | .condition index none =>
    let source ← state.source.advance
    return { state with source, frame := { state.frame with
      kind := .condition index (some (.ofParts state.frame.parts)), parts := [] } }
  | .condition _ (some _) => state.source.reject .tooManyBranches
  | _ =>
    let source ← state.source.advance
    return { state with source, frame := { state.frame with
      alternatives := state.frame.branches, parts := [] } }

/-- The part that a complete group is. -/
def Frame.part (frame : Frame) : Part :=
  let body := Branch.ofAlternatives frame.branches
  match frame.kind with
  | .whole | .plain => ⟨body.pattern, body.width, .other⟩
  | .capture index => ⟨group index body.pattern, body.width, .other⟩
  | .atomic => ⟨Pattern.atomic body.pattern, body.width, .other⟩
  | .ahead holds => ⟨Pattern.ahead holds body.pattern, ⟨0, 0⟩, .other⟩
  | .behind holds _ => ⟨Pattern.behind holds body.width.low body.pattern, ⟨0, 0⟩, .other⟩
  | .condition index none => ⟨whether index body.pattern nothing, ⟨0, body.width.high⟩, .other⟩
  | .condition index (some yes) =>
    ⟨whether index yes.pattern body.pattern,
      ⟨min yes.width.low body.width.low, max yes.width.high body.width.high⟩, .other⟩

/-- Close the innermost group, its parenthesis moved over, inside the group `parent`. -/
def close (state : State) (source : Source) (parent : Frame) (outer : List Frame) : State :=
  let frame := state.frame
  let width := (Branch.ofAlternatives frame.branches).width
  let closed := { state with source, frame := parent, outer }
  let noted := match frame.kind with
    | .capture index => { closed with groups := closed.groups.set (index - 1) (some width) }
    | .behind _ before =>
      { closed with
        lookbehind := before
        variableLookbehind := closed.variableLookbehind || width.low != width.high }
    | _ => closed
  noted.push frame.part

/-! ## Steps -/

/-- Blanks that a verbose pattern may hold anywhere. -/
def isVerboseBlank (c : Char) : Bool :=
  c = ' ' || ('\t' ≤ c && c ≤ '\r')

/-- Read a quantifier that starts with `c`, moved over. An opening brace without bounds after it is
an ordinary character. -/
def quantifierStep (state : State) (source : Source) (c : Char) : Except Rejection State := do
  let start := source.position - 1
  match c with
  | '?' => quantify state source start ⟨0, some 1⟩
  | '*' => quantify state source start ⟨0, none⟩
  | '+' => quantify state source start ⟨1, none⟩
  | _ =>
    match ← countedBounds source with
    | some (bounds, source) => quantify state source start bounds
    | none => return { state with source }.push (state.frame.flags.literalPart c.toNat)

/-- Read an opening parenthesis, moved over, and what belongs to it. -/
def openStep (state : State) (source : Source) : Except Rejection State := do
  let start := source.position - 1
  match ← source.accept? '?' with
  | some source => openExtension state source start
  | none => openCapture state source start none

/-- Read one character, moved over, and what belongs to it. -/
def plainStep (state : State) (source : Source) (c : Char) : Except Rejection State := do
  let flags := state.frame.flags
  if flags.verbose && isVerboseBlank c then return { state with source }
  if flags.verbose && c = '#' then
    let (_, source) ← source.skipThrough '\n' (source.rest.length + 1)
    return { state with source }
  match c with
  | '[' =>
    let (part, source) ← charset flags source
    return { state with source }.push part
  | '(' => openStep state source
  | '.' =>
    let set := if flags.dotAll then Charset.all else Charset.except ['\n']
    return { state with source }.push (onePart set)
  | '^' =>
    let anchor := if flags.multiLine then Anchor.lineStart else .textStart
    return { state with source }.push (anchorPart anchor)
  | '$' =>
    let anchor := if flags.multiLine then Anchor.lineEnd else .lastLineEnd
    return { state with source }.push (anchorPart anchor)
  | '?' | '*' | '+' | '\x7b' => quantifierStep state source c
  | _ => return { state with source }.push (flags.literalPart c.toNat)

/-- Read the next part of a pattern. Nothing is returned at its end, and at a parenthesis that
closes no group. -/
def step (state : State) : Except Rejection (Option State) := do
  match state.source.peek with
  | none => return none
  | some (.plain '|') => return some (← alternate state)
  | some (.plain ')') =>
    match state.outer with
    | [] => return none
    | parent :: outer => return some (close state (← state.source.advance) parent outer)
  | some (.plain c) => return some (← plainStep state (← state.source.advance) c)
  | some (.escaped c) =>
    let (part, source) ← escapePart state (← state.source.advance) c
    return some ({ state with source }.push part)

/-- Read parts as long as there are any. Every step takes a token, so what is left gets shorter. -/
def readAll (state : State) : Except Rejection State := do
  match ← step state with
  | none => return state
  | some next =>
    if next.source.rest.length < state.source.rest.length then readAll next else return next
termination_by state.source.rest.length

/-- The pattern that has been read, if all is complete and consistent. -/
def finish (state : State) : Except Rejection Pattern := do
  match state.outer with
  | _ :: _ => throw (.malformed .unterminatedSubpattern (some state.frame.start))
  | [] =>
    if state.frame.flags.ascii && state.frame.flags.unicode then throw .contradictoryFlags
    if !state.source.rest.isEmpty then state.source.reject .unbalancedParenthesis
    if let some (index, position) := state.conditions.find? (state.groupCount ≤ ·.1) then
      throw (.malformed (.invalidGroup index) (some position))
    if state.variableLookbehind then throw (.malformed .variableLookbehind none)
    return (Branch.ofAlternatives state.frame.branches).pattern

/-- Read a pattern. -/
def compile (text : String) : Except Rejection Pattern := do
  let source ← Source.settle ⟨0, text.toList⟩
  finish (← readAll { source, frame := { kind := .whole, start := 0, flags := {} } })

end OpcachePreload.Pattern
