import OpcachePreload.Path
import OpcachePreload.Text.Digit
import OpcachePreload.Text.Quoted

/-!
# Options of the command line

The options of the program itself may stand anywhere; what it does not know is handed to the
command. A long option may be shortened as far as it stays distinct, short options may be written
together, and a value may follow its option directly, after an equals sign, or as the next word.
After two hyphens nothing is an option.
-/

namespace OpcachePreload.CommandLine

/-- The options of the program. -/
inductive Flag where
  | help
  | configPath
  | loggingConfig
  | verbose
  | version
  deriving DecidableEq, Repr

/-- The spellings of the options, in order. -/
def spellings : List (String × Flag) := [
  ("-h", .help), ("--help", .help), ("-c", .configPath), ("--config-path", .configPath),
  ("--logging-config", .loggingConfig), ("-v", .verbose), ("--verbose", .verbose),
  ("--version", .version)]

/-- Whether an option takes a value. -/
def Flag.takesValue : Flag → Bool
  | configPath | loggingConfig => true
  | help | verbose | version => false

/-- All spellings of an option, as diagnostics name it. -/
def Flag.title (flag : Flag) : String :=
  String.intercalate "/" ((spellings.filter (·.2 = flag)).map Prod.fst)

/-- What is wrong with a command line. -/
inductive UsageFault where
  | ambiguous (word : String) (candidates : List String)
  | missingValue (flag : Flag)
  | unwantedValue (flag : Flag) (value : String)
  deriving DecidableEq, Repr

/-- The wording of a fault. -/
def UsageFault.message : UsageFault → String
  | ambiguous word candidates =>
    "ambiguous option: " ++ word ++ " could match " ++ String.intercalate ", " candidates
  | missingValue flag => "argument " ++ flag.title ++ ": expected one argument"
  | unwantedValue flag value =>
    "argument " ++ flag.title ++ ": ignored explicit argument " ++ Text.quoted value

/-! ## Words -/

/-- A value that is written together with its option, after an equals sign or directly. -/
structure Attached where
  byEquals : Bool
  value : List Char
  deriving DecidableEq, Repr

/-- A word of the command line. -/
inductive Word where
  | plain (text : String)
  /-- The two hyphens after which nothing is an option. -/
  | separator
  | option (flag : Flag) (isLong : Bool) (attached : Option Attached)
  | unknown (text : String)
  deriving DecidableEq, Repr

/-- The text of two hyphens. -/
def separatorText : String := "--"

/-- Whether a text is a negative number, which is no option. -/
def isNegativeNumber (text : List Char) : Bool :=
  let text := if text.getLast? = some '\n' then text.dropLast else text
  match text with
  | '-' :: rest =>
    let whole := rest.takeWhile Text.isDigit
    match rest.drop whole.length with
    | [] => !whole.isEmpty
    | '.' :: fraction => !fraction.isEmpty && fraction.all Text.isDigit
    | _ => false
  | _ => false

/-- A text cut at its first equals sign, if it has one. -/
def cutAtEquals (text : List Char) : List Char × Option (List Char) :=
  let before := text.takeWhile (· != '=')
  let after := text.drop before.length
  (before, if after.isEmpty then none else some (after.drop 1))

/-- The options that a text which is none of the spellings may mean. -/
def candidates (text : List Char) : List (String × Word) :=
  match text with
  | '-' :: '-' :: _ =>
    let (start, value) := cutAtEquals text
    (spellings.filter fun entry => start.isPrefixOf entry.1.toList).map fun entry =>
      (entry.1, .option entry.2 true (value.map (⟨true, ·⟩)))
  | _ =>
    (spellings.filter fun entry => entry.1.toList = text.take 2).map fun entry =>
      (entry.1, .option entry.2 false (some ⟨false, text.drop 2⟩))

/-- Whether a spelling is a long one. -/
def isLongSpelling (spelling : String) : Bool := "--".toList.isPrefixOf spelling.toList

/-- What a word is. -/
def readWord (word : String) : Except UsageFault Word :=
  let text := word.toList
  if text.head? != some '-' || text = ['-'] then
    .ok (.plain word)
  else match spellings.lookup word with
    | some flag => .ok (.option flag (isLongSpelling word) none)
    | none =>
      let (start, value) := cutAtEquals text
      match value, spellings.lookup (String.ofList start) with
      | some value, some flag =>
        .ok (.option flag (isLongSpelling word) (some ⟨true, value⟩))
      | _, _ =>
        match candidates text with
        | [(_, found)] => .ok found
        | [] =>
          if isNegativeNumber text || text.contains ' ' then .ok (.plain word)
          else .ok (.unknown word)
        | several => .error (.ambiguous word (several.map Prod.fst))

/-- What the words are. -/
def readWords : List String → Except UsageFault (List Word)
  | [] => .ok []
  | word :: rest =>
    if word = separatorText then .ok (.separator :: rest.map .plain)
    else do
      let first ← readWord word
      return first :: (← readWords rest)

/-! ## Options -/

/-- What a command line says. -/
structure Options where
  help : Bool := false
  version : Bool := false
  verbose : Nat := 0
  configPath : Option Path := none
  loggingConfig : Option Path := none
  command : Option String := none
  /-- The words for the command. -/
  arguments : List String := []
  deriving DecidableEq, Repr

/-- What has been read of a command line: the options, whether the command has been looked for, and
the words that nobody has claimed. -/
structure Progress where
  options : Options := {}
  settled : Bool := false
  unclaimed : List String := []

namespace Progress

/-- Note an option without a value. -/
def mark (progress : Progress) (flag : Flag) : Progress :=
  let options := progress.options
  { progress with options :=
      match flag with
      | .help => { options with help := true }
      | .version => { options with version := true }
      | .verbose => { options with verbose := options.verbose + 1 }
      | .configPath | .loggingConfig => options }

/-- Note the value of an option. -/
def assign (progress : Progress) (flag : Flag) (value : String) : Progress :=
  let options := progress.options
  { progress with options :=
      match flag with
      | .configPath => { options with configPath := some (.ofString value) }
      | .loggingConfig => { options with loggingConfig := some (.ofString value) }
      | .help | .verbose | .version => options }

/-- Note a word that nobody claims. -/
def leave (progress : Progress) (text : String) : Progress :=
  { progress with unclaimed := progress.unclaimed ++ [text] }

end Progress

/-- The text of a word that is no option. -/
def Word.text : Word → String
  | plain text | unknown text => text
  | separator => separatorText
  | option _ _ _ => ""

/-- Whether a word is no option. -/
def Word.isPlain : Word → Bool
  | plain _ | separator => true
  | option _ _ _ | unknown _ => false

/-- How many words at the front the command takes: its name, and the separator next to it. -/
def commandWidth : List Word → Nat
  | .separator :: .plain _ :: _ => 2
  | .separator :: _ => 1
  | .plain _ :: .separator :: _ => 2
  | .plain _ :: _ => 1
  | _ => 0

/-- Take words that are no options: the first ones that come are the command and its arguments,
others are left. Two hyphens are dropped from each of the two once. -/
def Progress.takePlain (progress : Progress) (words : List Word) : Progress :=
  let texts := words.map Word.text
  if progress.settled then { progress with unclaimed := progress.unclaimed ++ texts }
  else
    let width := commandWidth words
    let options := progress.options
    { progress with
      settled := true
      options := { options with
        command := ((texts.take width).erase separatorText).head?
        arguments := (texts.drop width).erase separatorText } }

/-- What comes of the options in one word: the progress, and the option at its end that still wants
its value. -/
abbrev Cluster := Except UsageFault (Progress × Option Flag)

/-- Take short options that are written together, `letters` following one that takes no value. -/
def takeLetters (progress : Progress) (flag : Flag) : (byEquals : Bool) → List Char → Cluster
  | _, [] => .ok (progress.mark flag, none)
  | byEquals, c :: rest =>
    if byEquals || c = '-' then .error (.unwantedValue flag (String.ofList (c :: rest)))
    else
      let progress := progress.mark flag
      match spellings.lookup (String.ofList ['-', c]) with
      | none => .ok (progress.leave (String.ofList ('-' :: c :: rest)), none)
      | some next =>
        if next.takesValue then
          match rest with
          | [] => .ok (progress, some next)
          | '=' :: value => .ok (progress.assign next (String.ofList value), none)
          | value => .ok (progress.assign next (String.ofList value), none)
        else
          match rest with
          | ['='] => .error (.unwantedValue next "")
          | '=' :: value => takeLetters progress next true value
          | letters => takeLetters progress next false letters

/-- Take an option. -/
def takeOption (progress : Progress) (flag : Flag) (isLong : Bool) : Option Attached → Cluster
  | none => .ok (if flag.takesValue then (progress, some flag) else (progress.mark flag, none))
  | some attached =>
    if flag.takesValue then .ok (progress.assign flag (String.ofList attached.value), none)
    else if isLong || attached.value.isEmpty then
      .error (.unwantedValue flag (String.ofList attached.value))
    else takeLetters progress flag attached.byEquals attached.value

/-- Take the words from left to right, `run` being the words without options just before. -/
def takeWords (progress : Progress) (run : List Word) : List Word → Except UsageFault Progress
  | [] => .ok (if run.isEmpty && progress.settled then progress else progress.takePlain run)
  | word :: rest =>
    if word.isPlain then takeWords progress (run ++ [word]) rest
    else
      let progress := if run.isEmpty then progress else progress.takePlain run
      match word with
      | .option flag isLong attached =>
        match takeOption progress flag isLong attached with
        | .error fault => .error fault
        | .ok (progress, none) => takeWords progress [] rest
        | .ok (progress, some wanting) =>
          match rest with
          | .plain value :: rest => takeWords (progress.assign wanting value) [] rest
          | _ => .error (.missingValue wanting)
      | word => takeWords (progress.leave word.text) [] rest

/-- Read a command line. -/
def Options.read (words : List String) : Except UsageFault Options := do
  let progress ← takeWords {} [] (← readWords words)
  let options := progress.options
  return { options with arguments := options.arguments ++ progress.unclaimed }

end OpcachePreload.CommandLine
