import OpcachePreload.Value.Basic
import OpcachePreload.Decimal.Text
import OpcachePreload.Text.Integer
import OpcachePreload.Text.Quoted

/-!
# Values in diagnostics

How a message shows a value and names its kind. The spellings are part of the messages' wording and
stand in one record.
-/

namespace OpcachePreload.Value

/-- The words for the values that have a name. -/
structure Spelling where
  null : String
  yes : String
  no : String
  emptySet : String
  date : String
  moment : String
  zone : String
  span : String

/-- The words that messages use. -/
def spelling : Spelling where
  null := "None"
  yes := "True"
  no := "False"
  emptySet := "set()"
  date := "datetime.date"
  moment := "datetime.datetime"
  zone := "datetime.timezone"
  span := "datetime.timedelta"

/-- The kind of a value, as messages name it. -/
def kindName : Value → String
  | null => "NoneType"
  | bool _ => "bool"
  | int _ => "int"
  | float _ => "float"
  | text _ | codes _ => "str"
  | bytes _ => "bytes"
  | date _ => "date"
  | moment _ => "datetime"
  | list _ | cycle false => "list"
  | mapping _ | cycle true => "dict"
  | set _ => "set"
  | pair _ _ => "tuple"

/-- Arguments between parentheses. -/
def call (name : String) (arguments : List String) : String :=
  name ++ "(" ++ String.intercalate ", " arguments ++ ")"

mutual

/-- Whether a value can be shown: a whole number in it must not have too many digits. -/
def isShowable : Value → Bool
  | int n => decide ((Nat.toDigits 10 n.natAbs).length ≤ Text.digitLimit)
  | list items | set items => areShowable items
  | mapping entries => areEntriesShowable entries
  | pair a b => isShowable a && isShowable b
  | null | bool _ | float _ | text _ | codes _ | bytes _ | date _ | moment _ | cycle _ => true

/-- Whether all of some values can be shown. -/
def areShowable : List Value → Bool
  | [] => true
  | item :: rest => isShowable item && areShowable rest

/-- Whether all entries of a mapping can be shown. -/
def areEntriesShowable : List (Value × Value) → Bool
  | [] => true
  | (key, value) :: rest => isShowable key && isShowable value && areEntriesShowable rest

end

/-- A span of minutes, less than two days either way, as days and seconds. -/
def shownSpan (minutes : Int) : String :=
  let days := minutes.fdiv 1440
  let seconds := minutes.fmod 1440 * 60
  let parts := (if days = 0 then [] else ["days=" ++ toString days]) ++
    (if seconds = 0 then [] else ["seconds=" ++ toString seconds])
  call spelling.span (if parts.isEmpty then ["0"] else parts)

/-- A moment with the arguments that give it back; seconds and microseconds only as far as they are
not zero. -/
def shownMoment (moment : Moment) : String :=
  let time := if moment.microsecond != 0 then [moment.second, moment.microsecond]
    else if moment.second != 0 then [moment.second] else []
  let numbers := [moment.date.year, moment.date.month, moment.date.day, moment.hour,
    moment.minute] ++ time
  let zone := match moment.offset with
    | none => []
    | some 0 => ["tzinfo=" ++ spelling.zone ++ ".utc"]
    | some minutes => ["tzinfo=" ++ call spelling.zone [shownSpan minutes]]
  call spelling.moment (numbers.map toString ++ zone)

/-- Code points between quotes. -/
def shownCodes (codes : List Nat) : String :=
  let quote := Text.quoteFor (codes.map Char.ofNat)
  let shown (n : Nat) : List Char :=
    if n.isValidChar then Text.shownChar quote (Char.ofNat n) else Text.numbered n
  String.ofList (quote :: codes.flatMap shown ++ [quote])

mutual

/-- A value as a message shows it. -/
def shown : Value → String
  | null => spelling.null
  | bool b => if b then spelling.yes else spelling.no
  | int n => toString n
  | float x => Decimal.shown.text x
  | text s => Text.quoted s
  | codes s => shownCodes s
  | bytes b => Text.quotedBytes b
  | date d => call spelling.date [toString d.year, toString d.month, toString d.day]
  | moment m => shownMoment m
  | list items => "[" ++ String.intercalate ", " (shownItems items) ++ "]"
  | mapping entries => "\x7b" ++ String.intercalate ", " (shownEntries entries) ++ "\x7d"
  | set [] => spelling.emptySet
  | set items => "\x7b" ++ String.intercalate ", " (shownItems items) ++ "\x7d"
  | pair a b => "(" ++ shown a ++ ", " ++ shown b ++ ")"
  | cycle keyed => if keyed then "\x7b...\x7d" else "[...]"

/-- The items of a list or set, each as a message shows it. -/
def shownItems : List Value → List String
  | [] => []
  | item :: rest => shown item :: shownItems rest

/-- The entries of a mapping, each as a message shows it. -/
def shownEntries : List (Value × Value) → List String
  | [] => []
  | (key, value) :: rest => (shown key ++ ": " ++ shown value) :: shownEntries rest

end

end OpcachePreload.Value
