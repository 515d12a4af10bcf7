import OpcachePreload.Yaml.Fault
import OpcachePreload.Yaml.Tag
import OpcachePreload.Text.Integer
import OpcachePreload.Text.Split

/-!
# Values of YAML scalars

What the text of a scalar means, given its kind. Underscores in numbers are left out, and numbers
may be written in parts of sixty that colons separate. The text of a plain scalar fits its kind;
that of a scalar with an explicit tag need not.
-/

namespace OpcachePreload.Yaml.Scalar

/-- The truth value that a text names. -/
def bool (text : String) : Except Fault Value :=
  let name := Text.lowercase text
  if name ∈ ["yes", "true", "on"] then .ok (.bool true)
  else if name ∈ ["no", "false", "off"] then .ok (.bool false)
  else .error (.notABoolean name)

/-- A sign taken off the front: whether the number is negative, and the rest. -/
def unsigned : List Char → Bool × List Char
  | '-' :: rest => (true, rest)
  | '+' :: rest => (false, rest)
  | text => (false, text)

/-- Read a whole number written to a base. Only decimal ones are limited in length. -/
def whole (base : Nat) (text : List Char) : Except Fault Int :=
  let written := (unsigned (Text.trim text)).2.takeWhile fun c => (Text.digitIn base c).isSome
  if base = 10 && Text.digitLimit < written.length then .error (.tooManyDigits written.length)
  else match Text.integer? base text with
    | some n => .ok n
    | none => .error (.notAnInteger base (String.ofList text))

/-- The texts between colons. -/
def parts (text : List Char) : List (List Char) := Text.split ':' text

/-- The number that parts of sixty make, the first of them being worth most. -/
def sixtieth (parts : List Int) : Int := parts.foldl (fun n part => 60 * n + part) 0

/-- The whole number that a text means. -/
def int (text : String) : Except Fault Value := do
  let text := text.toList.filter (· != '_')
  if text.isEmpty then throw .emptyNumber
  let (negative, text) := unsigned text
  let size ←
    match text with
    | [] => throw .emptyNumber
    | ['0'] => pure 0
    | '0' :: 'b' :: rest => whole 2 rest
    | '0' :: 'x' :: rest => whole 16 rest
    | '0' :: _ => whole 8 text
    | _ =>
      if text.contains ':' then sixtieth <$> (parts text).mapM (whole 10) else whole 10 text
  return .int (if negative then -size else size)

/-- Read a binary fraction. -/
def fraction (text : List Char) : Except Fault Float :=
  match Decimal.read? text with
  | some x => .ok x
  | none => .error (.notANumber (String.ofList text))

/-- What the weight of a part has to stay below to be a binary fraction. -/
def weightLimit : Nat := 1 <<< 1024

/-- The sum of parts of sixty, the last of them first: each is weighted and added in turn. -/
def sixtiethFraction : (weight : Nat) → (sum : Float) → List Float → Except Fault Float
  | _, sum, [] => .ok sum
  | weight, sum, part :: rest =>
    if weight < weightLimit then
      sixtiethFraction (weight * 60) (sum + part * Float.ofNat weight) rest
    else .error .overweight

/-- The binary fraction that a text means. -/
def float (text : String) : Except Fault Value := do
  let text := (Text.lowercase (String.ofList (text.toList.filter (· != '_')))).toList
  if text.isEmpty then throw .emptyNumber
  let (negative, text) := unsigned text
  if text = ".nan".toList then return .float (0 / 0)
  let size ←
    if text = ".inf".toList then pure (1 / 0)
    else if text.contains ':' then
      (parts text).mapM fraction >>= fun found => sixtiethFraction 1 0 found.reverse
    else fraction text
  return .float (if negative then -1 * size else size)

/-! ## Bytes -/

/-- The six bits that a character of the base-64 alphabet stands for. -/
def sixBits? (c : Char) : Option Nat :=
  if 'A' ≤ c && c ≤ 'Z' then some (c.toNat - 'A'.toNat)
  else if 'a' ≤ c && c ≤ 'z' then some (c.toNat - 'a'.toNat + 26)
  else if '0' ≤ c && c ≤ '9' then some (c.toNat - '0'.toNat + 52)
  else if c = '+' then some 62
  else if c = '/' then some 63
  else none

/-- Decode base 64. `pending` are the six bits since the last full group, latest first, and `pads`
the equals signs since then. Other characters are skipped; equals signs that complete a group end
the text. -/
def bytesFrom (pending : List Nat) (pads : Nat) : List Char → Option (List UInt8)
  | [] => if pending.isEmpty then some [] else none
  | c :: rest =>
    if c = '=' then
      if 2 ≤ pending.length then
        if 4 ≤ pending.length + pads + 1 then some [] else bytesFrom pending (pads + 1) rest
      else bytesFrom pending pads rest
    else match sixBits? c with
      | none => bytesFrom pending pads rest
      | some bits =>
        match pending with
        | [] => bytesFrom [bits] 0 rest
        | last :: _ =>
          let full := pending.length = 3
          let byte := match pending.length with
            | 1 => last * 4 + bits / 16
            | 2 => last % 16 * 16 + bits / 4
            | _ => last % 4 * 64 + bits
          (bytesFrom (if full then [] else bits :: pending) 0 rest).map (UInt8.ofNat byte :: ·)

/-- The bytes that a text means. -/
def bytes (text : String) : Except Fault Value :=
  if text.toList.any (0x80 ≤ ·.toNat) then .error (.malformed .badBytes)
  else match bytesFrom [] 0 text.toList with
    | some found => .ok (.bytes found)
    | none => .error (.malformed .badBytes)

/-! ## Dates and times -/

/-- A part of a timestamp that is kept. -/
def part (index : Nat) (body : Pattern) : Pattern := .group index body

/-- The texts of dates and times with their parts: year, month, day, hour, minute, second, fraction,
zone, and the sign, hours and minutes of the zone. -/
def timestampParts : Pattern :=
  let zone := part 8 (.orElse (.literal "Z")
    (.sequence [part 9 (oneOf "-+"), part 10 upToTwoDigits,
      .optional (.andThen (.literal ":") (part 11 twoDigits))]))
  let time := .sequence [.orElse (oneOf "Tt") (.many1 blank), part 4 upToTwoDigits, .literal ":",
    part 5 twoDigits, .literal ":", part 6 twoDigits,
    .optional (.andThen (.literal ".") (part 7 (.many digit))),
    .optional (.andThen (.many blank) zone)]
  .sequence [part 1 (.andThen twoDigits twoDigits), .literal "-", part 2 upToTwoDigits,
    .literal "-", part 3 upToTwoDigits, .optional time, .anchored .lastLineEnd]

/-- Microseconds from the digits after the point. -/
def microseconds (digits : List Char) : Nat :=
  (Text.natural? 10 ((digits ++ List.replicate 6 '0').take 6)).getD 0

/-- The date or moment that a text means. -/
def timestamp (text : String) : Except Fault Value := do
  let some found := Pattern.matchAt timestampParts false (.start text.toList)
    | throw .notATimestamp
  let number (index : Nat) : Nat := ((found.capture? index).bind (Text.natural? 10)).getD 0
  let date := Date.make (number 1) (number 2) (number 3)
  if (found.capture? 4).isNone then
    return .date (← date.mapError .calendar)
  else
    let minutes : Int := number 10 * 60 + number 11
    let offset := match found.capture? 9 with
      | some sign => some (if sign = ['-'] then -minutes else minutes)
      | none => (found.capture? 8).map fun _ => 0
    let fraction := microseconds ((found.capture? 7).getD [])
    let moment := Moment.make date (number 4) (number 5) (number 6) fraction offset
    return .moment (← moment.mapError .calendar)

/-- What the text of a scalar of some kind means. -/
def value (tag : Tag) (text : String) : Except Fault Value :=
  match tag with
  | .null => .ok .null
  | .bool => bool text
  | .int => int text
  | .float => float text
  | .text => .ok (.text text)
  | .bytes => bytes text
  | .timestamp => timestamp text
  | .merge => .error (.malformed (.unknownTag (standardHandle ++ "merge")))
  | .value => .error (.malformed (.unknownTag (standardHandle ++ "value")))
  | .unknown name => .error (.malformed (.unknownTag name))
  | .sequence | .mapping | .set | .orderedMapping | .pairs => .error (.malformed .wrongKind)

end OpcachePreload.Yaml.Scalar
