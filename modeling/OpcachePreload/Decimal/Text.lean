import OpcachePreload.Decimal.Shortest
import OpcachePreload.Text.Blank
import OpcachePreload.Text.Digit
import OpcachePreload.Text.Lowercase

/-!
# Decimals as text

How a double is shown and how a written number is read. Which values are shown with an exponent, and
how the exponent looks, is decided in one place, `shown`.
-/

namespace OpcachePreload.Decimal

/-- How doubles are shown: the places of the point that are written without an exponent, the least
number of digits of an exponent, and the texts of the values that have no digits. -/
structure Layout where
  leastPoint : Int
  greatestPoint : Int
  exponentDigits : Nat
  infinity : String
  notANumber : String
  deriving DecidableEq, Repr

/-- Values from 0.0001 up to below ten quadrillions are written without an exponent, others with one
of two digits at least. -/
def shown : Layout where
  leastPoint := -3
  greatestPoint := 16
  exponentDigits := 2
  infinity := "inf"
  notANumber := "nan"

/-- Digits with a point and no exponent. -/
def positional (digits : Digits) : List Char :=
  if digits.point ≤ 0 then
    '0' :: '.' :: List.replicate (-digits.point).toNat '0' ++ digits.digits
  else
    let whole := digits.digits.take digits.point.toNat
    let zeros := List.replicate (digits.point.toNat - digits.digits.length) '0'
    let rest := digits.digits.drop digits.point.toNat
    whole ++ zeros ++ '.' :: (if rest.isEmpty then ['0'] else rest)

/-- Digits with an exponent. -/
def Layout.exponential (layout : Layout) (digits : Digits) : List Char :=
  let exponent := digits.point - 1
  let text := Nat.toDigits 10 exponent.natAbs
  let padded := List.replicate (layout.exponentDigits - text.length) '0' ++ text
  let mantissa := match digits.digits with
    | [d] => [d]
    | d :: rest => d :: '.' :: rest
    | [] => ['0']
  mantissa ++ 'e' :: (if exponent < 0 then '-' else '+') :: padded

/-- The text of a double. -/
def Layout.text (layout : Layout) (x : Float) : String :=
  match Reading.ofBits x.toBits with
  | .notANumber => layout.notANumber
  | .infinite negative => (if negative then "-" else "") ++ layout.infinity
  | .finite negative value =>
    let digits := value.shortest
    let body :=
      if layout.leastPoint ≤ digits.point && digits.point ≤ layout.greatestPoint then
        positional digits
      else layout.exponential digits
    (if negative then "-" else "") ++ String.ofList body

/-- The double nearest to `digits * 10 ^ exponent`. -/
def nearest (digits : Nat) (exponent : Int) : Float :=
  let magnitude := exponent + (Nat.toDigits 10 digits).length
  if digits = 0 then 0
  else if 400 < magnitude then 1 / 0
  else if magnitude < -400 then 0
  else Float.ofScientific digits (decide (exponent < 0)) exponent.natAbs

/-- A written number, taken apart. -/
structure Written where
  digits : Nat
  exponent : Int
  deriving DecidableEq, Repr

/-- Digits at the front, each with or without an underscore before it, which is left out: their
values and what follows. -/
def laterDigits : List Char → List Nat × List Char
  | '_' :: c :: rest =>
    match Text.digitValue? c with
    | none => ([], '_' :: c :: rest)
    | some d =>
      let (more, tail) := laterDigits rest
      (d :: more, tail)
  | c :: rest =>
    match Text.digitValue? c with
    | none => ([], c :: rest)
    | some d =>
      let (more, tail) := laterDigits rest
      (d :: more, tail)
  | [] => ([], [])

/-- Digits at the front, single underscores between them left out: their values and what follows. -/
def digitsOf : List Char → List Nat × List Char
  | '_' :: rest => ([], '_' :: rest)
  | text => laterDigits text

/-- The number that some digits write. -/
def value (digits : List Nat) : Nat :=
  digits.foldl (fun n d => 10 * n + d) 0

/-- Read digits with a point and an exponent, either of which may be missing. -/
def written? (text : List Char) : Option Written :=
  let (whole, rest) := digitsOf text
  let (fraction, rest) := match rest with
    | '.' :: rest => digitsOf rest
    | _ => ([], rest)
  if whole.isEmpty && fraction.isEmpty then none
  else
    let mantissa := value (whole ++ fraction)
    let scale : Int := -(fraction.length : Int)
    let signed (negative : Bool) (rest : List Char) : Option Written :=
      match digitsOf rest with
      | ([], _) => none
      | (digits, []) =>
        some ⟨mantissa, scale + (if negative then -(value digits : Int) else value digits)⟩
      | _ => none
    match rest with
    | [] => some ⟨mantissa, scale⟩
    | e :: rest =>
      if e = 'e' || e = 'E' then
        match rest with
        | '-' :: rest => signed true rest
        | '+' :: rest => signed false rest
        | rest => signed false rest
      else none

/-- Read a number without its sign; infinity and the value that is no number go by name. -/
def unsigned? (text : List Char) : Option Float :=
  let name := String.ofList (text.map Text.lower)
  if name == "inf" || name == "infinity" then some (1 / 0)
  else if name == "nan" then some (0 / 0)
  else (written? text).map fun w => nearest w.digits w.exponent

/-- Read a number with blanks around it and a sign. -/
def read? (text : List Char) : Option Float :=
  match Text.trim text with
  | '-' :: rest => (unsigned? rest).map (- ·)
  | '+' :: rest => unsigned? rest
  | rest => unsigned? rest

end OpcachePreload.Decimal
