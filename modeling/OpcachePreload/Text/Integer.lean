import OpcachePreload.Text.Blank
import OpcachePreload.Text.Digit

/-!
# Whole numbers as text

How a written integer is read: blanks around it, a sign, a mark of the base where the base has one,
and digits of any script in groups that single underscores may separate.
-/

namespace OpcachePreload.Text

/-- The value of a digit, letters counting on from ten. -/
def digitIn (base : Nat) (c : Char) : Option Nat :=
  let value :=
    if 'a' ≤ c ∧ c ≤ 'z' then some (c.toNat - 'a'.toNat + 10)
    else if 'A' ≤ c ∧ c ≤ 'Z' then some (c.toNat - 'A'.toNat + 10)
    else digitValue? c
  value.filter (· < base)

/-- Read digits after the value `soFar`; an underscore may stand before a digit. -/
def digitsFrom (base : Nat) (soFar : Nat) : List Char → Option Nat
  | [] => some soFar
  | '_' :: c :: rest => (digitIn base c).bind fun d => digitsFrom base (soFar * base + d) rest
  | c :: rest => (digitIn base c).bind fun d => digitsFrom base (soFar * base + d) rest

/-- Read an unsigned number: at least one digit, the first not after an underscore. -/
def natural? (base : Nat) : List Char → Option Nat
  | [] => none
  | c :: rest => (digitIn base c).bind fun d => digitsFrom base d rest

/-- The letter that marks a base after a zero. -/
def baseMark? : Nat → Option Char
  | 2 => some 'b'
  | 8 => some 'o'
  | 16 => some 'x'
  | _ => none

/-- Drop the mark of the base at the front, and one underscore after it. -/
def dropBaseMark (base : Nat) : List Char → List Char
  | '0' :: c :: rest =>
    if baseMark? base = some c.toLower then
      match rest with
      | '_' :: rest => rest
      | rest => rest
    else '0' :: c :: rest
  | text => text

/-- Read a whole number written to a base. -/
def integer? (base : Nat) (text : List Char) : Option Int :=
  match trim text with
  | '-' :: rest => (natural? base (dropBaseMark base rest)).map fun n => -(n : Int)
  | '+' :: rest => (natural? base (dropBaseMark base rest)).map Int.ofNat
  | rest => (natural? base (dropBaseMark base rest)).map Int.ofNat

/-- The most digits that a decimal integer may be written with. -/
def digitLimit : Nat := 4300

/-- The wording for an integer that is written with more digits. -/
def tooManyDigitsMessage (digits : Nat) : String :=
  "Exceeds the limit (4300 digits) for integer string conversion: value has " ++ toString digits ++
    " digits; use sys.set_int_max_str_digits() to increase the limit"

end OpcachePreload.Text
