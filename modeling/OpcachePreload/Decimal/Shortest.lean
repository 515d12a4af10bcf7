/-!
# Shortest decimals

The shortest decimal that reads back as a given binary fraction, and among the shortest the one
nearest to it. A finite double is `significand * 2 ^ exponent`; the reals that round to it form an
interval that holds its ends exactly when the significand is even. On the grid of decimals with a
given number of digits, only the two neighbours of the value can be nearest in that interval, so the
first grid with a neighbour inside decides.
-/

namespace OpcachePreload.Decimal

/-- A finite double without its sign. -/
structure Binary where
  significand : Nat
  exponent : Int
  /-- Whether the double below is nearer than the one above. -/
  atPowerOfTwo : Bool
  deriving DecidableEq, Repr

/-- What the bits of a double mean. -/
inductive Reading where
  | finite (negative : Bool) (value : Binary)
  | infinite (negative : Bool)
  | notANumber
  deriving DecidableEq, Repr

/-- Read the bits of a double. -/
def Reading.ofBits (bits : UInt64) : Reading :=
  let n : Nat := bits.toNat
  let negative := n / 0x8000000000000000 == 1
  let field : Nat := n / 0x10000000000000 % 0x800
  let fraction : Nat := n % 0x10000000000000
  if field = 2047 then
    if fraction = 0 then .infinite negative else .notANumber
  else if field = 0 then .finite negative ⟨fraction, -1074, false⟩
  else .finite negative ⟨0x10000000000000 + fraction, (field : Int) - 1075,
    fraction == 0 && 1 < field⟩

/-- Digits and the place of the point: the value is `0.d₁d₂… * 10 ^ point`. -/
structure Digits where
  digits : List Char
  point : Int
  deriving DecidableEq, Repr

/-- `n * base ^ power` for a power that may be negative, as a numerator over a denominator. -/
def scaled (base n : Nat) (power : Int) : Nat × Nat :=
  if 0 ≤ power then (n * base.pow power.toNat, 1) else (n, base.pow (-power).toNat)

/-- The least power of ten above a positive fraction: `10 ^ (p - 1) ≤ num / den < 10 ^ p`. -/
def pointOf (num den : Nat) : Int :=
  let size (n : Nat) : Int := (Nat.toDigits 10 n).length
  let guess := size num - size den
  let (scaledNum, scaledDen) := scaled 10 1 guess
  if num * scaledDen < den * scaledNum then guess else guess + 1

/-- The interval of a binary fraction in quarters of its last place: its ends and its middle. -/
def Binary.quarters (value : Binary) : Nat × Nat × Nat :=
  let middle := 4 * value.significand
  (middle - (if value.atPowerOfTwo then 1 else 2), middle, middle + 2)

/-- The decimal with `count` digits that lies in the interval and is nearest, if there is one. -/
def Binary.onGrid (value : Binary) (point : Int) (count : Nat) : Option Nat :=
  let (low, middle, high) := value.quarters
  let (unitNum, unitDen) := scaled 2 1 (value.exponent - 2)
  let (stepNum, stepDen) := scaled 10 1 (point - count)
  -- quarters and grid points over the common denominator `unitDen * stepDen`
  let quarter := unitNum * stepDen
  let step := stepNum * unitDen
  let inside (n : Nat) : Bool :=
    if value.significand % 2 == 0 then low * quarter ≤ n * step && n * step ≤ high * quarter
    else low * quarter < n * step && n * step < high * quarter
  let below := middle * quarter / step
  let above := below + 1
  let distanceBelow := middle * quarter - below * step
  let distanceAbove := above * step - middle * quarter
  match inside below, inside above with
  | true, true =>
    if distanceBelow < distanceAbove then some below
    else if distanceAbove < distanceBelow then some above
    else some (if below % 2 == 0 then below else above)
  | true, false => some below
  | false, true => some above
  | false, false => none

/-- The first grid with a decimal in the interval, from `count` digits on. -/
def Binary.firstGrid (value : Binary) (point : Int) : (fuel count : Nat) → Nat × Nat
  | 0, count => (0, count)
  | fuel + 1, count =>
    match value.onGrid point count with
    | some n => (n, count)
    | none => firstGrid value point fuel (count + 1)

/-- Drop the zeros at the end of some digits, but keep one digit. -/
def dropZeros (digits : List Char) : List Char :=
  let kept := (digits.reverse.dropWhile (· == '0')).reverse
  if kept.isEmpty then ['0'] else kept

/-- The shortest decimal that reads back as the value. Seventeen digits always do. -/
def Binary.shortest (value : Binary) : Digits :=
  if value.significand = 0 then ⟨['0'], 1⟩
  else
    let (num, den) := scaled 2 value.significand value.exponent
    let point := pointOf num den
    let (n, count) := value.firstGrid point 17 1
    let digits := Nat.toDigits 10 n
    ⟨dropZeros digits, point + digits.length - count⟩

end OpcachePreload.Decimal
