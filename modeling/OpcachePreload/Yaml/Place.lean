import OpcachePreload.Yaml.Fault

/-!
# Places in a YAML text

Where reading has got to: what is left, and the index, line and column of its first character. The
tokens of YAML depend on all three.
-/

namespace OpcachePreload.Yaml

/-- A line break. -/
def isBreak (c : Char) : Bool :=
  c == '\n' || c == '\r' || c == Char.ofNat 0x85 || c == Char.ofNat 0x2028 || c == Char.ofNat 0x2029

/-- The end of the text or of a line. -/
def endsLine : Option Char → Bool
  | none => true
  | some c => isBreak c

/-- The end of the text or of a line, or a space. -/
def endsField : Option Char → Bool
  | none => true
  | some c => c == ' ' || isBreak c

/-- The end of the text or of a line, a space or a tab. -/
def endsWord : Option Char → Bool
  | none => true
  | some c => c == ' ' || c == '\t' || isBreak c

/-- A character of the names of anchors, handles and directives. -/
def isNameChar (c : Char) : Bool :=
  (c.isAlphanum && c.toNat < 0x80) || c == '-' || c == '_'

/-- Where reading has got to. -/
structure Place where
  rest : List Char
  index : Nat
  line : Nat
  column : Nat
  deriving DecidableEq, Repr

namespace Place

/-- The start of a text. -/
def start (text : List Char) : Place := ⟨text, 0, 0, 0⟩

/-- The character `n` further on. -/
def peek (place : Place) (n : Nat := 0) : Option Char := place.rest[n]?

/-- The place after one more character. -/
def step (place : Place) : Place :=
  match place.rest with
  | [] => place
  | c :: rest =>
    if isBreak c && !(c == '\r' && rest.head? == some '\n') then
      ⟨rest, place.index + 1, place.line + 1, 0⟩
    else
      let width := if c == Char.ofNat 0xfeff then 0 else 1
      ⟨rest, place.index + 1, place.line, place.column + width⟩

/-- The place after `n` more characters. -/
def forward : Nat → Place → Place
  | 0, place => place
  | n + 1, place => forward n place.step

/-- The next `n` characters. -/
def ahead (place : Place) (n : Nat) : List Char := place.rest.take n

/-- The characters at the front for which a test holds, and the place after them. -/
def span (place : Place) (test : Char → Bool) : List Char × Place :=
  let found := place.rest.takeWhile test
  (found, place.forward found.length)

/-- The place after the spaces at the front. -/
def skipSpaces (place : Place) : Place := (place.span (· == ' ')).2

/-- The place at the end of the line if a comment starts here. -/
def skipComment (place : Place) : Place :=
  if place.peek == some '#' then (place.span fun c => !isBreak c).2 else place

/-- A line break at the front, in the form in which it counts, and the place after it. -/
def lineBreak (place : Place) : List Char × Place :=
  match place.peek with
  | some c =>
    if c == '\r' && place.peek 1 == some '\n' then (['\n'], place.forward 2)
    else if c == Char.ofNat 0x2028 || c == Char.ofNat 0x2029 then ([c], place.forward 1)
    else if isBreak c then (['\n'], place.forward 1)
    else ([], place)
  | none => ([], place)

/-- Whether three dashes or dots stand here as a separator of documents. -/
def isSeparator (place : Place) : Bool :=
  (place.ahead 3 == ['-', '-', '-'] || place.ahead 3 == ['.', '.', '.']) &&
    endsWord (place.peek 3)

/-- Reject the text. -/
def reject {α : Type} (_ : Place) (problem : Problem) : Except Fault α :=
  .error (.malformed problem)

end Place

end OpcachePreload.Yaml
