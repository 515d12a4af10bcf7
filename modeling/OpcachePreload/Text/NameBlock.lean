import OpcachePreload.Text.Split

/-!
# Blocks of names

The names of characters that follow one another, with what they all start with written once.
-/

namespace OpcachePreload.Text

/-- The part of a name after its start, if it starts so. -/
def afterStart? (start : String) (name : List Char) : Option (List Char) :=
  if start.toList.isPrefixOf name then some (name.drop start.length) else none

/-- Names of the characters from a first one on. -/
structure NameBlock where
  /-- The first code point. -/
  first : Nat
  /-- What the names start with. -/
  start : String
  /-- What follows it in the names, in the order of the characters and with `;` between. All are in
  capitals, so the `x` that stands for a missing character names none. -/
  lines : List String

namespace NameBlock

/-- What follows the start in the names, in the order of the characters. -/
def ends (block : NameBlock) : List (List Char) :=
  block.lines.flatMap fun line => split ';' line.toList

/-- The code point with a name. -/
def find? (block : NameBlock) (name : List Char) : Option Nat := do
  let rest ← afterStart? block.start name
  let place ← block.ends.findIdx? (· = rest)
  return block.first + place

end NameBlock

end OpcachePreload.Text
