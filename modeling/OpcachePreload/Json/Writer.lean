import OpcachePreload.Text.Quoted

/-!
# Writing JSON

Strings are written between double quotes; only quotes, backslashes and control characters are
escaped. An array is written with one element a line, and an empty one as a pair of brackets.
-/

namespace OpcachePreload.Json

/-- A character inside a string. -/
def writtenChar (c : Char) : List Char :=
  if c = '"' then ['\\', '"']
  else if c = '\\' then ['\\', '\\']
  else if c = '\n' then ['\\', 'n']
  else if c = '\r' then ['\\', 'r']
  else if c = '\t' then ['\\', 't']
  else if c.toNat = 8 then ['\\', 'b']
  else if c.toNat = 12 then ['\\', 'f']
  else if c.toNat < 0x20 then '\\' :: 'u' :: Text.hex 4 c.toNat
  else [c]

/-- A string. -/
def writtenString (text : List Char) : List Char :=
  '"' :: text.flatMap writtenChar ++ ['"']

/-- A line break with the indentation of the given depth. -/
def lineBreak (depth : Nat) : List Char :=
  '\n' :: List.replicate (4 * depth) ' '

/-- Things on lines of their own with commas between them. -/
def commaLines (depth : Nat) : List (List Char) → List Char
  | [] => []
  | [item] => lineBreak depth ++ item
  | item :: rest => lineBreak depth ++ item ++ ',' :: commaLines depth rest

/-- An array of strings inside `depth` other things. -/
def writtenArray (depth : Nat) (items : List String) : List Char :=
  if items.isEmpty then ['[', ']']
  else
    '[' :: commaLines (depth + 1) (items.map fun item => writtenString item.toList) ++
      lineBreak depth ++ [']']

/-- An object whose members are arrays of strings, at least one. -/
def writtenObject (members : List (String × List String)) : List Char :=
  '\x7b' :: commaLines 1 (members.map fun member =>
    writtenString member.1.toList ++ ':' :: ' ' :: writtenArray 1 member.2) ++
    lineBreak 0 ++ ['\x7d']

end OpcachePreload.Json
