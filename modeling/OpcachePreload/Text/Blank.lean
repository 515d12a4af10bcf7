import OpcachePreload.Text.CodeRange

/-!
# Blank characters

The characters that separate words: the whitespace of Unicode 14 together with the four
information separators U+001C to U+001F.
-/

namespace OpcachePreload.Text

/-- Blank characters, in increasing order. -/
def blankRanges : List CodeRange := [
  ⟨0x9, 0xd⟩, ⟨0x1c, 0x20⟩, ⟨0x85, 0x85⟩, ⟨0xa0, 0xa0⟩, ⟨0x1680, 0x1680⟩,
  ⟨0x2000, 0x200a⟩, ⟨0x2028, 0x2029⟩, ⟨0x202f, 0x202f⟩, ⟨0x205f, 0x205f⟩, ⟨0x3000, 0x3000⟩]

/-- A whitespace character. -/
def isBlank (c : Char) : Bool :=
  blankRanges.any (·.covers c)

/-- `text` without the blanks at its front. -/
def trimStart (text : List Char) : List Char :=
  text.dropWhile isBlank

/-- `text` without the blanks at its end. -/
def trimEnd (text : List Char) : List Char :=
  (text.reverse.dropWhile isBlank).reverse

/-- `text` without the blanks at both ends. -/
def trim (text : List Char) : List Char :=
  trimEnd (trimStart text)

end OpcachePreload.Text
