import OpcachePreload.Text.Visible

/-!
# Quoted text

How a diagnostic shows a text: between quotes, with a backslash before what would be misread and a
number in place of what cannot be seen. Double quotes are used only for a text that holds a single
quote and no double one.
-/

namespace OpcachePreload.Text

/-- The digits of `n` in lower-case hexadecimal, at least `width` of them. -/
def hex (width n : Nat) : List Char :=
  let digits := Nat.toDigits 16 n
  List.replicate (width - digits.length) '0' ++ digits

/-- The quote that surrounds a text. -/
def quoteFor (text : List Char) : Char :=
  if text.contains '\'' && !text.contains '"' then '"' else '\''

/-- The shown form of the code point `n`, which stands for no visible character. -/
def numbered (n : Nat) : List Char :=
  if n < 0x100 then '\\' :: 'x' :: hex 2 n
  else if n < 0x10000 then '\\' :: 'u' :: hex 4 n
  else '\\' :: 'U' :: hex 8 n

/-- The shown form of one character between quotes of the given kind. -/
def shownChar (quote c : Char) : List Char :=
  if c = quote || c = '\\' then ['\\', c]
  else if c = '\n' then ['\\', 'n']
  else if c = '\r' then ['\\', 'r']
  else if c = '\t' then ['\\', 't']
  else if isVisible c then [c]
  else numbered c.toNat

/-- A text between quotes. -/
def quotedChars (text : List Char) : List Char :=
  let quote := quoteFor text
  quote :: text.flatMap (shownChar quote) ++ [quote]

/-- A text between quotes. -/
def quoted (text : String) : String :=
  String.ofList (quotedChars text.toList)

/-- Bytes between quotes: all but the visible ASCII characters by number, after the letter b. -/
def quotedBytes (bytes : List UInt8) : String :=
  let text := bytes.map fun b => Char.ofNat b.toNat
  let quote := quoteFor text
  let shown (c : Char) : List Char :=
    if c.toNat < 0x80 then shownChar quote c else numbered c.toNat
  String.ofList ('b' :: quote :: text.flatMap shown ++ [quote])

end OpcachePreload.Text
