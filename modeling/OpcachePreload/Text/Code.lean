/-!
# Code points of texts

A text may be given by its code points, some of which are lone surrogates and so are no characters.
Where a text of characters is needed, each of those is stood in for by the private character of the
last plane that has its code but for the plane.
-/

namespace OpcachePreload.Text

/-- The code points of a text. -/
def codes (text : String) : List Nat := text.toList.map Char.toNat

/-- The character of a code point, or the one that stands in for it. -/
def characterOf (code : Nat) : Char :=
  if code.isValidChar then Char.ofNat code else Char.ofNat (0x100000 + code)

/-- The text that code points make. -/
def ofCodes (codes : List Nat) : String := String.ofList (codes.map characterOf)

theorem characterOf_toNat (c : Char) : characterOf c.toNat = c := by
  have valid : c.toNat.isValidChar := c.valid
  rw [characterOf, if_pos valid, Char.ofNat_toNat]

@[simp]
theorem ofCodes_codes (text : String) : ofCodes (codes text) = text := by
  have same : characterOf ∘ Char.toNat = id := funext characterOf_toNat
  rw [ofCodes, codes, List.map_map, same, List.map_id, String.ofList_toList]

end OpcachePreload.Text
