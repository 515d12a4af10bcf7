import Mathlib.Algebra.Group.Nat.Defs
import OpcachePreload.Module.Name

/-!
# Names of modules that clash

The name of a module tells the stem of its file and the first word of the digest of its path, and
nothing else. So two files of one stem clash as soon as the digests of their paths begin with the
same word, and such paths exist.
-/

namespace OpcachePreload

/-! ## Hexadecimal digits -/

namespace Text

/-- The last digit of a number is that of its remainder, and the others are those of the quotient.
-/
theorem hex_succ (width n : Nat) :
    hex (width + 2) n = hex (width + 1) (n / 16) ++ [(n % 16).digitChar] := by
  unfold hex
  by_cases small : n < 16
  · rw [Nat.toDigits_of_lt_base small, Nat.div_eq_of_lt small, Nat.mod_eq_of_lt small,
      Nat.toDigits_zero]
    simp [← List.replicate_succ']
  · rw [Nat.toDigits_of_base_le (by decide) (Nat.le_of_not_lt small)]
    simp

theorem length_hex_of_lt {width n : Nat} (small : n < 16 ^ (width + 1)) :
    (hex (width + 1) n).length = width + 1 := by
  have short := (Nat.length_toDigits_le_iff (by decide) (Nat.succ_pos width)).mpr small
  rw [hex, List.length_append, List.length_replicate]
  exact Nat.sub_add_cancel short

theorem digitChar_injective_of_lt {n m : Nat} (n_small : n < 16) (m_small : m < 16)
    (same : n.digitChar = m.digitChar) : n = m := by
  have all : ∀ a b : Fin 16, a.val.digitChar = b.val.digitChar → a = b := by decide
  exact congrArg Fin.val (all ⟨n, n_small⟩ ⟨m, m_small⟩ same)

/-- Digits tell the number. -/
theorem hex_injective {width n m : Nat} (same : hex (width + 1) n = hex (width + 1) m)
    (n_small : n < 16 ^ (width + 1)) (m_small : m < 16 ^ (width + 1)) : n = m := by
  induction width generalizing n m with
  | zero =>
      have n_digit : n < 16 := by simpa using n_small
      have m_digit : m < 16 := by simpa using m_small
      simp only [hex, Nat.toDigits_of_lt_base n_digit, Nat.toDigits_of_lt_base m_digit] at same
      exact digitChar_injective_of_lt n_digit m_digit (by simpa using same)
  | succ width ih =>
      rw [hex_succ, hex_succ] at same
      obtain ⟨others, last⟩ := List.append_inj' same rfl
      rw [Nat.pow_succ'] at n_small m_small
      have quotient : n / 16 = m / 16 :=
        ih others (Nat.div_lt_of_lt_mul n_small) (Nat.div_lt_of_lt_mul m_small)
      have remainder : n % 16 = m % 16 :=
        digitChar_injective_of_lt (Nat.mod_lt _ (by decide)) (Nat.mod_lt _ (by decide))
          (List.cons.inj last).1
      omega

end Text

/-! ## Digests -/

namespace Digest

/-- Sixteen words are one block. -/
theorem blocks_of_length_eq (s : Words) {all : List UInt32} (one : all.length = 16) :
    blocks s all = block s all := by
  have none_left : (all.drop 16).length < 16 := by simp [one]
  rw [blocks, if_neg (by simp [one]), blocks, if_pos none_left,
    List.take_of_length_le (Nat.le_of_eq one)]

end Digest

/-! ## Names -/

namespace Module

/-- The word of a path that the name of its module tells. -/
def mark (path : Path) : UInt32 :=
  (Digest.sha1 (Text.Utf8.encode (toString path).toList)).a

theorem toList_name (path : Path) :
    (name path).toList = namePrefix.toList ++ (path.stem.toList ++ ('_' ::
      Text.hex 8 (mark path).toNat)) := by
  simp [name, mark]

/-- Modules have one name exactly when their files have one stem and the digests of their paths
begin with one word. -/
theorem name_eq_iff {path other : Path} :
    name path = name other ↔ path.stem = other.stem ∧ mark path = mark other := by
  constructor
  · intro same
    have spelled := congrArg String.toList same
    rw [toList_name, toList_name, List.append_cancel_left_eq] at spelled
    have length_eq (word : UInt32) : (Text.hex 8 word.toNat).length = 8 :=
      Text.length_hex_of_lt word.toNat_lt
    obtain ⟨stem_same, rest_same⟩ := List.append_inj' spelled (by simp [length_eq])
    have digits_same := (List.cons.inj rest_same).2
    have word_same := Text.hex_injective digits_same (mark path).toNat_lt
      (mark other).toNat_lt
    exact ⟨String.toList_inj.mp stem_same, UInt32.toNat_inj.mp word_same⟩
  · rintro ⟨stem_same, word_same⟩
    apply String.toList_inj.mp
    rw [toList_name, toList_name, stem_same, word_same]

/-- A path of one block is marked by what that block gives. -/
theorem mark_eq_of_length {path : Path}
    (one : (Digest.words (Digest.padded (Text.Utf8.encode (toString path).toList))).length = 16) :
    mark path = (Digest.block ⟨0x67452301, 0xefcdab89, 0x98badcfe, 0x10325476, 0xc3d2e1f0⟩
      (Digest.words (Digest.padded (Text.Utf8.encode (toString path).toList)))).a := by
  rw [mark, Digest.sha1, Digest.blocks_of_length_eq _ one]

/-- Two files of one stem in different directories. -/
def clashing (directory : String) : Path := ⟨.slash, ["www", directory, "preload.py"]⟩

theorem name_clashing : name (clashing "1992") = name (clashing "32377") := by
  rw [name_eq_iff]
  refine ⟨by decide, ?_⟩
  rw [mark_eq_of_length (by decide), mark_eq_of_length (by decide)]
  decide +kernel

end Module

end OpcachePreload
