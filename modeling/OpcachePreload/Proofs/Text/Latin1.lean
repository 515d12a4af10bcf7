import OpcachePreload.Proofs.Text.Blur
import OpcachePreload.Proofs.Text.Utf8

/-!
# Latin-1 read as UTF-8

A text in Latin-1 has one byte for each character. Read leniently as UTF-8, its ASCII characters are
what they were, each in its place: a piece that starts with another byte goes on over such bytes
only and stands for a character beyond ASCII.
-/

namespace OpcachePreload.Text

/-- The bytes of a text in Latin-1, which has the characters up to U+00FF. -/
def Latin1.encode (text : List Char) : List UInt8 :=
  text.map fun c => UInt8.ofNat c.toNat

namespace Utf8

/-- How many bytes a piece has. -/
def Piece.size : Piece → Nat
  | scalar _ size => size
  | malformed _ size => size

/-- The character that stands for a piece in a lenient reading. -/
def Piece.char : Piece → Char
  | scalar c _ => c
  | malformed _ _ => Char.ofNat 0xfffd

theorem decodeLossyFrom_zero (b : UInt8) (rest : List UInt8) :
    decodeLossyFrom 0 (b :: rest) =
      (piece b rest).char :: decodeLossyFrom ((piece b rest).size - 1) rest := by
  rw [decodeLossyFrom]
  cases piece b rest <;> rfl

theorem isAscii_ofNat {n : Nat} (large : 0x80 ≤ n)
    (valid : n < 0xd800 ∨ 0xdfff < n ∧ n < 0x110000) : isAscii (Char.ofNat n) = false := by
  have code : (Char.ofNat n).toNat = n := by
    rw [Char.ofNat, dif_pos valid]
    rfl
  rw [isAscii, code, decide_eq_false_iff_not]
  omega

theorem high_of_isContinuation {b : UInt8} (continues : isContinuation b = true) :
    0x80 ≤ b.toNat :=
  (isContinuation_iff.mp continues).1

theorem high_of_isSecond {first second : UInt8} (follows : isSecond first second = true) :
    0x80 ≤ second.toNat :=
  (isSecond_iff.mp follows).1.1

/-! The character of two, three or four bytes is beyond ASCII, since there are no overlong forms. -/

section

variable {first second : UInt8}

theorem isAscii_two (large : 0xc2 ≤ first.toNat) (two : first.toNat < 0xe0) :
    isAscii (Char.ofNat (first.toNat % 0x20 * 0x40 + payload second)) = false := by
  unfold payload
  exact isAscii_ofNat (by omega) (by omega)

theorem isAscii_three (large : 0xe0 ≤ first.toNat) (three : first.toNat < 0xf0)
    (follows : isSecond first second = true) (third : UInt8) :
    isAscii (Char.ofNat
      ((first.toNat % 0x10 * 0x40 + payload second) * 0x40 + payload third)) = false := by
  rw [isSecond_iff] at follows
  unfold payload
  exact isAscii_ofNat (by omega) (by omega)

theorem isAscii_four (large : 0xf0 ≤ first.toNat) (four : first.toNat < 0xf5)
    (follows : isSecond first second = true) (third fourth : UInt8) :
    isAscii (Char.ofNat
      (((first.toNat % 0x08 * 0x40 + payload second) * 0x40 + payload third) * 0x40 +
        payload fourth)) = false := by
  rw [isSecond_iff] at follows
  unfold payload
  exact isAscii_ofNat (by omega) (by omega)

end

/-- A piece that starts with a byte beyond ASCII goes on over such bytes only, and stands for a
character beyond ASCII. -/
theorem piece_of_high {first : UInt8} (high : 0x80 ≤ first.toNat) (rest : List UInt8) :
    isAscii (piece first rest).char = false ∧
      ∀ b ∈ rest.take ((piece first rest).size - 1), 0x80 ≤ b.toNat := by
  fun_cases piece first rest
  all_goals simp only [UInt8.lt_iff_toNat_lt, UInt8.le_iff_toNat_le, UInt8.reduceToNat,
    Bool.or_eq_true, decide_eq_true_eq, Bool.not_eq_true', Bool.not_eq_false, Bool.not_eq_true] at *
  case case1 low => omega
  case case4 second _ continues _ start two =>
    refine ⟨isAscii_two (by omega) two, ?_⟩
    simpa [Piece.size] using high_of_isContinuation continues
  case case9 second third _ continues _ _ large three follows =>
    refine ⟨isAscii_three (Nat.not_lt.mp large) three follows third, ?_⟩
    simpa [Piece.size] using ⟨high_of_isSecond follows, high_of_isContinuation continues⟩
  case case16 second third fourth _ continues _ start _ large follows continues' =>
    refine ⟨isAscii_four (Nat.not_lt.mp large) (by omega) follows third fourth, ?_⟩
    simpa [Piece.size] using ⟨high_of_isSecond follows, high_of_isContinuation continues',
      high_of_isContinuation continues⟩
  -- what is left is malformed, up to the first byte that does not go on
  all_goals
    refine ⟨isAscii_mark, ?_⟩
    simp_all [Piece.size, isSecond_iff, isContinuation_iff]

end Utf8

open Utf8

/-- Bytes that belong to a piece already read are passed over; they are all beyond ASCII, and the
piece has begun a run. -/
theorem blurFrom_decodeLossyFrom {text : List Char} (latin : ∀ c ∈ text, c.toNat ≤ 0xff)
    {skip : Nat} (skipped : ∀ c ∈ text.take skip, isAscii c = false) {inside : Bool}
    (begun : 0 < skip → inside = true) :
    blurFrom inside (decodeLossyFrom skip (Latin1.encode text)) = blurFrom inside text := by
  induction text generalizing skip inside with
  | nil => rfl
  | cons c text ih =>
      have latin_text : ∀ d ∈ text, d.toNat ≤ 0xff :=
        fun d later => latin d (List.mem_cons_of_mem c later)
      have byte : (UInt8.ofNat c.toNat).toNat = c.toNat :=
        toNat_byte (Nat.lt_succ_of_le (latin c List.mem_cons_self))
      change blurFrom inside (decodeLossyFrom skip (UInt8.ofNat c.toNat :: Latin1.encode text)) = _
      cases skip with
      | succ skip =>
          have foreign : isAscii c = false := skipped c (by simp)
          obtain rfl : inside = true := begun (Nat.succ_pos skip)
          rw [decodeLossyFrom, blurFrom_true_cons foreign]
          exact ih latin_text (fun d within => skipped d (by simp [within])) fun _ => rfl
      | zero =>
          rw [decodeLossyFrom_zero]
          cases known : isAscii c with
          | true =>
              have small : c.toNat < 0x80 := of_decide_eq_true known
              rw [piece_one _ small, Piece.char, Char.ofNat_toNat, blurFrom_cons_of_ascii known,
                blurFrom_cons_of_ascii known]
              congr 1
              exact ih latin_text (by simp [Piece.size]) (by simp [Piece.size])
          | false =>
              have large : 0x80 ≤ (UInt8.ofNat c.toNat).toNat := by
                rw [byte]
                exact Nat.not_lt.mp (of_decide_eq_false known)
              obtain ⟨foreign, high⟩ := piece_of_high large (Latin1.encode text)
              apply blurFrom_cons_congr foreign known
              apply ih latin_text
              · intro d within
                have among : UInt8.ofNat d.toNat ∈ (Latin1.encode text).take
                    ((piece (UInt8.ofNat c.toNat) (Latin1.encode text)).size - 1) := by
                  rw [Latin1.encode, ← List.map_take]
                  exact List.mem_map_of_mem within
                have high_d := high _ among
                rw [toNat_byte (Nat.lt_succ_of_le (latin_text d (List.mem_of_mem_take within)))]
                  at high_d
                exact decide_eq_false (Nat.not_lt.mpr high_d)
              · exact fun _ => rfl

/-- A text is the same up to characters beyond ASCII when its bytes in Latin-1 are read as UTF-8. -/
theorem blur_decodeLossy_latin1 {text : List Char} (latin : ∀ c ∈ text, c.toNat ≤ 0xff) :
    blur (decodeLossy (Latin1.encode text)) = blur text :=
  blurFrom_decodeLossyFrom latin (by simp) (by simp)

end OpcachePreload.Text
