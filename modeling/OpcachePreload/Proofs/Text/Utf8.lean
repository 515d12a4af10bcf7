import OpcachePreload.Text.Utf8

/-!
# Decoding what was encoded

The bytes of a text are decoded as that text: those of a character are a piece of their own,
whatever follows them.
-/

namespace OpcachePreload.Text.Utf8

/-! ## Bytes as numbers -/

/-- A number that fits is that of its byte. -/
theorem toNat_byte {n : Nat} (fits : n < 256) : (UInt8.ofNat n).toNat = n := by
  rw [UInt8.toNat_ofNat', Nat.mod_eq_of_lt fits]

theorem isContinuation_iff {b : UInt8} :
    isContinuation b = true ↔ 0x80 ≤ b.toNat ∧ b.toNat < 0xc0 := by
  simp only [isContinuation, Bool.and_eq_true, decide_eq_true_eq, UInt8.le_iff_toNat_le,
    UInt8.lt_iff_toNat_lt, UInt8.reduceToNat]

theorem isSecond_iff {first second : UInt8} :
    isSecond first second = true ↔
      (0x80 ≤ second.toNat ∧ second.toNat < 0xc0) ∧
        (first.toNat = 0xe0 → 0xa0 ≤ second.toNat) ∧ (first.toNat = 0xed → second.toNat < 0xa0) ∧
        (first.toNat = 0xf0 → 0x90 ≤ second.toNat) ∧
          (first.toNat = 0xf4 → second.toNat < 0x90) := by
  simp only [isSecond, Bool.and_eq_true, Bool.or_eq_true, bne_iff_ne, ne_eq, decide_eq_true_eq,
    isContinuation_iff, UInt8.le_iff_toNat_le, UInt8.lt_iff_toNat_lt, ← UInt8.toNat_inj,
    UInt8.reduceToNat, Decidable.imp_iff_not_or, and_assoc]

/-- The byte that continues a character with the last six bits of a number. -/
theorem continuation_byte (n : Nat) :
    isContinuation (UInt8.ofNat (n % 0x40 + 0x80)) = true ∧
      payload (UInt8.ofNat (n % 0x40 + 0x80)) = n % 0x40 := by
  rw [isContinuation_iff, payload, toNat_byte (by omega)]
  omega

/-! ## Pieces

A character has one, two, three or four bytes, by its code `n`. -/

variable {n : Nat}

theorem piece_one (rest : List UInt8) (small : n < 0x80) :
    piece (UInt8.ofNat n) rest = .scalar (Char.ofNat n) 1 := by
  simp only [piece, UInt8.lt_iff_toNat_lt, UInt8.reduceToNat]
  rw [toNat_byte (by omega), if_pos small]

theorem piece_two (rest : List UInt8) (large : 0x80 ≤ n) (small : n < 0x800) :
    piece (UInt8.ofNat (n / 0x40 % 0x20 + 0xc0)) (UInt8.ofNat (n % 0x40 + 0x80) :: rest) =
      .scalar (Char.ofNat n) 2 := by
  obtain ⟨continues, last⟩ := continuation_byte n
  simp only [piece, continues, last, UInt8.lt_iff_toNat_lt, UInt8.le_iff_toNat_le,
    UInt8.reduceToNat, Bool.or_eq_true, decide_eq_true_eq, if_true]
  rw [toNat_byte (by omega), if_neg (by omega), if_neg (by omega), if_pos (by omega)]
  congr 2
  omega

theorem piece_three (rest : List UInt8) (large : 0x800 ≤ n) (small : n < 0x10000)
    (valid : n < 0xd800 ∨ 0xdfff < n) :
    piece (UInt8.ofNat (n / 0x1000 % 0x10 + 0xe0)) (UInt8.ofNat (n / 0x40 % 0x40 + 0x80) ::
      UInt8.ofNat (n % 0x40 + 0x80) :: rest) = .scalar (Char.ofNat n) 3 := by
  obtain ⟨continues, last⟩ := continuation_byte n
  obtain ⟨_, middle⟩ := continuation_byte (n / 0x40)
  have second : isSecond (UInt8.ofNat (n / 0x1000 % 0x10 + 0xe0))
      (UInt8.ofNat (n / 0x40 % 0x40 + 0x80)) = true := by
    rw [isSecond_iff, toNat_byte (by omega), toNat_byte (by omega)]
    omega
  simp only [piece, second, continues, last, middle, UInt8.lt_iff_toNat_lt, UInt8.le_iff_toNat_le,
    UInt8.reduceToNat, Bool.or_eq_true, decide_eq_true_eq, if_true, Bool.not_true,
    Bool.false_eq_true, if_false]
  rw [toNat_byte (by omega), if_neg (by omega), if_neg (by omega), if_neg (by omega),
    if_pos (by omega)]
  congr 2
  omega

theorem piece_four (rest : List UInt8) (large : 0x10000 ≤ n) (small : n < 0x110000) :
    piece (UInt8.ofNat (n / 0x40000 % 0x08 + 0xf0)) (UInt8.ofNat (n / 0x1000 % 0x40 + 0x80) ::
      UInt8.ofNat (n / 0x40 % 0x40 + 0x80) :: UInt8.ofNat (n % 0x40 + 0x80) :: rest) =
        .scalar (Char.ofNat n) 4 := by
  obtain ⟨continues, last⟩ := continuation_byte n
  obtain ⟨continues', third⟩ := continuation_byte (n / 0x40)
  obtain ⟨_, middle⟩ := continuation_byte (n / 0x1000)
  have second : isSecond (UInt8.ofNat (n / 0x40000 % 0x08 + 0xf0))
      (UInt8.ofNat (n / 0x1000 % 0x40 + 0x80)) = true := by
    rw [isSecond_iff, toNat_byte (by omega), toNat_byte (by omega)]
    omega
  simp only [piece, second, continues, continues', last, third, middle, UInt8.lt_iff_toNat_lt,
    UInt8.le_iff_toNat_le, UInt8.reduceToNat, Bool.or_eq_true, decide_eq_true_eq, if_true,
    Bool.not_true, Bool.false_eq_true, if_false]
  rw [toNat_byte (by omega), if_neg (by omega), if_neg (by omega), if_neg (by omega),
    if_neg (by omega)]
  congr 2
  omega

/-- The bytes of a character are a piece, whatever follows them. -/
theorem piece_utf8EncodeChar (c : Char) (rest : List UInt8) :
    ∃ first more, String.utf8EncodeChar c = first :: more ∧
      piece first (more ++ rest) = .scalar c (more.length + 1) := by
  have valid : c.val.toNat < 0xd800 ∨ 0xdfff < c.val.toNat ∧ c.val.toNat < 0x110000 := c.valid
  have same : Char.ofNat c.val.toNat = c := Char.ofNat_toNat c
  unfold String.utf8EncodeChar
  generalize c.val.toNat = code at valid same ⊢
  subst same
  dsimp only
  split
  · exact ⟨_, _, rfl, piece_one rest (by omega)⟩
  split
  · exact ⟨_, _, rfl, piece_two rest (by omega) (by omega)⟩
  split
  · exact ⟨_, _, rfl, piece_three rest (by omega) (by omega) (by omega)⟩
  · exact ⟨_, _, rfl, piece_four rest (by omega) (by omega)⟩

/-! ## Texts -/

/-- Bytes that belong to a character already read are passed over. -/
theorem decodeFrom_skip (position : Nat) (passed rest : List UInt8) :
    decodeFrom position passed.length (passed ++ rest) =
      decodeFrom (position + passed.length) 0 rest := by
  induction passed generalizing position with
  | nil => rfl
  | cons b passed ih =>
      rw [List.length_cons, List.cons_append, decodeFrom, ih]
      congr 1
      omega

theorem decodeFrom_encode (position : Nat) (text : List Char) :
    decodeFrom position 0 (encode text) = .ok text := by
  induction text generalizing position with
  | nil => rfl
  | cons c text ih =>
      obtain ⟨first, more, bytes, read⟩ := piece_utf8EncodeChar c (encode text)
      have split : encode (c :: text) = first :: (more ++ encode text) := by
        rw [encode, List.flatMap_cons, bytes]
        rfl
      rw [split, decodeFrom, read]
      simp only [Nat.add_sub_cancel, decodeFrom_skip, ih]
      rfl

/-- The bytes of a text are decoded as that text. -/
@[simp]
theorem decode_encode (text : List Char) : decode (encode text) = .ok text :=
  decodeFrom_encode 0 text

theorem decodeLossyFrom_skip (passed rest : List UInt8) :
    decodeLossyFrom passed.length (passed ++ rest) = decodeLossyFrom 0 rest := by
  induction passed with
  | nil => rfl
  | cons b passed ih =>
      rw [List.length_cons, List.cons_append, decodeLossyFrom]
      exact ih

/-- They are so leniently, too: nothing in them is malformed. -/
@[simp]
theorem decodeLossy_encode (text : List Char) : decodeLossy (encode text) = text := by
  unfold decodeLossy
  induction text with
  | nil => rfl
  | cons c text ih =>
      obtain ⟨first, more, bytes, read⟩ := piece_utf8EncodeChar c (encode text)
      have split : encode (c :: text) = first :: (more ++ encode text) := by
        rw [encode, List.flatMap_cons, bytes]
        rfl
      rw [split, decodeLossyFrom, read]
      simp only [Nat.add_sub_cancel, decodeLossyFrom_skip, ih]

end OpcachePreload.Text.Utf8
