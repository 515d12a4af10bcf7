import Mathlib.Data.List.Induction
import OpcachePreload.Proofs.Action
import OpcachePreload.Proofs.Json.Grammar
import OpcachePreload.Proofs.Json.Written

/-!
# Reading strings

A string is read exactly as it is written: what its pieces write, with the halves of pairs of
surrogates put together.
-/

namespace OpcachePreload.Json

variable {text rest digits inside : List Char} {code : Nat} {codes : List Nat}

/-! ## Surrogates -/

/-- No character is half of a pair of surrogates. -/
theorem not_isSurrogate_toNat (c : Char) :
    isHighSurrogate c.toNat = false ∧ isLowSurrogate c.toNat = false := by
  have valid := c.valid
  simp only [UInt32.isValidChar, Nat.isValidChar, Char.toNat_val] at valid
  simp only [isHighSurrogate, isLowSurrogate, Bool.and_eq_false_iff, decide_eq_false_iff_not]
  omega

/-- A code is a code point of its own unless the next one completes it. -/
theorem paired_cons (alone : ∀ low ∈ codes.head?,
    (isHighSurrogate code && isLowSurrogate low) = false) :
    paired (code :: codes) = code :: paired codes := by
  cases codes with
  | nil => rfl
  | cons low rest => rw [paired, if_neg (by simp [alone low rfl])]

theorem paired_pair {high low : Nat} (both : (isHighSurrogate high && isLowSurrogate low) = true)
    (codes : List Nat) :
    paired (high :: low :: codes) = joinSurrogates high low :: paired codes := by
  rw [paired, if_pos both]

/-! ## Codes -/

/-- Four hexadecimal digits write one code, whatever follows them. -/
theorem exists_hexDigits (read : hexCode? text = some (code, rest)) :
    ∃ digits, digits.length = 4 ∧ text = digits ++ rest ∧
      ∀ more, hexCode? (digits ++ more) = some (code, more) := by
  match text with
  | a :: b :: c :: d :: after =>
      simp only [hexCode?, Option.bind_eq_bind, Option.bind_eq_some_iff] at read
      obtain ⟨a', a_read, b', b_read, c', c_read, d', d_read, given⟩ := read
      obtain ⟨rfl, rfl⟩ := Prod.mk.inj (Option.some.inj given)
      refine ⟨[a, b, c, d], rfl, rfl, fun more => ?_⟩
      simp [hexCode?, a_read, b_read, c_read, d_read]
  | [] | [_] | [_, _] | [_, _, _] => cases read

theorem hexCode?_eq_some (read : hexCode? text = some (code, rest)) :
    ∃ digits, hexCode? digits = some (code, []) ∧ text = digits ++ rest := by
  obtain ⟨digits, _, split, reads⟩ := exists_hexDigits read
  exact ⟨digits, by simpa using reads [], split⟩

theorem hexCode?_append (hex : hexCode? digits = some (code, [])) (rest : List Char) :
    hexCode? (digits ++ rest) = some (code, rest) := by
  obtain ⟨same, _, split, reads⟩ := exists_hexDigits hex
  rw [List.append_nil] at split
  rw [split]
  exact reads rest

theorem four_lt_length (hex : hexCode? digits = some (code, [])) (more : rest ≠ []) :
    4 < (digits ++ rest).length := by
  obtain ⟨same, four, split, _⟩ := exists_hexDigits hex
  rw [List.append_nil] at split
  have := List.length_pos_iff.mpr more
  rw [List.length_append, split, four]
  omega

/-- A text that goes on with the second half of a pair of surrogates. -/
def StartsLow (text : List Char) : Prop :=
  ∃ digits low rest, text = '\\' :: 'u' :: (digits ++ rest) ∧ rest ≠ [] ∧
    hexCode? digits = some (low, []) ∧ isLowSurrogate low = true

theorem not_startsLow_of_short (short : text.length ≤ 4) : ¬StartsLow ('\\' :: 'u' :: text) := by
  rintro ⟨digits, low, rest, same, some_rest, hex, _⟩
  obtain rfl := (List.cons.inj (List.cons.inj same).2).2
  exact absurd (four_lt_length hex some_rest) (Nat.not_lt.mpr short)

theorem not_startsLow_of_hexCode? (hex : hexCode? text = some (code, rest))
    (not_low : ¬isLowSurrogate code = true) : ¬StartsLow ('\\' :: 'u' :: text) := by
  rintro ⟨digits, low, more, same, _, low_hex, is_low⟩
  obtain rfl := (List.cons.inj (List.cons.inj same).2).2
  rw [hexCode?_append low_hex] at hex
  obtain ⟨rfl, _⟩ := Prod.mk.inj (Option.some.inj hex)
  exact not_low is_low

/-- An escape by code is read as one code, or as a pair. -/
theorem codeEscape_eq_ok (read : codeEscape text = .ok (code, rest)) :
    (∃ digits, hexCode? digits = some (code, []) ∧ text = digits ++ rest ∧
      (isHighSurrogate code = true → ¬StartsLow rest)) ∨
    ∃ high low first second, hexCode? first = some (high, []) ∧ hexCode? second = some (low, []) ∧
      (isHighSurrogate high && isLowSurrogate low) = true ∧ code = joinSurrogates high low ∧
      text = first ++ '\\' :: 'u' :: (second ++ rest) := by
  unfold codeEscape at read
  dsimp only at read
  split at read
  · cases read
  split at read
  · cases read
  rename_i n after hex
  obtain ⟨first, first_hex, split⟩ := hexCode?_eq_some hex
  split at read
  · rename_i high
    split at read
    · rename_i second
      split at read
      · rename_i short
        obtain ⟨rfl, rfl⟩ := Prod.mk.inj (Except.ok.inj read)
        exact .inl ⟨first, first_hex, split, fun _ => not_startsLow_of_short short⟩
      split at read
      · cases read
      rename_i low later low_hex
      split at read
      · rename_i is_low
        obtain ⟨rfl, rfl⟩ := Prod.mk.inj (Except.ok.inj read)
        obtain ⟨digits, digits_hex, low_split⟩ := hexCode?_eq_some low_hex
        exact .inr ⟨n, low, first, digits, first_hex, digits_hex, by simp [high, is_low], rfl,
          by rw [split, low_split]⟩
      · rename_i not_low
        obtain ⟨rfl, rfl⟩ := Prod.mk.inj (Except.ok.inj read)
        exact .inl ⟨first, first_hex, split, fun _ => not_startsLow_of_hexCode? low_hex not_low⟩
    · rename_i other
      obtain ⟨rfl, rfl⟩ := Prod.mk.inj (Except.ok.inj read)
      refine .inl ⟨first, first_hex, split, fun _ => ?_⟩
      rintro ⟨digits, low, more, same, _⟩
      exact other _ same
  · rename_i not_high
    obtain ⟨rfl, rfl⟩ := Prod.mk.inj (Except.ok.inj read)
    exact .inl ⟨first, first_hex, split, fun high => absurd high not_high⟩

/-- A code is read alone unless the next one completes it. -/
theorem codeEscape_of_alone (hex : hexCode? digits = some (code, [])) (more : rest ≠ [])
    (alone : isHighSurrogate code = true → ∀ second, rest = '\\' :: 'u' :: second →
      ∃ other after, hexCode? second = some (other, after) ∧ isLowSurrogate other = false) :
    codeEscape (digits ++ rest) = .ok (code, rest) := by
  simp only [codeEscape, Nat.not_le.mpr (four_lt_length hex more), if_false,
    hexCode?_append hex rest]
  split
  · rename_i high
    split
    · rename_i second
      obtain ⟨other, after, other_hex, not_low⟩ := alone high second rfl
      split
      · rfl
      · simp [other_hex, not_low]
    · rfl
  · rfl

/-- The halves of a pair are read together. -/
theorem codeEscape_of_pair {high low : Nat} {first second : List Char}
    (high_hex : hexCode? first = some (high, [])) (low_hex : hexCode? second = some (low, []))
    (both : (isHighSurrogate high && isLowSurrogate low) = true) (more : rest ≠ []) :
    codeEscape (first ++ '\\' :: 'u' :: (second ++ rest)) =
      .ok (joinSurrogates high low, rest) := by
  obtain ⟨is_high, is_low⟩ := Bool.and_eq_true_iff.mp both
  simp only [codeEscape, Nat.not_le.mpr (four_lt_length high_hex (List.cons_ne_nil _ _)), if_false,
    hexCode?_append high_hex, is_high, if_true, Nat.not_le.mpr (four_lt_length low_hex more),
    hexCode?_append low_hex, is_low]

/-! ## Pieces -/

/-- Half of a pair of surrogates is written by code only. -/
theorem Piece.of_isSurrogate {piece : List Char} (spells : Piece piece code)
    (surrogate : isHighSurrogate code = true ∨ isLowSurrogate code = true) :
    ∃ digits, piece = '\\' :: 'u' :: digits ∧ hexCode? digits = some (code, []) := by
  cases spells with
  | plain => simp [not_isSurrogate_toNat] at surrogate
  | letter => simp [not_isSurrogate_toNat] at surrogate
  | code hex => exact ⟨_, rfl, hex⟩

/-- What starts like an escape by code is one. -/
theorem Piece.hexCode?_of_append_eq {piece second : List Char} (spells : Piece piece code)
    (same : piece ++ rest = '\\' :: 'u' :: second) : hexCode? second = some (code, rest) := by
  cases spells with
  | plain _ not_backslash => exact absurd (List.cons.inj same).1 not_backslash
  | letter stands =>
      obtain rfl := (List.cons.inj (List.cons.inj same).2).1
      cases stands
  | code hex =>
      obtain rfl := (List.cons.inj (List.cons.inj same).2).2
      exact hexCode?_append hex rest

/-- A piece is read as its code unless the next one completes it. -/
theorem stringFrom_piece {piece : List Char} (spells : Piece piece code) (more : rest ≠ [])
    (alone : isHighSurrogate code = true → ∀ second, rest = '\\' :: 'u' :: second →
      ∃ other after, hexCode? second = some (other, after) ∧ isLowSurrogate other = false)
    (start fuel : Nat) :
    stringFrom start (fuel + 1) (piece ++ rest) =
      (stringFrom start fuel rest).map fun found => (code :: found.1, found.2) := by
  cases spells with
  | plain not_quote not_backslash visible =>
      simp only [List.singleton_append, stringFrom, not_quote, not_backslash,
        Nat.not_le.mpr visible, if_false]
      cases stringFrom start fuel rest <;> rfl
  | @letter letter c stands =>
      have not_code : letter ≠ 'u' := by
        rintro rfl
        cases stands
      exact stringFrom_simpleEscape start fuel rest not_code stands
  | code hex =>
      have not_quote : '\\' ≠ '"' := by decide
      simp only [List.cons_append, stringFrom, not_quote, if_false, if_true,
        codeEscape_of_alone hex more alone, bind, Except.bind]
      cases stringFrom start fuel rest <;> rfl

/-- What stands before a closing quote does not complete a code unless its first piece does. -/
theorem alone_of_pieces {pieces : List (List Char × Nat)}
    (spells : ∀ piece ∈ pieces, Piece piece.1 piece.2)
    (alone : ∀ low ∈ (pieces.map Prod.snd).head?,
      (isHighSurrogate code && isLowSurrogate low) = false)
    (is_high : isHighSurrogate code = true) (second : List Char)
    (same : pieces.flatMap Prod.fst ++ '"' :: rest = '\\' :: 'u' :: second) :
    ∃ other after, hexCode? second = some (other, after) ∧ isLowSurrogate other = false := by
  cases pieces with
  | nil => cases same
  | cons piece pieces =>
      rw [List.flatMap_cons, List.append_assoc] at same
      have not_low := alone piece.2 rfl
      rw [is_high, Bool.true_and] at not_low
      exact ⟨piece.2, _, (spells piece List.mem_cons_self).hexCode?_of_append_eq same, not_low⟩

theorem stringFrom_cons {start fuel : Nat} {piece : List Char × Nat}
    {pieces : List (List Char × Nat)}
    (spells : ∀ other ∈ piece :: pieces, Piece other.1 other.2)
    (alone : ∀ low ∈ (pieces.map Prod.snd).head?,
      (isHighSurrogate piece.2 && isLowSurrogate low) = false)
    (read : stringFrom start fuel (pieces.flatMap Prod.fst ++ '"' :: rest) =
      .ok (paired (pieces.map Prod.snd), rest)) :
    stringFrom start (fuel + 1) ((piece :: pieces).flatMap Prod.fst ++ '"' :: rest) =
      .ok (paired ((piece :: pieces).map Prod.snd), rest) := by
  have more : pieces.flatMap Prod.fst ++ '"' :: rest ≠ [] := by simp
  rw [List.flatMap_cons, List.append_assoc, stringFrom_piece (spells piece List.mem_cons_self) more
    (alone_of_pieces (fun other later => spells other (List.mem_cons_of_mem _ later)) alone), read,
    List.map_cons, paired_cons alone]
  rfl

theorem stringFrom_cons_cons {start fuel : Nat} {first second : List Char × Nat}
    {pieces : List (List Char × Nat)} (first_spells : Piece first.1 first.2)
    (second_spells : Piece second.1 second.2)
    (both : (isHighSurrogate first.2 && isLowSurrogate second.2) = true)
    (read : stringFrom start fuel (pieces.flatMap Prod.fst ++ '"' :: rest) =
      .ok (paired (pieces.map Prod.snd), rest)) :
    stringFrom start (fuel + 1) ((first :: second :: pieces).flatMap Prod.fst ++ '"' :: rest) =
      .ok (paired ((first :: second :: pieces).map Prod.snd), rest) := by
  obtain ⟨is_high, is_low⟩ := Bool.and_eq_true_iff.mp both
  obtain ⟨high_digits, first_eq, high_hex⟩ := first_spells.of_isSurrogate (.inl is_high)
  obtain ⟨low_digits, second_eq, low_hex⟩ := second_spells.of_isSurrogate (.inr is_low)
  have not_quote : '\\' ≠ '"' := by decide
  have more : pieces.flatMap Prod.fst ++ '"' :: rest ≠ [] := by simp
  simp only [List.flatMap_cons, first_eq, second_eq, List.cons_append, List.append_assoc,
    List.map_cons, stringFrom, not_quote, if_false, if_true,
    codeEscape_of_pair high_hex low_hex both more, paired_pair both, bind, Except.bind, read]
  rfl

/-- The pieces of a string are read up to its closing quote. -/
theorem stringFrom_pieces (start : Nat) (pieces : List (List Char × Nat)) (rest : List Char)
    (spells : ∀ piece ∈ pieces, Piece piece.1 piece.2) {fuel : Nat}
    (enough : pieces.length < fuel) :
    stringFrom start fuel (pieces.flatMap Prod.fst ++ '"' :: rest) =
      .ok (paired (pieces.map Prod.snd), rest) := by
  induction pieces using List.twoStepInduction generalizing fuel with
  | nil =>
      obtain ⟨fuel, rfl⟩ := Nat.exists_eq_succ_of_ne_zero (Nat.ne_zero_of_lt enough)
      rfl
  | singleton piece =>
      obtain ⟨fuel, rfl⟩ : ∃ left, fuel = left + 1 + 1 := Nat.exists_eq_add_of_le' enough
      exact stringFrom_cons spells (by simp) rfl
  | cons_cons first second pieces two_later one_later =>
      obtain ⟨fuel, rfl⟩ := Nat.exists_eq_succ_of_ne_zero (Nat.ne_zero_of_lt enough)
      have left := Nat.lt_of_succ_lt_succ enough
      cases both : isHighSurrogate first.2 && isLowSurrogate second.2 with
      | true =>
          exact stringFrom_cons_cons (spells first (by simp)) (spells second (by simp)) both
            (two_later (fun piece listed => spells piece (by simp [listed]))
              (Nat.lt_of_succ_lt left))
      | false =>
          exact stringFrom_cons spells (by simpa using both) (one_later second
            (fun piece listed => spells piece (List.mem_cons_of_mem _ listed)) left)

theorem length_le_length_pieces {pieces : List (List Char × Nat)}
    (spells : ∀ piece ∈ pieces, Piece piece.1 piece.2) :
    pieces.length ≤ (pieces.flatMap Prod.fst).length := by
  induction pieces with
  | nil => exact Nat.le_refl 0
  | cons piece pieces ih =>
      have later := ih fun other listed => spells other (List.mem_cons_of_mem _ listed)
      have here : 0 < piece.1.length := by
        have first := spells piece List.mem_cons_self
        generalize piece.1 = text, piece.2 = code at first
        cases first <;> exact Nat.succ_pos _
      rw [List.flatMap_cons, List.length_append, List.length_cons]
      omega

/-- A string is read as its code points. -/
theorem stringAfterQuote_of_quoted (quoted : Quoted inside codes) (rest : List Char) :
    stringAfterQuote (inside ++ '"' :: rest) = .ok (codes, rest) := by
  obtain ⟨pieces, spells, rfl, rfl⟩ := quoted
  apply stringFrom_pieces _ pieces rest spells
  have short := length_le_length_pieces spells
  rw [List.length_append]
  omega

/-! ## What is read was written -/

/-- Some pieces up to a closing quote. -/
def Closed (text : List Char) (codes : List Nat) (rest : List Char) : Prop :=
  ∃ pieces : List (List Char × Nat), (∀ piece ∈ pieces, Piece piece.1 piece.2) ∧
    text = pieces.flatMap Prod.fst ++ '"' :: rest ∧ codes = paired (pieces.map Prod.snd)

/-- A piece before others that do not complete it. -/
theorem Closed.cons {piece : List Char} (closed : Closed text codes rest)
    (spells : Piece piece code) (alone : isHighSurrogate code = true → ¬StartsLow text) :
    Closed (piece ++ text) (code :: codes) rest := by
  obtain ⟨pieces, all_spell, rfl, rfl⟩ := closed
  refine ⟨(piece, code) :: pieces, List.forall_mem_cons.mpr ⟨spells, all_spell⟩, ?_, ?_⟩
  · rw [List.flatMap_cons, List.append_assoc]
  · rw [List.map_cons, paired_cons]
    intro low listed
    rw [Bool.and_eq_false_iff]
    cases is_high : isHighSurrogate code with
    | false => exact .inl rfl
    | true =>
        right
        by_contra is_low
        rw [Bool.not_eq_false] at is_low
        cases pieces with
        | nil => cases listed
        | cons next pieces =>
            obtain rfl : next.2 = low := Option.some.inj listed
            obtain ⟨digits, same, hex⟩ :=
              (all_spell next List.mem_cons_self).of_isSurrogate (.inr is_low)
            exact alone is_high ⟨digits, next.2, pieces.flatMap Prod.fst ++ '"' :: rest,
              by simp [same], by simp, hex, is_low⟩

theorem Closed.cons_char {piece : List Char} {c : Char} (closed : Closed text codes rest)
    (spells : Piece piece c.toNat) : Closed (piece ++ text) (c.toNat :: codes) rest :=
  closed.cons spells fun is_high => by simp [not_isSurrogate_toNat] at is_high

/-- Both halves of a pair before other pieces. -/
theorem Closed.pair {high low : Nat} {first second : List Char} (closed : Closed text codes rest)
    (high_hex : hexCode? first = some (high, [])) (low_hex : hexCode? second = some (low, []))
    (both : (isHighSurrogate high && isLowSurrogate low) = true) :
    Closed ('\\' :: 'u' :: (first ++ '\\' :: 'u' :: (second ++ text)))
      (joinSurrogates high low :: codes) rest := by
  obtain ⟨pieces, all_spell, rfl, rfl⟩ := closed
  refine ⟨('\\' :: 'u' :: first, high) :: ('\\' :: 'u' :: second, low) :: pieces,
    List.forall_mem_cons.mpr ⟨.code high_hex, List.forall_mem_cons.mpr ⟨.code low_hex, all_spell⟩⟩,
    by simp, ?_⟩
  rw [List.map_cons, List.map_cons, paired_pair both]

theorem closed_of_stringFrom {start fuel : Nat}
    (read : stringFrom start fuel text = .ok (codes, rest)) : Closed text codes rest := by
  induction fuel generalizing text codes with
  | zero => cases read
  | succ fuel ih =>
      cases text with
      | nil => cases read
      | cons c text =>
          unfold stringFrom at read
          split at read
          · subst_vars
            obtain ⟨rfl, rfl⟩ := Prod.mk.inj (Except.ok.inj read)
            exact ⟨[], by simp, rfl, rfl⟩
          split at read
          · subst_vars
            split at read
            · cases read
            · obtain ⟨⟨code, after⟩, escape, read⟩ := bind_eq_ok_iff.mp read
              obtain ⟨⟨later, _⟩, later_read, given⟩ := bind_eq_ok_iff.mp read
              obtain ⟨rfl, rfl⟩ := Prod.mk.inj (Except.ok.inj given)
              rcases codeEscape_eq_ok escape with
                ⟨digits, hex, rfl, alone⟩ |
                  ⟨high, low, first, second, high_hex, low_hex, both, code_eq, text_eq⟩
              · exact (ih later_read).cons (.code hex) alone
              · rw [code_eq, text_eq]
                exact (ih later_read).pair high_hex low_hex both
            · split at read
              · cases read
              · rename_i stands
                obtain ⟨⟨later, _⟩, later_read, given⟩ := bind_eq_ok_iff.mp read
                obtain ⟨rfl, rfl⟩ := Prod.mk.inj (Except.ok.inj given)
                exact (ih later_read).cons_char (.letter stands)
          split at read
          · cases read
          · rename_i not_quote not_backslash visible
            obtain ⟨⟨later, _⟩, later_read, given⟩ := bind_eq_ok_iff.mp read
            obtain ⟨rfl, rfl⟩ := Prod.mk.inj (Except.ok.inj given)
            exact (ih later_read).cons_char
              (.plain not_quote not_backslash (Nat.lt_of_not_le visible))

/-- What is read as a string is written as it. -/
theorem quoted_of_stringAfterQuote (read : stringAfterQuote text = .ok (codes, rest)) :
    ∃ inside, Quoted inside codes ∧ text = inside ++ '"' :: rest := by
  obtain ⟨pieces, spells, split, paired_eq⟩ := closed_of_stringFrom read
  exact ⟨_, ⟨pieces, spells, rfl, paired_eq⟩, split⟩

/-- No digits are counted in strings. -/
theorem codeEscape_ne_tooManyDigits (text : List Char) (count : Nat) :
    codeEscape text ≠ .error (.tooManyDigits count) := by
  unfold codeEscape
  dsimp only
  repeat' split
  all_goals simp

theorem stringFrom_ne_tooManyDigits (start fuel : Nat) (text : List Char) (count : Nat) :
    stringFrom start fuel text ≠ .error (.tooManyDigits count) := by
  induction fuel generalizing text with
  | zero => simp [stringFrom]
  | succ fuel ih =>
      cases text with
      | nil => simp [stringFrom]
      | cons c text =>
          intro fails
          have later {after : List Char} {code : Nat}
              (fails : (stringFrom start fuel after >>= fun found =>
                .ok (code :: found.1, found.2)) = .error (.tooManyDigits count)) : False := by
            rcases bind_eq_error_iff.mp fails with stopped | ⟨_, _, given⟩
            · exact ih after stopped
            · cases given
          unfold stringFrom at fails
          split at fails
          · cases fails
          split at fails
          · split at fails
            · cases fails
            · rcases bind_eq_error_iff.mp fails with stopped | ⟨_, _, fails⟩
              · exact codeEscape_ne_tooManyDigits _ _ stopped
              · exact later fails
            · split at fails
              · cases fails
              · exact later fails
          split at fails
          · cases fails
          · exact later fails

theorem stringAfterQuote_ne_tooManyDigits (text : List Char) (count : Nat) :
    stringAfterQuote text ≠ .error (.tooManyDigits count) :=
  stringFrom_ne_tooManyDigits _ _ text count

end OpcachePreload.Json
