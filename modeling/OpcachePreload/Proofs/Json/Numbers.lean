import Mathlib.Data.List.TakeWhile
import OpcachePreload.Proofs.Json.Grammar
import OpcachePreload.Proofs.Text.Run

/-!
# Reading numbers

A number is read exactly as it is written, part by part, if what follows it cannot be taken for more
of it. An integer that has more digits than are read is a run of that many digits in the text.
-/

namespace OpcachePreload.Json

variable {text rest digits : List Char} {numeral : Numeral}

/-! ## Digits -/

/-- A text that does not go on with a digit. -/
def StopsDigits (text : List Char) : Prop := ∀ c ∈ text.head?, c.isDigit = false

theorem digitsAtFront_append (front : Digits digits) (stops : StopsDigits rest) :
    digitsAtFront (digits ++ rest) = (digits, rest) := by
  rw [digitsAtFront, List.takeWhile_append_of_pos front, List.dropWhile_append_of_pos front,
    Text.takeWhile_of_ends stops, Text.dropWhile_of_ends stops, List.append_nil]

theorem digits_digitsAtFront (text : List Char) :
    Digits (digitsAtFront text).1 ∧ text = (digitsAtFront text).1 ++ (digitsAtFront text).2 :=
  ⟨fun _ present => List.mem_takeWhile_imp present, (List.takeWhile_append_dropWhile).symm⟩

/-! ## Parts -/

theorem WholeDigits.exists_cons (whole : WholeDigits digits) :
    ∃ c more, digits = c :: more ∧ c.isDigit = true := by
  rcases whole with rfl | ⟨some_digits, _, all⟩
  · exact ⟨'0', [], rfl, rfl⟩
  · obtain ⟨c, more, rfl⟩ := List.exists_cons_of_ne_nil some_digits
    exact ⟨c, more, rfl, all c List.mem_cons_self⟩

theorem WholeDigits.all_digits (whole : WholeDigits digits) : Digits digits := by
  rcases whole with rfl | ⟨_, _, all⟩
  · simp [Digits]
  · exact all

theorem wholeAtFront_append (whole : WholeDigits digits) (stops : StopsDigits rest) :
    wholeAtFront (digits ++ rest) = (digits, rest) := by
  rcases whole with rfl | ⟨some_digits, no_zero, all⟩
  · rfl
  · obtain ⟨c, more, rfl⟩ := List.exists_cons_of_ne_nil some_digits
    have front := digitsAtFront_append all stops
    unfold wholeAtFront
    split
    · rename_i same
      exact absurd (congrArg List.head? same) (by simpa using no_zero)
    · exact front

theorem wholeDigits_wholeAtFront (text : List Char) :
    ((wholeAtFront text).1 ≠ [] → WholeDigits (wholeAtFront text).1) ∧
      text = (wholeAtFront text).1 ++ (wholeAtFront text).2 := by
  unfold wholeAtFront
  split
  · exact ⟨fun _ => .inl rfl, rfl⟩
  · rename_i no_zero
    obtain ⟨all, split⟩ := digits_digitsAtFront text
    refine ⟨fun some_digits => .inr ⟨some_digits, ?_, all⟩, split⟩
    intro zero
    obtain ⟨more, digits_eq⟩ := List.head?_eq_some_iff.mp zero
    rw [digits_eq] at split
    exact no_zero _ split

theorem fractionAtFront_append (front : Digits digits) (stops : StopsDigits rest)
    (no_point : digits = [] → rest.head? ≠ some '.') :
    fractionAtFront (Numeral.fractionText digits ++ rest) = (digits, rest) := by
  cases digits with
  | nil =>
      change fractionAtFront rest = ([], rest)
      unfold fractionAtFront
      split
      · exact absurd rfl (no_point rfl)
      · rfl
  | cons c more =>
      change fractionAtFront ('.' :: (c :: more ++ rest)) = (c :: more, rest)
      simp only [fractionAtFront, digitsAtFront_append front stops]
      rfl

theorem digits_fractionAtFront (text : List Char) :
    Digits (fractionAtFront text).1 ∧
      text = Numeral.fractionText (fractionAtFront text).1 ++ (fractionAtFront text).2 := by
  unfold fractionAtFront
  split
  · rename_i rest
    obtain ⟨all, split⟩ := digits_digitsAtFront rest
    dsimp only
    split
    · exact ⟨by simp [Digits], rfl⟩
    · rename_i some_digits
      rw [Numeral.fractionText, if_neg some_digits, List.cons_append, ← split]
      exact ⟨all, rfl⟩
  · exact ⟨by simp [Digits], rfl⟩

/-- A text that does not go on with the mark of an exponent. -/
def Unmarked (text : List Char) : Prop := ∀ c ∈ text.head?, c ≠ 'e' ∧ c ≠ 'E'

theorem exponentAtFront_append {exponent : Option Exponent}
    (proper : ∀ written, exponent = some written → written.Proper) (stops : StopsDigits rest)
    (unmarked : Unmarked rest) :
    exponentAtFront (Numeral.exponentText exponent ++ rest) =
      (exponent.map Exponent.size, rest) := by
  cases exponent with
  | none =>
      change exponentAtFront rest = (none, rest)
      cases rest with
      | nil => rfl
      | cons c rest => simp [exponentAtFront, unmarked c rfl]
  | some written =>
      obtain ⟨mark, sign, digits⟩ := written
      obtain ⟨marks, all, some_digits⟩ := proper _ rfl
      have front := digitsAtFront_append all stops
      obtain ⟨c, more, rfl⟩ := List.exists_cons_of_ne_nil some_digits
      have not_sign : c ≠ '-' ∧ c ≠ '+' := by
        have digit := all c List.mem_cons_self
        constructor <;> rintro rfl <;> cases digit
      cases sign <;>
        simp_all [exponentAtFront, Numeral.exponentText, Exponent.text, Sign.text, Exponent.size]

/-- An exponent with a certain sign, as far as digits follow. -/
theorem exists_exponent_of_sign {mark : Char} (marks : mark = 'e' ∨ mark = 'E') (sign : Sign)
    (text : List Char) (some_digits : ¬(digitsAtFront text).1.isEmpty = true) :
    ∃ exponent : Option Exponent, (∀ written, exponent = some written → written.Proper) ∧
      some (Exponent.size ⟨mark, sign, (digitsAtFront text).1⟩) = exponent.map Exponent.size ∧
      mark :: (sign.text ++ text) = Numeral.exponentText exponent ++ (digitsAtFront text).2 := by
  obtain ⟨all, split⟩ := digits_digitsAtFront text
  refine ⟨some ⟨mark, sign, (digitsAtFront text).1⟩, ?_, rfl, ?_⟩
  · rintro _ ⟨⟩
    exact ⟨marks, all, by simpa using some_digits⟩
  · change _ = mark :: (sign.text ++ (digitsAtFront text).1) ++ (digitsAtFront text).2
    rw [List.cons_append, List.append_assoc, ← split]

theorem exists_exponent_exponentAtFront (text : List Char) :
    ∃ exponent : Option Exponent, (∀ written, exponent = some written → written.Proper) ∧
      (exponentAtFront text).1 = exponent.map Exponent.size ∧
      text = Numeral.exponentText exponent ++ (exponentAtFront text).2 := by
  have nothing (text : List Char) : ∃ exponent : Option Exponent,
      (∀ written, exponent = some written → written.Proper) ∧
        none = exponent.map Exponent.size ∧ text = Numeral.exponentText exponent ++ text :=
    ⟨none, by simp, rfl, rfl⟩
  cases text with
  | nil => exact nothing []
  | cons mark rest =>
      unfold exponentAtFront
      dsimp only
      split
      · rename_i marks
        simp only [Bool.or_eq_true, decide_eq_true_eq] at marks
        -- the signs, each with or without a digit behind it
        split <;> split <;> rename_i some_digits
        · exact nothing _
        · exact exists_exponent_of_sign marks .minus _ some_digits
        · exact nothing _
        · exact exists_exponent_of_sign marks .plus _ some_digits
        · exact nothing _
        · exact exists_exponent_of_sign marks .none _ some_digits
      · exact nothing _

/-! ## Numbers -/

/-- Reading a number whose sign is taken off. `left` is how much was left before the sign. -/
def unsigned (left : Nat) (negative : Bool) (text : List Char) : Except Stop (Value × List Char) :=
  let (whole, rest) := wholeAtFront text
  if whole.isEmpty then .error (.problem .expectingValue left)
  else
    let (fraction, rest) := fractionAtFront rest
    let (exponent, rest) := exponentAtFront rest
    if fraction.isEmpty && exponent.isNone then
      if Text.digitLimit < whole.length then .error (.tooManyDigits whole.length)
      else
        let size : Int := (Text.natural? 10 whole).getD 0
        .ok (.int (if negative then -size else size), rest)
    else
      let digits := (Text.natural? 10 (whole ++ fraction)).getD 0
      let size := Decimal.nearest digits (exponent.getD 0 - fraction.length)
      .ok (.float (if negative then -size else size), rest)

theorem number_cons_of_ne {c : Char} (minus : c ≠ '-') (rest : List Char) :
    number (c :: rest) = unsigned (c :: rest).length false (c :: rest) := by
  unfold number
  split
  rename_i signs
  split at signs
  · rename_i same
    exact absurd (List.cons.inj same).1 minus
  · obtain ⟨rfl, rfl⟩ := Prod.mk.inj signs
    rfl

/-- A number is read without its sign. -/
theorem exists_number_eq_unsigned (text : List Char) : ∃ negative rest,
    text = Numeral.signText negative ++ rest ∧ number text =
      unsigned text.length negative rest := by
  cases text with
  | nil => exact ⟨false, [], rfl, rfl⟩
  | cons c rest =>
      by_cases minus : c = '-'
      · subst minus
        exact ⟨true, rest, rfl, rfl⟩
      · exact ⟨false, c :: rest, rfl, number_cons_of_ne minus rest⟩

theorem number_signText_append (negative : Bool) {c : Char} (digit : c.isDigit = true)
    (rest : List Char) :
    ∃ left, number (Numeral.signText negative ++ c :: rest) =
      unsigned left negative (c :: rest) := by
  cases negative with
  | true => exact ⟨_, rfl⟩
  | false =>
      have minus : c ≠ '-' := by
        rintro rfl
        cases digit
      exact ⟨_, number_cons_of_ne minus rest⟩

/-- What ends a value does not go on with a number. -/
theorem Ends.not_number (ends : Ends rest) :
    StopsDigits rest ∧ rest.head? ≠ some '.' ∧ Unmarked rest := by
  cases rest with
  | nil => simp [StopsDigits, Unmarked]
  | cons c rest =>
      have ends := ends c rfl
      simp only [isBlank, Bool.or_eq_true, beq_iff_eq] at ends
      rcases ends with (((rfl | rfl) | rfl) | rfl) | rfl | rfl | rfl <;>
        simp [StopsDigits, Unmarked]

theorem stops_exponentText {exponent : Option Exponent}
    (proper : ∀ written, exponent = some written → written.Proper) (stops : StopsDigits rest)
    (no_point : rest.head? ≠ some '.') :
    StopsDigits (Numeral.exponentText exponent ++ rest) ∧
      (Numeral.exponentText exponent ++ rest).head? ≠ some '.' := by
  cases exponent with
  | none => exact ⟨stops, no_point⟩
  | some written =>
      obtain ⟨mark, sign, digits⟩ := written
      rcases (proper _ rfl).mark with marks | marks <;> dsimp only at marks <;> subst marks <;>
        simp [StopsDigits, Numeral.exponentText, Exponent.text]

theorem stops_fractionText (digits : List Char) (stops : StopsDigits rest) :
    StopsDigits (Numeral.fractionText digits ++ rest) := by
  cases digits with
  | nil => exact stops
  | cons c more => simp [StopsDigits, Numeral.fractionText]

/-- A number is read as it is written, unless it is an integer with too many digits. -/
theorem number_text_append (formed : numeral.Formed) (ends : Ends rest) :
    number (numeral.text ++ rest) =
      if numeral.Overlong then .error (.tooManyDigits numeral.whole.length)
      else .ok (numeral.value, rest) := by
  obtain ⟨negative, whole, fraction, exponent⟩ := numeral
  obtain ⟨whole_proper, fraction_proper, exponent_proper⟩ := formed
  obtain ⟨stops, no_point, unmarked⟩ := ends.not_number
  obtain ⟨exponent_stops, exponent_no_point⟩ := stops_exponentText exponent_proper stops no_point
  have exponent_read := exponentAtFront_append exponent_proper stops unmarked
  have fraction_read := fractionAtFront_append fraction_proper exponent_stops fun _ =>
    exponent_no_point
  have whole_read := wholeAtFront_append whole_proper (stops_fractionText fraction exponent_stops)
  obtain ⟨c, more, whole_eq, digit⟩ := whole_proper.exists_cons
  obtain ⟨left, number_eq⟩ := number_signText_append negative digit
    (more ++ (Numeral.fractionText fraction ++ (Numeral.exponentText exponent ++ rest)))
  dsimp only at whole_eq
  rw [← List.cons_append, ← whole_eq] at number_eq
  have some_whole : whole.isEmpty = false := by rw [whole_eq]; rfl
  simp only [Numeral.text, List.append_assoc, number_eq, unsigned, whole_read, fraction_read,
    exponent_read, some_whole, Bool.false_eq_true, if_false, Option.isNone_map, Numeral.value,
    Numeral.Overlong, Numeral.isWhole]
  by_cases is_whole : (fraction.isEmpty && exponent.isNone) = true
  · simp only [is_whole, if_true, true_and]
  · simp [is_whole]

theorem number_of_numeral (proper : numeral.Proper) (ends : Ends rest) :
    number (numeral.text ++ rest) = .ok (numeral.value, rest) := by
  rw [number_text_append proper.toFormed ends, if_neg proper.limited]

/-- A run of so many digits, more than an integer may have. -/
def LongRun (count : Nat) (text : List Char) : Prop :=
  Text.digitLimit < count ∧ ∃ before digits after, text = before ++ (digits ++ after) ∧
    Digits digits ∧ digits.length = count

theorem LongRun.append_left {count : Nat} (long : LongRun count rest) (front : List Char) :
    LongRun count (front ++ rest) := by
  obtain ⟨limit, before, digits, after, rfl, all, length_eq⟩ := long
  exact ⟨limit, front ++ before, digits, after, by rw [List.append_assoc], all, length_eq⟩

/-- What is read as a number is written as it, and an integer that is not read has too many digits.
-/
theorem unsigned_cases (left : Nat) (negative : Bool) (text : List Char) :
    (∃ (numeral : Numeral) (rest : List Char), numeral.Proper ∧
      unsigned left negative text = .ok (numeral.value, rest) ∧
      Numeral.signText negative ++ text = numeral.text ++ rest) ∨
    unsigned left negative text = .error (.problem .expectingValue left) ∨
    ∃ count, unsigned left negative text = .error (.tooManyDigits count) ∧ LongRun count text := by
  obtain ⟨whole_proper, whole_split⟩ := wholeDigits_wholeAtFront text
  rcases whole_eq : wholeAtFront text with ⟨whole, rest⟩
  rw [whole_eq] at whole_proper whole_split
  obtain ⟨fraction_proper, fraction_split⟩ := digits_fractionAtFront rest
  rcases fraction_eq : fractionAtFront rest with ⟨fraction, rest'⟩
  rw [fraction_eq] at fraction_proper fraction_split
  obtain ⟨exponent, exponent_proper, exponent_eq, exponent_split⟩ :=
    exists_exponent_exponentAtFront rest'
  rcases size_eq : exponentAtFront rest' with ⟨size, rest''⟩
  rw [size_eq] at exponent_eq exponent_split
  dsimp only at whole_proper whole_split fraction_proper fraction_split exponent_eq exponent_split
  have split : text = whole ++ (Numeral.fractionText fraction ++
      (Numeral.exponentText exponent ++ rest'')) := by
    rw [← exponent_split, ← fraction_split, ← whole_split]
  simp only [unsigned, whole_eq, fraction_eq, size_eq, exponent_eq, Option.isNone_map]
  by_cases no_whole : whole.isEmpty = true
  · exact .inr (.inl (if_pos no_whole))
  have whole_proper := whole_proper (by simpa using no_whole)
  rw [if_neg no_whole]
  let numeral : Numeral := ⟨negative, whole, fraction, exponent⟩
  have text_eq : Numeral.signText negative ++ text = numeral.text ++ rest'' := by
    simp [numeral, Numeral.text, split]
  by_cases is_whole : (fraction.isEmpty && exponent.isNone) = true
  · rw [if_pos is_whole]
    by_cases long : Text.digitLimit < whole.length
    · exact .inr (.inr ⟨whole.length, if_pos long, long, [], whole, _, split,
        whole_proper.all_digits, rfl⟩)
    · refine .inl ⟨numeral, rest'', ⟨⟨whole_proper, fraction_proper, exponent_proper⟩,
        fun overlong => long overlong.2⟩, ?_, text_eq⟩
      have value_eq : numeral.value = _ := if_pos is_whole
      rw [if_neg long, value_eq]
  · refine .inl ⟨numeral, rest'', ⟨⟨whole_proper, fraction_proper, exponent_proper⟩,
      fun overlong => is_whole overlong.1⟩, ?_, text_eq⟩
    have value_eq : numeral.value = _ := if_neg is_whole
    rw [if_neg is_whole, value_eq]

/-- The same for a number with its sign. -/
theorem number_cases (text : List Char) :
    (∃ (numeral : Numeral) (rest : List Char), numeral.Proper ∧
      number text = .ok (numeral.value, rest) ∧ text = numeral.text ++ rest) ∨
    number text = .error (.problem .expectingValue text.length) ∨
    ∃ count, number text = .error (.tooManyDigits count) ∧ LongRun count text := by
  obtain ⟨negative, rest, split, number_eq⟩ := exists_number_eq_unsigned text
  rw [number_eq]
  rcases unsigned_cases text.length negative rest with
    ⟨numeral, rest', proper, read, same⟩ | fails | ⟨count, fails, long⟩
  · exact .inl ⟨numeral, rest', proper, read, split.trans same⟩
  · exact .inr (.inl fails)
  · exact .inr (.inr ⟨count, fails, split ▸ long.append_left _⟩)

end OpcachePreload.Json
