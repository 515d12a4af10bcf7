import Mathlib.Algebra.Group.Nat.Defs
import OpcachePreload.Failure.Basic
import OpcachePreload.Proofs.Text.Integer
import OpcachePreload.Yaml.Token

/-!
# Tokens of texts without marks

A YAML text is marked if it holds an exclamation mark, or the escape of a code with eight digits.
Off a text without marks no tag is taken, and what is wrong with any other token counts as a fault
of the content, or else as a number whose parts weigh too much. Whatever is taken, a part of the
text is left.
-/

namespace OpcachePreload.Yaml

open Failure (isYamlContent)

/-- A text in which tags may stand, or codes that are too large for a character. -/
def Marked (text : List Char) : Prop := '!' ∈ text ∨ ['\\', 'U'] <:+: text

theorem Marked.of_suffix {rest text : List Char} (marked : Marked rest) (suffix : rest <:+ text) :
    Marked text :=
  marked.imp (fun present => suffix.subset present) fun inside => inside.trans suffix.isInfix

/-! ## Faults of the content -/

section

variable {α β : Type} {kind kind' : α → Prop}

/-- Nothing is said of what is found. -/
def Anything (_ : α) : Prop := True

/-- What is found is of a kind, or else the fault counts as one of the content, or a number weighs
too much. -/
inductive Fits (kind : α → Prop) : Except Fault α → Prop where
  | found {a : α} (of_kind : kind a) : Fits kind (.ok a)
  | content {fault : Fault} (counts : isYamlContent fault = true) : Fits kind (.error fault)
  | overweight : Fits kind (.error .overweight)

theorem Fits.of_ok {a : α} (fits : Fits kind (.ok a)) : kind a := by
  cases fits with
  | found of_kind => exact of_kind

theorem Fits.of_error {fault : Fault} (fits : Fits kind (.error fault)) :
    isYamlContent fault = true ∨ fault = .overweight := by
  cases fits with
  | content counts => exact .inl counts
  | overweight => exact .inr rfl

/-- A fault is the same one, whatever was looked for. -/
theorem Fits.error {goal : β → Prop} {fault : Fault} (fits : Fits kind (.error fault)) :
    Fits goal (.error fault) := by
  rcases fits.of_error with counts | rfl
  · exact .content counts
  · exact .overweight

theorem Fits.bind {goal : β → Prop} {result : Except Fault α} {next : α → Except Fault β}
    (fits : Fits kind result) (next_fits : ∀ a, kind a → Fits goal (next a)) :
    Fits goal (result >>= next) := by
  cases fits with
  | found of_kind => exact next_fits _ of_kind
  | content counts => exact .content counts
  | overweight => exact .overweight

theorem Fits.map {result : Except Fault α} (fits : Fits kind result) (f : α → β) :
    Fits Anything (result.map f) := by
  cases fits with
  | found of_kind => exact .found trivial
  | content counts => exact .content counts
  | overweight => exact .overweight

theorem Fits.imp {result : Except Fault α} (fits : Fits kind result)
    (implies : ∀ a, kind a → kind' a) : Fits kind' result := by
  cases fits with
  | found of_kind => exact .found (implies _ of_kind)
  | content counts => exact .content counts
  | overweight => exact .overweight

theorem fits_reject (place : Place) (problem : Problem) : Fits kind (place.reject problem) :=
  .content rfl

theorem Fits.ite {condition : Prop} [Decidable condition] {result other : Except Fault α}
    (fits : condition → Fits kind result) (other_fits : Fits kind other) :
    Fits kind (if condition then result else other) := by
  split
  · rename_i holds
    exact fits holds
  · exact other_fits

theorem Fits.unless {result : Except Fault α} (fits : Fits kind result) (condition : Prop)
    [Decidable condition] (place : Place) (problem : Problem) :
    Fits kind (if condition then place.reject problem else result) :=
  Fits.ite (fun _ => fits_reject place problem) fits

end

/-! ## Places -/

namespace Place

variable {place after : Place}

theorem rest_step (place : Place) : place.step.rest = place.rest.tail := by
  unfold step
  split
  · rename_i ended
    rw [ended]
    rfl
  · rename_i c rest there
    rw [there]
    split <;> rfl

theorem rest_forward (n : Nat) (place : Place) : (place.forward n).rest = place.rest.drop n := by
  induction n generalizing place with
  | zero => rfl
  | succ n ih => rw [forward, ih, rest_step, List.drop_tail]

theorem suffix_forward (n : Nat) (place : Place) : (place.forward n).rest <:+ place.rest := by
  rw [rest_forward]
  exact List.drop_suffix n place.rest

theorem suffix_span (place : Place) (test : Char → Bool) :
    (place.span test).2.rest <:+ place.rest :=
  suffix_forward _ place

theorem suffix_of_span {test : Char → Bool} {found : List Char}
    (spanned : place.span test = (found, after)) : after.rest <:+ place.rest := by
  have suffix := place.suffix_span test
  rwa [spanned] at suffix

theorem suffix_skipSpaces (place : Place) : place.skipSpaces.rest <:+ place.rest :=
  place.suffix_span _

theorem suffix_skipComment (place : Place) : place.skipComment.rest <:+ place.rest := by
  unfold skipComment
  split
  · exact place.suffix_span _
  · exact List.suffix_rfl

theorem suffix_lineBreak (place : Place) : place.lineBreak.2.rest <:+ place.rest := by
  unfold lineBreak
  split
  · split
    · exact suffix_forward _ place
    · split
      · exact suffix_forward _ place
      · split
        · exact suffix_forward _ place
        · exact List.suffix_rfl
  · exact List.suffix_rfl

end Place

/-! ## Scans -/

variable {α β : Type} {place after : Place} {kind : α → Prop}

/-- Something of a kind was taken, and a part of the text is left. -/
def Taken (kind : α → Prop) (place : Place) (found : α × Place) : Prop :=
  kind found.1 ∧ found.2.rest <:+ place.rest

/-- Off a text without marks a scan takes something of a kind. -/
def Scans (kind : α → Prop) (scan : Scan α) : Prop :=
  ∀ place, ¬Marked place.rest → Fits (Taken kind place) (scan place)

theorem Scans.go {scan : Scan α} {goal : β → Prop} {next : α × Place → Except Fault β}
    {origin : Place} (scans : Scans kind scan) (unmarked : ¬Marked origin.rest)
    (suffix : place.rest <:+ origin.rest)
    (next_fits : ∀ a after, kind a → after.rest <:+ origin.rest → Fits goal (next (a, after))) :
    Fits goal (scan place >>= next) := by
  have place_unmarked : ¬Marked place.rest := fun marked => unmarked (marked.of_suffix suffix)
  refine (scans place place_unmarked).bind ?_
  rintro ⟨a, after⟩ ⟨of_kind, taken_suffix⟩
  exact next_fits a after of_kind (taken_suffix.trans suffix)

theorem scans_anchorName : Scans Anything anchorName := by
  intro place _
  unfold anchorName
  have taken : Fits (Taken Anything place) (.ok (String.ofList (place.span isNameChar).1,
      (place.span isNameChar).2)) := .found ⟨trivial, place.suffix_span _⟩
  exact taken.unless _ place _

/-- A handle starts with an exclamation mark. -/
theorem tagHandle_of_unmarked (unmarked : ¬Marked place.rest) :
    tagHandle place = place.reject .badTag := by
  have other : place.peek ≠ some '!' := fun mark =>
    unmarked (.inl (List.mem_of_getElem? mark))
  rw [tagHandle, if_pos (by simpa using other)]

theorem fits_ignoredLine (problem : Problem) (place : Place) :
    Fits (fun after => after.rest <:+ place.rest) (ignoredLine problem place) := by
  unfold ignoredLine
  dsimp only
  split
  · exact .found ((Place.suffix_lineBreak _).trans
      ((Place.suffix_skipComment _).trans place.suffix_skipSpaces))
  · exact fits_reject _ problem

theorem scans_versionNumber : Scans Anything versionNumber := by
  intro place _
  unfold versionNumber
  dsimp only
  split
  · exact .content rfl
  split
  · exact fits_reject place _
  · exact .found ⟨trivial, place.suffix_span _⟩

/-- A token that is no tag, and no plain scalar that ends in a line feed. -/
def Token.Harmless : Token → Prop
  | .tag _ _ => False
  | .scalar text true => text.toList.getLast? ≠ some '\n'
  | _ => True

theorem scans_directiveToken : Scans Token.Harmless directiveToken := by
  intro place unmarked
  have finish (directive : Directive) {after : Place} (suffix : after.rest <:+ place.rest) :
      Fits (Taken Token.Harmless place) (do
        return (Token.directive directive, ← ignoredLine .badDirective after)) :=
    (fits_ignoredLine .badDirective after).bind fun last last_suffix =>
      .found ⟨trivial, last_suffix.trans suffix⟩
  unfold directiveToken
  rcases spanned : (place.forward 1).span isNameChar with ⟨name, named⟩
  have suffix := (Place.suffix_of_span spanned).trans (place.suffix_forward 1)
  dsimp only
  split
  · exact fits_reject named _
  split
  · -- A version: the second of its numbers is not kept.
    refine scans_versionNumber.go unmarked (named.suffix_skipSpaces.trans suffix) ?_
    intro major after _ suffix
    dsimp only
    split
    · exact fits_reject after _
    refine scans_versionNumber.go unmarked ((after.suffix_forward 1).trans suffix) ?_
    intro minor after _ suffix
    dsimp only
    split
    · exact finish _ suffix
    · exact fits_reject after _
  split
  · rw [tagHandle_of_unmarked fun marked =>
      unmarked (marked.of_suffix (named.suffix_skipSpaces.trans suffix))]
    exact fits_reject named _
  · exact finish _ ((named.suffix_span _).trans suffix)

/-! ## Block scalars -/

theorem scans_blockHeader : Scans Anything blockHeader := by
  intro place _
  unfold blockHeader
  split
  rename_i chomping increment after header
  have suffix : after.rest <:+ place.rest := by
    have one := place.suffix_forward 1
    have two := (Place.suffix_forward 1 (place.forward 1)).trans one
    dsimp only at header
    split at header
    · split at header <;> cases header
      · exact two
      · exact one
    · split at header
      · split at header <;> cases header
        · exact two
        · exact one
      · cases header
        exact List.suffix_rfl
  refine Fits.unless ?_ _ after _
  exact (fits_ignoredLine .badBlockHeader after).bind fun last last_suffix =>
    .found ⟨trivial, last_suffix.trans suffix⟩

theorem suffix_skipIndentation (column : Nat) (place : Place) :
    (skipIndentation column place).rest <:+ place.rest :=
  place.suffix_forward _

theorem suffix_leadingBreaks (fuel greatest : Nat) (place : Place) :
    (leadingBreaks fuel greatest place).2.2.rest <:+ place.rest := by
  induction fuel generalizing greatest place with
  | zero => exact List.suffix_rfl
  | succ fuel ih =>
      unfold leadingBreaks
      dsimp only
      split
      · exact (ih _ _).trans ((Place.suffix_lineBreak _).trans place.suffix_skipSpaces)
      · exact place.suffix_skipSpaces

theorem suffix_blockBreaks (column fuel : Nat) (place : Place) :
    (blockBreaks column fuel place).2.rest <:+ place.rest := by
  induction fuel generalizing place with
  | zero => exact List.suffix_rfl
  | succ fuel ih =>
      unfold blockBreaks
      dsimp only
      split
      · exact (ih _).trans ((Place.suffix_lineBreak _).trans (suffix_skipIndentation column place))
      · exact suffix_skipIndentation column place

theorem suffix_blockLines (folded : Bool) (column fuel : Nat) (breaks : List Char) (place : Place) :
    (blockLines folded column fuel breaks place).2.2.2.rest <:+ place.rest := by
  induction fuel generalizing breaks place with
  | zero => exact List.suffix_rfl
  | succ fuel ih =>
      unfold blockLines
      dsimp only
      split
      · have following (fuel : Nat) := (suffix_blockBreaks column fuel _).trans
          ((Place.suffix_lineBreak _).trans (place.suffix_span fun c => !isBreak c))
        split
        · exact (ih _ _).trans (following _)
        · exact following _
      · exact List.suffix_rfl

theorem fits_quoted (text : List Char) (suffix : after.rest <:+ place.rest) :
    Fits (Taken Token.Harmless place) (.ok (.scalar (String.ofList text) false, after)) :=
  .found ⟨trivial, suffix⟩

theorem scans_blockScalar (indent : Int) (folded : Bool) :
    Scans Token.Harmless (blockScalar indent folded) := by
  intro place unmarked
  unfold blockScalar
  refine scans_blockHeader.go unmarked (place.suffix_forward 1) ?_
  rintro ⟨chomping, increment⟩ after _ suffix
  dsimp only
  split
  · exact fits_quoted _ ((suffix_blockLines _ _ _ _ _).trans
      ((suffix_leadingBreaks _ _ _).trans suffix))
  · exact fits_quoted _ ((suffix_blockLines _ _ _ _ _).trans
      ((suffix_blockBreaks _ _ _).trans suffix))

/-! ## Quoted scalars -/

theorem scans_quotedBreaks (fuel : Nat) : Scans Anything (quotedBreaks fuel) := by
  induction fuel with
  | zero => exact fun place _ => .found ⟨trivial, List.suffix_rfl⟩
  | succ fuel ih =>
      intro place unmarked
      unfold quotedBreaks
      refine Fits.unless ?_ _ place _
      have blanks := place.suffix_span fun c => c == ' ' || c == '\t'
      dsimp only
      split
      · refine ih.go unmarked ((Place.suffix_lineBreak _).trans blanks) ?_
        exact fun more after _ suffix => .found ⟨trivial, suffix⟩
      · exact .found ⟨trivial, blanks⟩

theorem scans_quotedBlanks : Scans Anything quotedBlanks := by
  intro place unmarked
  unfold quotedBlanks
  have blanks := place.suffix_span fun c => c == ' ' || c == '\t'
  dsimp only
  split
  · exact fits_reject place _
  · split
    · refine (scans_quotedBreaks _).go unmarked ((Place.suffix_lineBreak _).trans blanks) ?_
      exact fun breaks after _ suffix => .found ⟨trivial, suffix⟩
    · exact .found ⟨trivial, blanks⟩

theorem foldl_code_lt {values : List (Option Nat)} (small : ∀ value ∈ values, value.getD 0 < 16)
    (code : Nat) :
    values.foldl (fun code d => 16 * code + d.getD 0) code < 16 ^ values.length * (code + 1) := by
  induction values generalizing code with
  | nil => simp
  | cons value values ih =>
      obtain ⟨value_small, values_small⟩ := List.forall_mem_cons.mp small
      calc
        (value :: values).foldl (fun code d => 16 * code + d.getD 0) code =
            values.foldl (fun code d => 16 * code + d.getD 0) (16 * code + value.getD 0) := rfl
        _ < 16 ^ values.length * (16 * code + value.getD 0 + 1) := ih values_small _
        _ ≤ 16 ^ values.length * (16 * (code + 1)) := Nat.mul_le_mul_left _ (by omega)
        _ = 16 ^ (value :: values).length * (code + 1) := by
          rw [List.length_cons, Nat.pow_succ, Nat.mul_assoc]

/-- Only a letter `U` announces more than four digits. -/
theorem codeDigits?_le {c : Char} {n : Nat} (announced : codeDigits? c = some n) (other : c ≠ 'U') :
    n ≤ 4 := by
  unfold codeDigits? at announced
  split at announced
  · simp only [Option.some.injEq] at announced
    omega
  · simp only [Option.some.injEq] at announced
    omega
  · exact absurd rfl other
  · cases announced

/-- The digits of a code. -/
def codeValues (digits : List Char) : List (Option Nat) :=
  digits.map fun d => if d.toNat < 0x80 then Text.digitIn 16 d else none

/-- A code with four digits at most is that of a character. -/
theorem exists_codeChar {digits : List Char} (few : digits.length ≤ 4) :
    ∃ c, codeChar ((codeValues digits).foldl (fun code d => 16 * code + d.getD 0) 0) = .ok c := by
  have small : ∀ value ∈ codeValues digits, value.getD 0 < 16 := by
    intro value listed
    obtain ⟨d, _, rfl⟩ := List.mem_map.mp listed
    split
    · cases digit : Text.digitIn 16 d with
      | none => decide
      | some n => exact Text.digitIn_lt digit
    · decide
  have code_lt := calc
    (codeValues digits).foldl (fun code d => 16 * code + d.getD 0) 0 <
        16 ^ (codeValues digits).length * (0 + 1) := foldl_code_lt small 0
    _ = 16 ^ digits.length := by rw [codeValues, List.length_map, Nat.zero_add, Nat.mul_one]
    _ ≤ 16 ^ 4 := Nat.pow_le_pow_right (by decide) few
  rw [codeChar, if_pos (Nat.lt_trans code_lt (by decide))]
  exact ⟨_, rfl⟩

theorem fits_quotedEscape (unmarked : ¬Marked place.rest) (short : place.peek ≠ some 'U') :
    Fits (Taken Anything place) (quotedEscape place) := by
  unfold quotedEscape
  split
  · exact fits_reject place _
  rename_i c there
  have other : c ≠ 'U' := fun same => short (same ▸ there)
  split
  · exact .found ⟨trivial, place.suffix_forward 1⟩
  · rename_i n _ announced
    have few : ((place.forward 1).ahead n).length ≤ 4 :=
      Nat.le_trans (List.length_take_le _ _) (codeDigits?_le announced other)
    obtain ⟨d, character⟩ := exists_codeChar few
    refine Fits.unless ?_ _ place _
    change Fits _ (codeChar ((codeValues _).foldl _ 0) >>= _)
    rw [character]
    exact .found ⟨trivial, place.suffix_forward _⟩
  · split
    · exact (scans_quotedBreaks _ _ fun marked =>
        unmarked (marked.of_suffix place.suffix_lineBreak)).imp fun found taken =>
          ⟨trivial, taken.2.trans place.suffix_lineBreak⟩
    · exact fits_reject place _

/-- No code of eight digits is announced in a text without marks. -/
theorem not_peek_of_backslash (unmarked : ¬Marked place.rest) (backslash : place.peek = some '\\') :
    (place.forward 1).peek ≠ some 'U' := by
  intro announced
  rw [Place.peek, Place.rest_forward] at announced
  rw [Place.peek] at backslash
  rcases whole : place.rest with _ | ⟨c, _ | ⟨d, rest⟩⟩
  · simp [whole] at backslash
  · simp [whole] at announced
  · obtain rfl : c = '\\' := by simpa [whole] using backslash
    obtain rfl : d = 'U' := by simpa [whole] using announced
    exact unmarked (.inr ⟨[], rest, whole.symm⟩)

theorem scans_quotedText (double : Bool) (fuel : Nat) :
    Scans Anything (quotedText double fuel) := by
  induction fuel with
  | zero => exact fun place _ => fits_reject place _
  | succ fuel ih =>
      intro place unmarked
      have go_on (found : List Char) {after : Place} (suffix : after.rest <:+ place.rest) :
          Fits (Taken Anything place) (do
            let read ← quotedText double fuel after
            return (found ++ read.1, read.2)) :=
        ih.go unmarked suffix fun _ _ _ suffix => .found ⟨trivial, suffix⟩
      unfold quotedText
      generalize (if double then '"' else '\'') = quote
      dsimp only
      split
      · exact fits_reject place _
      rename_i c there
      split
      · exact go_on _ (place.suffix_span _)
      split
      · exact scans_quotedBlanks.go unmarked List.suffix_rfl fun found _ _ suffix =>
          go_on found suffix
      split
      · exact go_on _ (place.suffix_forward 2)
      split
      · exact .found ⟨trivial, place.suffix_forward 1⟩
      split
      · rename_i escaped
        obtain ⟨-, backslash⟩ : double = true ∧ c = '\\' := by simpa using escaped
        subst backslash
        have behind_unmarked : ¬Marked (place.forward 1).rest := fun marked =>
          unmarked (marked.of_suffix (place.suffix_forward 1))
        refine (fits_quotedEscape behind_unmarked (not_peek_of_backslash unmarked there)).bind ?_
        exact fun found taken => go_on found.1 (taken.2.trans (place.suffix_forward 1))
      · exact go_on _ (place.suffix_forward 1)

theorem scans_quotedScalar (double : Bool) : Scans Token.Harmless (quotedScalar double) := by
  intro place unmarked
  unfold quotedScalar
  exact (scans_quotedText double _).go unmarked (place.suffix_forward 1) fun text _ _ suffix =>
    fits_quoted text suffix

/-! ## Plain scalars -/

theorem suffix_plainBreaks (fuel : Nat) (place : Place) :
    (plainBreaks fuel place).2.rest <:+ place.rest := by
  induction fuel generalizing place with
  | zero => exact List.suffix_rfl
  | succ fuel ih =>
      unfold plainBreaks
      have broken := (Place.suffix_lineBreak place.skipSpaces).trans place.suffix_skipSpaces
      dsimp only
      split
      · split
        · exact broken
        · exact (ih _).trans broken
      · exact place.suffix_skipSpaces

theorem suffix_plainBlanks (place : Place) : (plainBlanks place).2.2.rest <:+ place.rest := by
  unfold plainBlanks
  have blanks := place.suffix_span (· == ' ')
  have broken := (Place.suffix_lineBreak _).trans blanks
  dsimp only
  split
  · split
    · exact broken
    · have breaks := suffix_plainBreaks
        ((place.span (· == ' ')).2.lineBreak.2.rest.length + 1)
          (place.span (· == ' ')).2.lineBreak.2
      split
      · rename_i stopped
        rw [stopped] at breaks
        exact breaks.trans broken
      · rename_i found
        rw [found] at breaks
        exact breaks.trans broken
  · exact blanks

theorem suffix_plainText (indent : Int) (inFlow : Bool) (fuel : Nat) (blanks : List Char)
    (broken : Bool) (place : Place) :
    (plainText indent inFlow fuel blanks broken place).2.2.rest <:+ place.rest := by
  induction fuel generalizing blanks broken place with
  | zero => exact List.suffix_rfl
  | succ fuel ih =>
      unfold plainText
      generalize (if place.peek == some '#' then 0 else plainLength inFlow place.rest) = length
      dsimp only
      split
      · exact List.suffix_rfl
      · have spaces :=
          (suffix_plainBlanks (place.forward length)).trans (place.suffix_forward length)
        split
        · exact spaces
        · exact (ih _ _ _).trans spaces

theorem endsWord_of_endsPlain {inFlow : Bool} {c : Char} {rest : List Char}
    (goes_on : endsPlain inFlow (c :: rest) = false) : endsWord (some c) = false := by
  by_cases colon : c = ':'
  · subst colon
    decide
  · unfold endsPlain at goes_on
    simp_all

theorem endsWord_of_mem_take_plainLength {inFlow : Bool} {text : List Char} {c : Char}
    (listed : c ∈ text.take (plainLength inFlow text)) : endsWord (some c) = false := by
  induction text with
  | nil => cases listed
  | cons d rest ih =>
      unfold plainLength at listed
      split at listed
      · cases listed
      · rename_i goes_on
        rcases List.mem_cons.mp listed with rfl | later
        · exact endsWord_of_endsPlain (eq_false_of_ne_true goes_on)
        · exact ih later

theorem getLast?_append_ne {α : Type} {front back : List α} {a : α}
    (back_end : back.getLast? ≠ some a)
    (front_end : back = [] → front.getLast? ≠ some a) : (front ++ back).getLast? ≠ some a := by
  rw [List.getLast?_append]
  cases last : back.getLast? with
  | none => exact front_end (List.getLast?_eq_none_iff.mp last)
  | some b => rwa [last] at back_end

/-- Line breaks stand inside a plain scalar, but not at its end. -/
theorem getLast?_plainText (indent : Int) (inFlow : Bool) (fuel : Nat) (blanks : List Char)
    (broken : Bool) (place : Place) :
    (plainText indent inFlow fuel blanks broken place).1.getLast? ≠ some '\n' := by
  induction fuel generalizing blanks broken place with
  | zero => exact nofun
  | succ fuel ih =>
      unfold plainText
      generalize length_eq :
        (if place.peek == some '#' then 0 else plainLength inFlow place.rest) = length
      have inside : ∀ c ∈ place.ahead length, endsWord (some c) = false := by
        intro c listed
        rw [Place.ahead, ← length_eq] at listed
        split at listed
        · cases listed
        · exact endsWord_of_mem_take_plainLength listed
      have word_end : (place.ahead length).getLast? ≠ some '\n' := fun ended =>
        absurd (inside _ (List.mem_of_getLast? ended)) (by decide)
      dsimp only
      split
      · exact nofun
      rename_i some_length
      have some_word : place.ahead length ≠ [] := by
        intro nothing
        rcases List.take_eq_nil_iff.mp nothing with zero | ended
        · exact some_length zero
        · rw [ended] at length_eq
          exact some_length (length_eq.symm.trans (by split <;> rfl))
      have front_end : (blanks ++ place.ahead length).getLast? ≠ some '\n' :=
        getLast?_append_ne word_end fun nothing => absurd nothing some_word
      split
      · exact front_end
      · exact getLast?_append_ne (ih _ _ _) fun _ => front_end

end OpcachePreload.Yaml
