import OpcachePreload.Proofs.Pattern.Covering
import OpcachePreload.Proofs.Yaml.Token
import OpcachePreload.Yaml.ScalarValue

/-!
# Values of plain scalars

The kind that a plain scalar has by its text is one that its text fits: a truth value is named, a
number has a digit behind its sign, and what resembles a date has the parts of one. So what can be
wrong with its value is only that a number or a date is out of range, or that a binary fraction has
more parts of sixty than can be weighed.
-/

namespace OpcachePreload.Yaml.Scalar

open Pattern

/-! ## What the patterns take -/

section

variable {pattern : Pattern} {kind : List Char → Prop}

theorem takes_choice {patterns : List Pattern} (takes : ∀ pattern ∈ patterns, Takes pattern kind) :
    Takes (choice patterns) kind := by
  induction patterns with
  | nil => exact fun _ _ _ matched => nomatch matched
  | cons pattern rest ih =>
      have takes_first := takes pattern List.mem_cons_self
      cases rest with
      | nil => exact takes_first
      | cons other rest =>
          exact takes_first.orElse (ih fun pattern listed =>
            takes pattern (List.mem_cons_of_mem _ listed))

theorem anyOf_eq_choice (texts : List String) : anyOf texts = choice (texts.map literal) := by
  induction texts with
  | nil => rfl
  | cons text rest ih =>
      cases rest with
      | nil => rfl
      | cons other rest => exact congrArg (orElse (literal text)) ih

theorem takes_anyOf (texts : List String) :
    Takes (anyOf texts) fun taken => ∃ text ∈ texts, taken = text.toList := by
  rw [anyOf_eq_choice]
  refine takes_choice fun pattern listed => ?_
  obtain ⟨text, among, rfl⟩ := List.mem_map.mp listed
  exact (takes_literal text).imp fun taken same => ⟨text, among, same⟩

theorem takes_oneOf (cs : String) : Takes (oneOf cs) fun taken => ∃ c ∈ cs.toList, taken = [c] := by
  refine (takes_one _).imp ?_
  rintro _ ⟨c, inside, rfl⟩
  rw [Charset.contains_ofChars] at inside
  exact ⟨c, List.contains_iff_mem.mp inside, rfl⟩

/-- What a whole text fits is told by what the pattern takes, but for a line feed at the end. -/
theorem kind_of_isAll {text : List Char} (takes : Takes pattern kind)
    (all : isAll pattern text = true)
    (complete : text.getLast? ≠ some '\n') : kind text := by
  obtain ⟨last, matched⟩ := Option.isSome_iff_exists.mp all
  obtain ⟨taken, next, split_text, of_kind, matched⟩ := takes _ _ _ matched
  have split_text : text = taken ++ next.after := split_text
  rw [run] at matched
  split at matched
  · rename_i ended
    simp only [Anchor.holds, Bool.or_eq_true, List.isEmpty_iff, beq_iff_eq] at ended
    rcases ended with nothing_left | line_feed
    · rw [nothing_left, List.append_nil] at split_text
      exact split_text ▸ of_kind
    · exact absurd (by rw [split_text, line_feed, List.getLast?_concat]) complete
  · cases matched

end

/-! ## Truth values -/

/-- A text that names a truth value, whatever its case. -/
def NamesTruth (text : List Char) : Prop :=
  Text.lowercase (String.ofList text) ∈ ["yes", "true", "on"] ∨
    Text.lowercase (String.ofList text) ∈ ["no", "false", "off"]

theorem takes_boolPattern : Takes boolPattern NamesTruth := by
  refine (takes_anyOf _).imp ?_
  rintro _ ⟨text, listed, rfl⟩
  revert text
  simp only [NamesTruth, String.ofList_toList]
  decide +kernel

theorem fits_bool {text : String} (named : NamesTruth text.toList) : Fits Anything (bool text) := by
  rw [NamesTruth, String.ofList_toList] at named
  unfold bool
  dsimp only
  split
  · exact .found trivial
  · rename_i other
    rw [if_pos (named.resolve_left other)]
    exact .found trivial

/-! ## Numbers -/

/-- A text that starts with an ASCII digit. -/
def StartsDigit (text : List Char) : Prop := ∃ c rest, text = c :: rest ∧ c.isDigit = true

/-- A text that starts with an ASCII digit, or has one right behind a sign. -/
def StartsNumber (text : List Char) : Prop :=
  ∃ front number, text = front ++ number ∧ front ∈ [[], ['-'], ['+']] ∧ StartsDigit number

section

variable {pattern : Pattern}

theorem takes_oneOf_digits {cs : String} (digits : ∀ c ∈ cs.toList, c.isDigit = true) :
    Takes (oneOf cs) StartsDigit := by
  refine (takes_oneOf cs).imp ?_
  rintro _ ⟨c, listed, rfl⟩
  exact ⟨c, [], rfl, digits c listed⟩

theorem takes_digitFirst (takes : Takes pattern StartsDigit) (others : List Pattern) :
    Takes (sequence (pattern :: others)) StartsDigit := by
  intro cursor follow last matched
  rw [run_sequence_cons] at matched
  refine (takes.andThen (takes_something (sequence others))).imp ?_ _ _ _ matched
  rintro _ ⟨_, back, rfl, ⟨c, rest, rfl, digit⟩, _⟩
  exact ⟨c, rest ++ back, rfl, digit⟩

theorem takes_signed {others : List Pattern} (takes : Takes (sequence others) StartsDigit) :
    Takes (sequence (sign :: others)) StartsNumber := by
  intro cursor follow last matched
  rw [run_sequence_cons] at matched
  refine ((takes_oneOf "-+").optional.andThen takes).imp ?_ _ _ _ matched
  rintro _ ⟨front, number, rfl, signed, starts⟩
  refine ⟨front, number, rfl, ?_, starts⟩
  rcases signed with rfl | ⟨c, listed, rfl⟩
  · simp
  · simpa using listed

end

theorem takes_intPattern : Takes intPattern StartsNumber := by
  have zero {text : String} (rest : List Char) (spelled : text.toList = '0' :: rest) :
      Takes (literal text) StartsDigit :=
    (takes_literal text).imp fun _ same => ⟨'0', rest, same.trans spelled, rfl⟩
  have nonzero : Takes (oneOf "123456789") StartsDigit := takes_oneOf_digits (by simp)
  refine takes_choice ?_
  simp only [List.forall_mem_cons]
  refine ⟨?binary, ?octal, ?decimal, ?hexadecimal, ?sixtieths, nofun⟩
  case binary => exact takes_signed (takes_digitFirst (zero ['b'] rfl) _)
  case octal => exact takes_signed (takes_digitFirst (zero [] rfl) _)
  case decimal => exact takes_signed ((zero [] rfl).orElse (takes_digitFirst nonzero _))
  case hexadecimal => exact takes_signed (takes_digitFirst (zero ['x'] rfl) _)
  case sixtieths => exact takes_signed (takes_digitFirst nonzero _)

theorem fits_whole (base : Nat) (text : List Char) : Fits Anything (whole base text) := by
  unfold whole
  dsimp only
  split
  · exact .content rfl
  · split
    · exact .found trivial
    · exact .content rfl

theorem fits_fraction (text : List Char) : Fits Anything (fraction text) := by
  unfold fraction
  split
  · exact .found trivial
  · exact .content rfl

theorem fits_mapM {α β : Type} {read : α → Except Fault β} (fits : ∀ a, Fits Anything (read a))
    (texts : List α) : Fits Anything (texts.mapM read) := by
  induction texts with
  | nil => exact .found trivial
  | cons a rest ih =>
      rw [List.mapM_cons]
      exact (fits a).bind fun _ _ => ih.bind fun _ _ => .found trivial

/-- Leaving out the underscores leaves the sign and the first digit. -/
theorem StartsNumber.withoutUnderscores {text : List Char} (starts : StartsNumber text) :
    StartsNumber (text.filter (· != '_')) := by
  obtain ⟨front, _, rfl, signed, c, rest, rfl, digit⟩ := starts
  have sign_kept : front.filter (· != '_') = front := by
    simp only [List.mem_cons, List.not_mem_nil, or_false] at signed
    rcases signed with rfl | rfl | rfl <;> rfl
  have digit_kept : (c != '_') = true :=
    bne_iff_ne.mpr fun underscore => by simp [underscore] at digit
  refine ⟨front, c :: rest.filter (· != '_'), ?_, signed, c, _, rfl, digit⟩
  rw [List.filter_append, sign_kept]
  exact congrArg (front ++ ·) (List.filter_cons_of_pos digit_kept)

theorem StartsNumber.unsigned {text : List Char} (starts : StartsNumber text) :
    StartsDigit (unsigned text).2 := by
  obtain ⟨front, _, rfl, signed, c, rest, rfl, digit⟩ := starts
  refine ⟨c, rest, ?_, digit⟩
  simp only [List.mem_cons, List.not_mem_nil, or_false] at signed
  rcases signed with rfl | rfl | rfl
  · unfold Scalar.unsigned
    split <;> simp_all
  · rfl
  · rfl

/-- Where a digit stands behind the sign, underscores are not all there is of the number. -/
theorem fits_int {text : String} (starts : StartsNumber text.toList) :
    Fits Anything (int text) := by
  have starts := starts.withoutUnderscores
  obtain ⟨c, rest, number, digit⟩ := starts.unsigned
  have nonempty : ¬(text.toList.filter (· != '_')).isEmpty = true := by
    obtain ⟨front, _, written, _, d, others, rfl, _⟩ := starts
    rw [written]
    simp
  have finish {size : Except Fault Int} (fits : Fits Anything size) (sized : Int → Value) :
      Fits Anything (size >>= fun n => pure (sized n)) := fits.bind fun _ _ => .found trivial
  unfold int
  dsimp only
  rw [if_neg nonempty, number]
  split
  case h_1 impossible => cases impossible
  case h_2 => exact .found trivial
  case h_6 =>
    split
    · exact finish ((fits_mapM (fits_whole 10) _).map _) _
    · exact finish (fits_whole 10 _) _
  all_goals exact finish (fits_whole _ _) _

theorem fits_sixtiethFraction (weight : Nat) (sum : Float) (parts : List Float) :
    Fits Anything (sixtiethFraction weight sum parts) := by
  induction parts generalizing weight sum with
  | nil => exact .found trivial
  | cons part rest ih =>
      unfold sixtiethFraction
      exact Fits.ite (fun _ => ih _ _) .overweight

/-- Where a character is no underscore, underscores are not all there is of the number. -/
theorem fits_float {text : String} {c : Char} (present : c ∈ text.toList) (other : c ≠ '_') :
    Fits Anything (float text) := by
  have nonempty :
      ¬(Text.lowercase (String.ofList (text.toList.filter (· != '_')))).toList.isEmpty = true := by
    rw [Text.lowercase, String.toList_ofList, String.toList_ofList, List.isEmpty_iff]
    intro empty
    have kept :
      c ∈ text.toList.filter (· != '_') := List.mem_filter.mpr ⟨present, by simpa using other⟩
    have vanished := List.flatMap_eq_nil_iff.mp empty c kept
    split at vanished <;> cases vanished
  have finish {size : Except Fault Float} (fits : Fits Anything size) (sized : Float → Value) :
      Fits Anything (size >>= fun x => pure (sized x)) := fits.bind fun _ _ => .found trivial
  unfold float
  generalize (Text.lowercase (String.ofList (text.toList.filter (· != '_')))).toList =
    written at nonempty ⊢
  dsimp only
  rw [if_neg nonempty]
  split
  · exact .found trivial
  split
  · exact .found trivial
  split
  · exact finish ((fits_mapM fits_fraction _).bind fun _ _ => fits_sixtiethFraction _ _ _) _
  · exact finish (fits_fraction _) _

/-! ## Dates and times -/

theorem coveredBy_digit : CoveredBy digit digit := coveredBy_one _

theorem coveredBy_twoDigits : CoveredBy twoDigits twoDigits :=
  coveredBy_digit.andThen coveredBy_digit

theorem coveredBy_upToTwoDigits : CoveredBy upToTwoDigits upToTwoDigits :=
  coveredBy_digit.andThen coveredBy_digit.optional

/-- Two digits are a case of one or two. -/
theorem twoDigits_coveredBy : CoveredBy twoDigits upToTwoDigits :=
  coveredBy_digit.andThen coveredBy_digit.given

theorem year_coveredBy (index : Nat) :
    CoveredBy (sequence [digit, digit, digit, digit])
      (part index (.andThen twoDigits twoDigits)) := by
  refine CoveredBy.group ?_ index
  intro follow other admits cursor cursor' same matched
  exact coveredBy_twoDigits.andThen coveredBy_twoDigits _ _ admits _ _ same matched

theorem zone_coveredBy :
    CoveredBy
      (sequence [many blank, .orElse (literal "Z")
        (sequence [oneOf "-+", upToTwoDigits, .optional (sequence [literal ":", twoDigits])])])
      (.andThen (many blank) (part 8 (.orElse (literal "Z")
        (sequence [part 9 (oneOf "-+"), part 10 upToTwoDigits,
          .optional (.andThen (literal ":") (part 11 twoDigits))])))) := by
  refine (coveredBy_many _).andThen
    (((coveredBy_literal "Z").orElse (coveredBy_sequence ?_)).group 8)
  refine .cons ((coveredBy_one _).group 9)
    (.cons (coveredBy_upToTwoDigits.group 10) (.cons ?_ .nil))
  exact ((coveredBy_literal ":").andThen (coveredBy_twoDigits.group 11)).optional

/-- What resembles a date has the parts of one. -/
theorem timestampPattern_coveredBy :
    CoveredBy (.andThen timestampPattern (anchored .lastLineEnd)) timestampParts := by
  -- The time is the part before the end that may be missing.
  change CoveredBy _ (sequence [_, _, _, _, _, .andThen (.optional _) (anchored .lastLineEnd)])
  have dash := coveredBy_literal "-"
  have colon := coveredBy_literal ":"
  refine coveredBy_of_orElse (CoveredBy.restricted (coveredBy_sequence ?_) .lastLineEnd)
    (@coveredBy_of_append _ _ [_, _, _, _, _] _ (coveredBy_sequence ?_))
  · refine .cons (year_coveredBy 1) (.cons dash (.cons (twoDigits_coveredBy.group 2) (.cons dash
      (.cons (twoDigits_coveredBy.group 3) (.cons ?_ .nil)))))
    exact coveredBy_lastLineEnd.missing _
  · refine .cons (year_coveredBy 1) (.cons dash (.cons (coveredBy_upToTwoDigits.group 2) (.cons dash
      (.cons (coveredBy_upToTwoDigits.group 3) (.cons ?_ .nil)))))
    refine (coveredBy_sequence ?_).given.andThen coveredBy_lastLineEnd
    refine .cons ((coveredBy_one _).orElse (coveredBy_many1 _))
      (.cons (coveredBy_upToTwoDigits.group 4)
      (.cons colon
        (.cons (coveredBy_twoDigits.group 5) (.cons colon (.cons (coveredBy_twoDigits.group 6)
        (.cons ?_ (.cons zone_coveredBy.optional .nil)))))))
    exact ((coveredBy_literal ".").andThen ((coveredBy_many _).group 7)).optional

theorem fits_calendar {α : Type} (found : Except CalendarFault α) :
    Fits Anything (found.mapError Fault.calendar) := by
  cases found with
  | error fault => exact .content rfl
  | ok a => exact .found trivial

theorem fits_timestamp {text : String} (all : isAll timestampPattern text.toList = true) :
    Fits Anything (timestamp text) := by
  have matched : (matchAt timestampParts false (.start text.toList)).isSome = true := by
    rw [matchAt, Option.isSome_map]
    exact timestampPattern_coveredBy some _ (fun _ _ _ _ => rfl) _ _ rfl all
  obtain ⟨found, matched⟩ := Option.isSome_iff_exists.mp matched
  unfold timestamp
  rw [matched]
  dsimp only
  split
  · exact (fits_calendar _).bind fun _ _ => .found trivial
  · exact (fits_calendar _).bind fun _ _ => .found trivial

/-! ## Any plain scalar -/

/-- The kind that a text has is that of ordinary text, or one whose pattern describes the whole
text. -/
theorem resolve_cases (c : Char) (rest : List Char) :
    resolve (c :: rest) = .text ∨
      ∃ kind ∈ kinds, resolve (c :: rest) = kind.2.2 ∧ c ∈ kind.1.toList ∧
        isAll kind.2.1 (c :: rest) = true := by
  unfold resolve
  dsimp only
  cases found : kinds.find? fun kind =>
      kind.1.toList.contains c && isAll kind.2.1 (c :: rest) with
  | none => exact .inl rfl
  | some kind =>
      have fits := List.find?_some found
      rw [Bool.and_eq_true, List.contains_iff_mem] at fits
      exact .inr ⟨kind, List.mem_of_find?_eq_some found, rfl, fits.1, fits.2⟩

/-- A text that is described by the pattern of a kind is read as that kind, or else the fault counts
as one of the content. -/
theorem fits_value_of_mem {text : String} {kind : String × Pattern × Tag}
    (listed : kind ∈ kinds) {c : Char} (starts : c ∈ kind.1.toList) (present : c ∈ text.toList)
    (all : isAll kind.2.1 text.toList = true)
    (complete : text.toList.getLast? ≠ some '\n') : Fits Anything (value kind.2.2 text) := by
  simp only [kinds, List.mem_cons, List.not_mem_nil, or_false] at listed
  rcases listed with rfl | rfl | rfl | rfl | rfl | rfl | rfl | rfl
  all_goals dsimp only [value] at starts all ⊢
  · exact fits_bool (kind_of_isAll takes_boolPattern all complete)
  · refine fits_float present ?_
    rintro rfl
    simp at starts
  · exact fits_int (kind_of_isAll takes_intPattern all complete)
  · exact .content rfl
  · exact .found trivial
  · exact fits_timestamp all
  · exact .content rfl
  · exact .content rfl

/-- So is a plain scalar, as the kind that its text has. -/
theorem fits_value_resolve {text : String} (complete : text.toList.getLast? ≠ some '\n') :
    Fits Anything (value (resolve text.toList) text) := by
  cases spelled : text.toList with
  | nil => exact .found trivial
  | cons c rest =>
      rcases resolve_cases c rest with same | ⟨kind, listed, same, starts, all⟩
      · rw [same]
        exact .found trivial
      · rw [same]
        rw [← spelled] at all
        exact fits_value_of_mem listed starts (by simp [spelled]) all complete

end OpcachePreload.Yaml.Scalar
