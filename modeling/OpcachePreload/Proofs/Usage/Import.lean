import OpcachePreload.Proofs.Usage.Scanner

/-!
# Scanning for imports

The pattern of imports finds the imports at the starts of lines, one by one: none of them is lost to
an earlier one, although the blanks of an import may go on over several lines. For no import can
start at a line inside another one, where only `as` or a name before a semicolon can stand.
-/

namespace OpcachePreload.Usage

open Pattern
open Text (Run MaximalRun cutRun cutRun_eq_some_iff dropPrefix?_eq_some_iff)

/-! ## The form of an import -/

/-- Whether a text closes an import: with a semicolon, or with another name and a semicolon. -/
def Closes (ending : List Char) : Prop :=
  ending = ";".toList ∨
    ∃ gap gap' other, Run Text.isBlank gap ∧ Run Text.isBlank gap' ∧ Run isNameChar other ∧
      ending = gap ++ "as".toList ++ gap' ++ other ++ ";".toList

/-- Whether a text is the import of a class. -/
def Imports (name taken : List Char) : Prop :=
  ∃ ending, Run isNameChar name ∧ Closes ending ∧ taken = "use ".toList ++ name ++ ending

/-- Whether a line starts behind a text. -/
def startsLine (before : List Char) : Bool := before.getLast?.all (· == '\n')

/-- Whether an import stands in a text at a position, which is the start of a line. The name does
not go on in what follows it. -/
def ImportsAt (text : List Char) (position : Nat) (name : List Char) : Prop :=
  ∃ before ending rest, text = before ++ ("use ".toList ++ name ++ ending ++ rest) ∧
    position = before.length ∧ startsLine before = true ∧
    MaximalRun isNameChar name (ending ++ rest) ∧ Closes ending

/-- The characters of a name by their codes. -/
theorem isNameChar_iff {c : Char} :
    isNameChar c = true ↔ 97 ≤ c.toNat ∧ c.toNat ≤ 122 ∨ 65 ≤ c.toNat ∧ c.toNat ≤ 90 ∨
      48 ≤ c.toNat ∧ c.toNat ≤ 57 ∨ c.toNat = 92 ∨ c.toNat = 95 := by
  rw [← contains_nameChars]
  simp [nameChars, Charset.contains, Folding.representative, Folding.variants, Nat.le_antisymm_iff,
    and_comm]

/-- No blank is a character of a name. -/
theorem isNameChar_of_isBlank {c : Char} (blank : Text.isBlank c = true) :
    isNameChar c = false := by
  rw [← Bool.not_eq_true, isNameChar_iff]
  simp only [Text.isBlank, Text.blankRanges, List.any_cons, List.any_nil, Bool.or_eq_true,
    Text.CodeRange.covers_iff, Bool.false_eq_true, or_false] at blank
  omega

theorem Closes.ends {ending : List Char} (closes : Closes ending) (rest : List Char) :
    ∀ c ∈ (ending ++ rest).head?, isNameChar c = false := by
  rcases closes with rfl | ⟨gap, gap', other, blank, _, _, rfl⟩
  · intro c first
    obtain rfl : ';' = c := Option.some.inj first
    decide
  · obtain ⟨d, more, rfl⟩ := List.exists_cons_of_ne_nil blank.nonempty
    intro c first
    obtain rfl : d = c := Option.some.inj first
    exact isNameChar_of_isBlank (blank.inside d List.mem_cons_self)

/-- Whatever follows it, the runs in what closes an import end where they do. -/
theorem Closes.maximal {ending : List Char} (closes : Closes ending) (rest : List Char) :
    ending = ";".toList ∨
      ∃ gap gap' other, ending = gap ++ ("as".toList ++ (gap' ++ (other ++ ";".toList))) ∧
        MaximalRun Text.isBlank gap ("as".toList ++ (gap' ++ (other ++ (";".toList ++ rest)))) ∧
        MaximalRun Text.isBlank gap' (other ++ (";".toList ++ rest)) ∧
        MaximalRun isNameChar other (";".toList ++ rest) := by
  rcases closes with rfl | ⟨gap, gap', other, blank, blank', run, rfl⟩
  · exact .inl rfl
  · have before_other : MaximalRun Text.isBlank gap' (other ++ (";".toList ++ rest)) := by
      obtain ⟨c, more, rfl⟩ := List.exists_cons_of_ne_nil run.nonempty
      refine blank'.maximal ?_ _
      rw [← Bool.not_eq_true]
      intro blank
      have outside := isNameChar_of_isBlank blank
      rw [run.inside c List.mem_cons_self] at outside
      cases outside
    refine .inr ⟨gap, gap', other, ?_, blank.maximal (by decide) _, before_other,
      run.maximal (by decide) rest⟩
    simp only [List.append_assoc]

/-- What is behind another name and a semicolon, where these stand at the front of a text. -/
def behindOther (text : List Char) : Option (List Char) :=
  (cutRun Text.isBlank text).bind fun (_, renamed) =>
    (renamed.dropPrefix? "as".toList).bind fun gap =>
      (cutRun Text.isBlank gap).bind fun (_, other) =>
        (cutRun isNameChar other).bind fun (_, closed) => closed.dropPrefix? ";".toList

/-- What is behind the text that closes an import, where such a text stands at the front. -/
def behindClosing (text : List Char) : Option (List Char) :=
  text.dropPrefix? ";".toList <|> behindOther text

/-- The name behind the word that starts an import, where they stand at the front of a text, and
what follows it. -/
def namedAt (text : List Char) : Option (List Char × List Char) :=
  (text.dropPrefix? "use ".toList).bind (cutRun isNameChar)

/-- The name in the import that stands at the front of a text, and what follows the import. -/
def importAt (text : List Char) : Option (List Char × List Char) :=
  (namedAt text).bind fun (name, ending) => (behindClosing ending).map fun rest => (name, rest)

theorem behindOther_eq_some_iff {text rest : List Char} :
    behindOther text = some rest ↔
      ∃ gap gap' other, text = gap ++ ("as".toList ++ (gap' ++ (other ++ (";".toList ++ rest)))) ∧
        MaximalRun Text.isBlank gap ("as".toList ++ (gap' ++ (other ++ (";".toList ++ rest)))) ∧
        MaximalRun Text.isBlank gap' (other ++ (";".toList ++ rest)) ∧
        MaximalRun isNameChar other (";".toList ++ rest) := by
  simp only [behindOther, Option.bind_eq_some_iff, Prod.exists, cutRun_eq_some_iff,
    dropPrefix?_eq_some_iff]
  constructor
  · rintro ⟨gap, _, ⟨rfl, blank⟩, _, rfl, gap', _, ⟨rfl, blank'⟩, other, _, ⟨rfl, run⟩, rfl⟩
    exact ⟨gap, gap', other, rfl, blank, blank', run⟩
  · rintro ⟨gap, gap', other, rfl, blank, blank', run⟩
    exact ⟨gap, _, ⟨rfl, blank⟩, _, rfl, gap', _, ⟨rfl, blank'⟩, other, _, ⟨rfl, run⟩, rfl⟩

/-- What closes an import is all that is passed over behind its name. -/
theorem behindClosing_eq_some_iff {text rest : List Char} :
    behindClosing text = some rest ↔ ∃ closing, Closes closing ∧ text = closing ++ rest := by
  constructor
  · intro found
    rcases orElse_cases found with direct | renamed
    · exact ⟨_, .inl rfl, dropPrefix?_eq_some_iff.mp direct⟩
    · rcases behindOther_eq_some_iff.mp renamed with ⟨gap, gap', other, rfl, blank, blank', run⟩
      refine ⟨_, .inr ⟨gap, gap', other, blank.toRun, blank'.toRun, run.toRun, rfl⟩, ?_⟩
      simp only [List.append_assoc]
  · rintro ⟨closing, closes, rfl⟩
    rcases closes.maximal rest with rfl | ⟨gap, gap', other, rfl, maximal⟩
    · rw [behindClosing, dropPrefix?_eq_some_iff.mpr rfl]
      rfl
    · have renamed := behindOther_eq_some_iff.mpr ⟨gap, gap', other, rfl, maximal⟩
      have indirect :
        (gap ++ ("as".toList ++ (gap' ++ (other ++ (";".toList ++ rest))))).dropPrefix?
          ";".toList = none := by
        rw [Option.eq_none_iff_forall_ne_some]
        intro rest' direct
        obtain ⟨c, more, rfl⟩ := List.exists_cons_of_ne_nil maximal.1.nonempty
        obtain ⟨rfl, _⟩ := List.cons.inj (dropPrefix?_eq_some_iff.mp direct)
        have blank := maximal.1.inside ';' List.mem_cons_self
        revert blank
        decide
      simp only [List.append_assoc]
      rw [behindClosing, indirect, renamed]
      rfl

/-- An import is found with its whole name. -/
theorem importAt_eq_some_iff {text name rest : List Char} :
    importAt text = some (name, rest) ↔
      ∃ ending, Closes ending ∧ text = "use ".toList ++ name ++ ending ++ rest ∧
        MaximalRun isNameChar name (ending ++ rest) := by
  simp only [importAt, namedAt, Option.bind_eq_some_iff, Option.map_eq_some_iff, Prod.exists,
    Prod.mk.injEq, cutRun_eq_some_iff, dropPrefix?_eq_some_iff, behindClosing_eq_some_iff]
  constructor
  · rintro ⟨_, _, ⟨_, rfl, rfl, maximal⟩, _, ⟨ending, closes, rfl⟩, rfl, rfl⟩
    refine ⟨ending, closes, ?_, maximal⟩
    simp only [List.append_assoc]
  · rintro ⟨ending, closes, rfl, maximal⟩
    refine ⟨name, _, ⟨_, ?_, rfl, maximal⟩, _, ⟨ending, closes, rfl⟩, rfl, rfl⟩
    simp only [List.append_assoc]

theorem Imports.importAt_eq {name taken : List Char} (imports : Imports name taken)
    (rest : List Char) : importAt (taken ++ rest) = some (name, rest) := by
  rcases imports with ⟨ending, run, closes, rfl⟩
  exact importAt_eq_some_iff.mpr ⟨ending, closes, rfl, run, closes.ends rest⟩

/-! ## The pattern of imports -/

/-- The pattern of an import behind the start of its line. -/
def importBody : Pattern :=
  sequence [literal "use ", captured,
    optional (sequence [blanks, literal "as", blanks, name]), literal ";"]

theorem takes_blanks : Takes blanks (Run Text.isBlank) := by
  have takes := takes_many1 { members := [.category .blank false true] }
  rwa [contains_oneOf] at takes

theorem reads_blanks {run rest : List Char} (maximal : MaximalRun Text.isBlank run rest) :
    Reads blanks run rest [] := by
  have blanks_eq : Text.isBlank =
      ({ members := [.category .blank false true] } : Charset).contains :=
    (contains_oneOf .blank).symm
  rw [blanks_eq] at maximal
  exact reads_many1 maximal

theorem refuses_blanks {text : List Char} (dark : ∀ c ∈ text.head?, Text.isBlank c = false) :
    Refuses blanks text := by
  refine refuses_many1 ?_
  rw [contains_oneOf]
  exact dark

/-- Imports are all that the pattern takes. -/
theorem takes_importBody : Takes importBody fun taken => ∃ name, Imports name taken := by
  have takes_other := takes_sequence (.cons takes_blanks (.cons (takes_literal "as")
    (.cons takes_blanks (.cons takes_name .nil))))
  have takes := takes_sequence (.cons (takes_literal "use ") (.cons takes_captured
    (.cons takes_other.optional (.cons (takes_literal ";") .nil))))
  apply takes.imp
  rintro _ ⟨_, _, rfl, rfl, name, _, rfl, run, middle, _, rfl, closing, _, _, rfl, rfl, rfl⟩
  refine ⟨name, middle ++ ";".toList, run, ?_, by simp⟩
  rcases closing with rfl | ⟨gap, _, rfl, blank, _, _, rfl, rfl, gap', _, rfl, blank',
    other, _, rfl,
    run', rfl⟩
  · exact .inl rfl
  · exact .inr ⟨gap, gap', other, blank, blank', run', by simp⟩

/-- What closes an import is taken as a whole. -/
theorem Closes.reads {ending : List Char} (closes : Closes ending) (rest : List Char) :
    Reads (sequence [optional (sequence [blanks, literal "as", blanks, name]), literal ";"])
      ending rest [] := by
  rcases closes.maximal rest with rfl | ⟨gap, gap', other, rfl, before_as, before_other, run⟩
  · have refuses : Refuses (sequence [blanks, literal "as", blanks, name])
        (";".toList ++ rest) := by
      refine (refuses_blanks fun c first => ?_).andThen _
      obtain rfl : ';' = c := Option.some.inj first
      decide
    exact refuses.reads_optional.andThen (reads_literal ";" rest)
  · have behind_as := (reads_blanks before_other).andThen (reads_name run)
    have before_as : MaximalRun Text.isBlank gap
        ("as".toList ++ (gap' ++ other) ++ (";".toList ++ rest)) := by
      simpa only [List.append_assoc] using before_as
    have another := (reads_blanks before_as).andThen ((reads_literal "as" _).andThen behind_as)
    have whole := another.optional.andThen (reads_literal ";" rest)
    simp only [List.append_assoc] at whole ⊢
    exact whole

/-- An import is taken as a whole, and its name is captured. -/
theorem Imports.reads {name taken : List Char} (imports : Imports name taken) (rest : List Char) :
    Reads importBody taken rest [(1, name)] := by
  rcases imports with ⟨ending, run, closes, rfl⟩
  have maximal : MaximalRun isNameChar name (ending ++ rest) := ⟨run, closes.ends rest⟩
  have whole := (reads_literal "use " _).andThen
    ((reads_captured maximal).andThen (closes.reads rest))
  rw [List.append_assoc]
  exact whole

theorem matchAt_importing (before after : List Char) :
    matchAt importing false (.between before after) =
      if startsLine before then matchAt importBody false (.between before after) else none := by
  have holds : Anchor.lineStart.holds (.between before after) = startsLine before := by
    simp [Anchor.holds, startsLine, Cursor.between]
  change (run (andThen (anchored .lineStart) importBody) _ _).map _ = _
  rw [run, run, holds]
  split <;> rfl

/-- Where an import stands at the start of a line, its pattern matches it. -/
theorem matchAt_of_importAt {before text name rest : List Char} (starts : startsLine before = true)
    (found : importAt text = some (name, rest)) :
    ∃ taken, Imports name taken ∧ text = taken ++ rest ∧
      matchAt importing false (.between before text) =
        some (.between before taken rest [(1, name)]) := by
  rcases importAt_eq_some_iff.mp found with ⟨ending, closes, rfl, maximal⟩
  have imports : Imports name ("use ".toList ++ name ++ ending) :=
    ⟨ending, maximal.toRun, closes, rfl⟩
  refine ⟨_, imports, rfl, ?_⟩
  rw [matchAt_importing, if_pos starts]
  exact (imports.reads rest).matchAt_between before

/-- It matches nowhere else, and in no other way. -/
theorem exists_importAt_of_matchAt {before text : List Char} {found : Match}
    (matched : matchAt importing false (.between before text) = some found) :
    startsLine before = true ∧ ∃ name taken rest, importAt text = some (name, rest) ∧
      Imports name taken ∧ text = taken ++ rest ∧
      found = .between before taken rest [(1, name)] := by
  rw [matchAt_importing] at matched
  split at matched
  · rename_i starts
    obtain ⟨last, ran, _⟩ := Option.map_eq_some_iff.mp matched
    rcases takes_importBody _ _ _ ran with ⟨taken, next, rfl, ⟨name, imports⟩, _⟩
    have matched' := (imports.reads next.after).matchAt_between before
    have same := Option.some.inj (matched.symm.trans matched')
    exact ⟨starts, name, taken, next.after, imports.importAt_eq _, imports, rfl, same⟩
  · cases matched

theorem Imports.ne_nil {name taken : List Char} (imports : Imports name taken) : taken ≠ [] := by
  rcases imports with ⟨ending, _, _, rfl⟩
  simp

theorem proceeds_importing : Proceeds importing := by
  intro before after found matched
  obtain ⟨_, _, taken, rest, _, imports, rfl, rfl⟩ := exists_importAt_of_matchAt matched
  exact ⟨taken, rest, rfl, Match.lies_between imports.ne_nil _ _ _⟩

/-! ## Inside an import

A line that starts inside an import goes on with more blanks, with `as` or with another name.
-/

/-- Whether no import starts at a line that starts inside a text, given what follows the text. -/
def Quiet (text rest : List Char) : Prop :=
  ∀ front back, text = front ++ '\n' :: back → ¬"use ".toList <+: back ++ rest

theorem Quiet.of_not_mem {text : List Char} (one_line : '\n' ∉ text) (rest : List Char) :
    Quiet text rest := by
  rintro front back rfl
  simp at one_line

theorem Quiet.append {text text' rest : List Char} (quiet : Quiet text (text' ++ rest))
    (quiet' : Quiet text' rest) : Quiet (text ++ text') rest := by
  intro front back split_text
  rcases List.append_eq_append_iff.mp split_text with ⟨extra, rfl, rfl⟩ | ⟨extra, rfl, split_extra⟩
  · exact quiet' extra back rfl
  · cases extra with
    | nil => exact quiet' [] back split_extra.symm
    | cons c extra =>
        obtain ⟨rfl, rfl⟩ := List.cons.inj split_extra
        have none_starts := quiet front extra rfl
        rwa [← List.append_assoc] at none_starts

/-- Blanks are quiet where no import stands behind them. -/
theorem Quiet.of_blank {gap rest : List Char} (blank : Run Text.isBlank gap)
    (other : ¬"use ".toList <+: rest) : Quiet gap rest := by
  rintro front back rfl
  cases back with
  | nil => exact other
  | cons c back =>
      rintro ⟨behind, starts⟩
      obtain rfl : 'u' = c := (List.cons.inj starts).1
      have blank_u := blank.inside 'u' (by simp)
      revert blank_u
      decide

theorem Quiet.of_run {run : List Char} (inside : Run isNameChar run) (rest : List Char) :
    Quiet run rest := by
  refine .of_not_mem (fun member => ?_) rest
  have newline := inside.inside '\n' member
  revert newline
  decide

/-- The name before a semicolon does not start an import. -/
theorem not_use_prefix {other rest : List Char}
    (run : MaximalRun isNameChar other (";".toList ++ rest)) :
    ¬"use ".toList <+: other ++ (";".toList ++ rest) := by
  rintro ⟨behind, starts⟩
  have word : Run isNameChar "use".toList :=
    ⟨by simp, List.all_eq_true.mp (by decide)⟩
  have before_space : MaximalRun isNameChar "use".toList (' ' :: behind) :=
    word.maximal (by decide) behind
  have cut := before_space.cutRun_eq
  rw [show "use".toList ++ ' ' :: behind = other ++ (";".toList ++ rest) from starts,
    run.cutRun_eq] at cut
  have same : ';' :: rest = ' ' :: behind := congrArg Prod.snd (Option.some.inj cut)
  cases same

/-- No import starts inside another one. -/
theorem Imports.quiet {name taken : List Char} (imports : Imports name taken) (rest : List Char) :
    Quiet taken rest := by
  rcases imports with ⟨ending, run, closes, rfl⟩
  have semicolon : Quiet ";".toList rest := .of_not_mem (by decide) _
  have quiet_ending : Quiet ending rest := by
    rcases closes.maximal rest with rfl | ⟨gap, gap', other, rfl, before_as, before_other, run'⟩
    · exact semicolon
    · have quiet_other : Quiet (other ++ ";".toList) rest :=
        (Quiet.of_run run'.toRun _).append semicolon
      have quiet_gap' : Quiet gap' (other ++ ";".toList ++ rest) := by
        refine .of_blank before_other.toRun ?_
        rw [List.append_assoc]
        exact not_use_prefix run'
      have quiet_as : Quiet "as".toList (gap' ++ (other ++ ";".toList) ++ rest) :=
        .of_not_mem (by decide) _
      refine Quiet.append (.of_blank before_as.toRun ?_)
        (quiet_as.append (quiet_gap'.append quiet_other))
      rintro ⟨behind, starts⟩
      cases (List.cons.inj starts).1
  have keyword : Quiet "use ".toList (name ++ (ending ++ rest)) := .of_not_mem (by decide) _
  have quiet_front : Quiet ("use ".toList ++ name) (ending ++ rest) :=
    keyword.append (.of_run run _)
  exact quiet_front.append quiet_ending

/-! ## The imports of a text -/

/-- The imports at the starts of the lines of a text, with their positions. The text is what stands
from a position on, and `starts` says whether a line starts there. -/
def importsFrom : (position : Nat) → (starts : Bool) → List Char → List (Nat × List Char)
  | _, _, [] => []
  | position, starts, c :: rest =>
    let others := importsFrom (position + 1) (c == '\n') rest
    match if starts then importAt (c :: rest) else none with
    | some (name, _) => (position, name) :: others
    | none => others

theorem startsLine_append (before : List Char) {taken : List Char} (nonempty : taken ≠ []) :
    startsLine (before ++ taken) = startsLine taken := by
  simp [startsLine, List.getLast?_append_of_ne_nil before nonempty]

theorem importAt_eq_none {text : List Char} (other : ¬"use ".toList <+: text) :
    importAt text = none := by
  rw [Option.eq_none_iff_forall_ne_some]
  rintro ⟨name, rest⟩ found
  obtain ⟨ending, _, rfl, _⟩ := importAt_eq_some_iff.mp found
  apply other
  simp only [List.append_assoc]
  exact List.prefix_append _ _

theorem importsFrom_cons_of_none {position : Nat} {starts : Bool} {c : Char} {rest : List Char}
    (nothing : starts = true → importAt (c :: rest) = none) :
    importsFrom position starts (c :: rest) = importsFrom (position + 1) (c == '\n') rest := by
  rw [importsFrom]
  cases starts with
  | false => rfl
  | true =>
      rw [if_pos rfl, nothing rfl]

theorem importsFrom_cons_of_some {position : Nat} {c : Char} {text name rest : List Char}
    (found : importAt (c :: text) = some (name, rest)) :
    importsFrom position true (c :: text) =
      (position, name) :: importsFrom (position + 1) (c == '\n') text := by
  rw [importsFrom, if_pos rfl, found]

/-- Behind its first character, a quiet text is passed over. -/
theorem Quiet.importsFrom_append {c : Char} {more rest : List Char} (quiet : Quiet (c :: more) rest)
    (position : Nat) :
    importsFrom position (c == '\n') (more ++ rest) =
      importsFrom (position + more.length) (startsLine (c :: more)) rest := by
  induction more generalizing c position with
  | nil => rfl
  | cons d more ih =>
      have nothing : (c == '\n') = true → importAt (d :: (more ++ rest)) = none := by
        intro newline
        obtain rfl : c = '\n' := eq_of_beq newline
        exact importAt_eq_none (quiet [] (d :: more) rfl)
      have quiet_more : Quiet (d :: more) rest := by
        intro front back split_text
        exact quiet (c :: front) back (congrArg (c :: ·) split_text)
      rw [List.cons_append, importsFrom_cons_of_none nothing, ih quiet_more, List.length_cons,
        Nat.add_right_comm, Nat.add_assoc]
      rfl

/-- Behind an import, the rest of it is passed over. -/
theorem Imports.importsFrom_append {name taken : List Char} (imports : Imports name taken)
    (position : Nat) (rest : List Char) :
    importsFrom position true (taken ++ rest) =
      (position, name) :: importsFrom (position + taken.length) (startsLine taken) rest := by
  obtain ⟨c, more, rfl⟩ := List.exists_cons_of_ne_nil imports.ne_nil
  have found : importAt (c :: (more ++ rest)) = some (name, rest) := imports.importAt_eq rest
  rw [List.cons_append, importsFrom_cons_of_some found, (imports.quiet rest).importsFrom_append,
    List.length_cons, Nat.add_assoc, Nat.add_comm 1]

/-- A sweep finds all imports: behind each of them it goes on where the next line starts. -/
theorem map_of_sweep {before after : List Char} {found : List Match}
    (sweep : Sweep importing before after found) :
    found.map (fun m => (m.first.position, m.text 1)) =
      (importsFrom before.length (startsLine before) after).map
        fun (position, name) => (position, String.ofList name) := by
  induction sweep with
  | done => rfl
  | @pass before after c found nothing _ ih =>
      have none_stands (starts : startsLine before = true) : importAt (c :: after) = none := by
        cases stands : importAt (c :: after) with
        | none => rfl
        | some found =>
            obtain ⟨_, _, _, matched⟩ := matchAt_of_importAt starts stands
            rw [nothing] at matched
            cases matched
      rw [importsFrom_cons_of_none none_stands, ih, List.length_append,
        startsLine_append before (List.cons_ne_nil c [])]
      rfl
  | @take before taken rest first found matched lies _ ih =>
      obtain ⟨starts, name, taken', rest', stands, imports, split_text, rfl⟩ :=
        exists_importAt_of_matchAt matched
      obtain rfl : rest' = rest := congrArg Cursor.after lies.last_eq
      obtain rfl := List.append_cancel_right split_text
      rw [starts, imports.importsFrom_append, List.map_cons, List.map_cons, ih, List.length_append,
        startsLine_append before imports.ne_nil]
      rfl

section

variable {position position' : Nat} {name : List Char}

theorem mem_importsFrom_cons {starts : Bool} {c : Char} {text : List Char} :
    (position', name) ∈ importsFrom position starts (c :: text) ↔
      (position' = position ∧ starts = true ∧ ∃ rest, importAt (c :: text) = some (name, rest)) ∨
        (position', name) ∈ importsFrom (position + 1) (c == '\n') text := by
  rw [importsFrom]
  cases starts with
  | false => simp
  | true =>
      rw [if_pos rfl]
      cases importAt (c :: text) with
      | none => simp
      | some found => simp [Prod.ext_iff, eq_comm]

theorem le_of_mem_importsFrom {starts : Bool} {text : List Char}
    (member : (position', name) ∈ importsFrom position starts text) : position ≤ position' := by
  induction text generalizing position starts with
  | nil => cases member
  | cons c text ih =>
      rcases mem_importsFrom_cons.mp member with ⟨rfl, _⟩ | later
      · exact Nat.le_refl position'
      · exact Nat.le_of_succ_le (ih later)

theorem pairwise_importsFrom (position : Nat) (starts : Bool) (text : List Char) :
    (importsFrom position starts text).Pairwise fun first second => first.1 < second.1 := by
  induction text generalizing position starts with
  | nil => exact .nil
  | cons c text ih =>
      rw [importsFrom]
      split
      · exact .cons (fun _ later => le_of_mem_importsFrom later) (ih _ _)
      · exact ih _ _

/-- An import is at the start of a line. -/
theorem mem_importsFrom_iff (before after : List Char) :
    (position, name) ∈ importsFrom before.length (startsLine before) after ↔
      ∃ passed text rest, after = passed ++ text ∧ position = before.length + passed.length ∧
        startsLine (before ++ passed) = true ∧ importAt text = some (name, rest) := by
  induction after generalizing before with
  | nil =>
      constructor
      · intro member
        cases member
      · rintro ⟨_, _, rest, empty, _, _, found⟩
        obtain ⟨rfl, rfl⟩ := List.nil_eq_append_iff.mp empty
        cases found
  | cons c after ih =>
      have onward := ih (before ++ [c])
      rw [startsLine_append before (List.cons_ne_nil c []), List.length_append] at onward
      rw [mem_importsFrom_cons]
      constructor
      · rintro (⟨rfl, starts, rest, found⟩ | later)
        · exact ⟨[], _, rest, rfl, rfl, by simpa using starts, found⟩
        · obtain ⟨passed, text, rest, rfl, rfl, starts, found⟩ := onward.mp later
          refine ⟨c :: passed, text, rest, rfl, ?_, by simpa using starts, found⟩
          simp only [List.length_cons, List.length_nil]
          omega
      · rintro ⟨_ | ⟨d, passed⟩, text, rest, split_text, rfl, starts, found⟩
        · obtain rfl : c :: after = text := split_text
          exact .inl ⟨rfl, by simpa using starts, rest, found⟩
        · obtain ⟨rfl, rfl⟩ := List.cons.inj split_text
          refine .inr (onward.mpr ⟨passed, text, rest, rfl, ?_, by simpa using starts, found⟩)
          simp only [List.length_cons, List.length_nil]
          omega

theorem mem_importsFrom_iff_importsAt {text : List Char} :
    (position, name) ∈ importsFrom 0 true text ↔ ImportsAt text position name := by
  refine (mem_importsFrom_iff [] text).trans ?_
  constructor
  · rintro ⟨before, text, rest, rfl, rfl, starts, found⟩
    obtain ⟨ending, closes, rfl, maximal⟩ := importAt_eq_some_iff.mp found
    exact ⟨before, ending, rest, rfl, Nat.zero_add _, starts, maximal, closes⟩
  · rintro ⟨before, ending, rest, rfl, rfl, starts, maximal, closes⟩
    exact ⟨before, _, rest, rfl, (Nat.zero_add _).symm, starts,
      importAt_eq_some_iff.mpr ⟨ending, closes, rfl, maximal⟩⟩

end

/-- What the pattern finds in a text are the imports at the starts of its lines. -/
theorem map_findAll_importing (text : List Char) :
    (findAll importing text).map (fun m => (m.first.position, m.text 1)) =
      (importsFrom 0 true text).map fun (position, name) => (position, String.ofList name) :=
  map_of_sweep (proceeds_importing.sweep_findAll text)

/-- Their names are the names that are imported. -/
theorem importedNames_eq (text : String) :
    importedNames text =
      (importsFrom 0 true text.toList).map fun found => String.ofList found.2 := by
  have names := congrArg (List.map Prod.snd) (map_findAll_importing text.toList)
  rw [List.map_map, List.map_map] at names
  exact names

/-- The imports that are found in a text are all those that stand in it, each once and in their
order: none is lost to an earlier one. -/
theorem importedNames_of_text (text : String) :
    let found := (findAll importing text.toList).map fun m => (m.first.position, m.text 1)
    importedNames text = found.map Prod.snd ∧
      found.Pairwise (fun first second => first.1 < second.1) ∧
      ∀ position name, (position, name) ∈ found ↔ ImportsAt text.toList position name.toList := by
  intro found
  have found_eq : found = (importsFrom 0 true text.toList).map
      fun (position, name) => (position, String.ofList name) :=
    map_findAll_importing text.toList
  constructor
  · rw [importedNames, captures, List.map_map]
    rfl
  constructor
  · rw [found_eq]
    exact (pairwise_importsFrom 0 true text.toList).map _ fun _ _ earlier => earlier
  · intro position name
    have at_position : (position, name) ∈ found ↔
        (position, name.toList) ∈ importsFrom 0 true text.toList := by
      rw [found_eq, List.mem_map]
      constructor
      · rintro ⟨⟨_, name⟩, member, ⟨⟩⟩
        rwa [String.toList_ofList]
      · intro member
        exact ⟨_, member, by simp⟩
    rw [at_position, mem_importsFrom_iff_importsAt]

/-- An import that goes on over several lines, one of which starts like an import. -/
example : importedNames "use A\n as\nuse;\nuse B;" = ["A", "B"] := by
  decide

end OpcachePreload.Usage
