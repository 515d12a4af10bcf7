import OpcachePreload.ClassMap.Load
import OpcachePreload.Script
import OpcachePreload.Proofs.Action
import OpcachePreload.Proofs.OrderedMap
import OpcachePreload.Proofs.Pattern.Reading

/-!
# Reading autoload arrays back

An autoload array as the dependency manager writes it, one entry a line, is read as its entries,
whatever their names and files are and however the tokens of a line are spaced.
-/

namespace OpcachePreload.ClassMap

namespace Autoload

open Pattern

/-! ## Writing -/

/-- What may stand between two tokens of a line. -/
inductive Spacing where
  | space
  | tab
  deriving DecidableEq, Repr

/-- The character of a piece of spacing. -/
def Spacing.char : Spacing → Char
  | space => ' '
  | tab => '\t'

/-- The text of some spacing. -/
def spaces (gap : List Spacing) : List Char := gap.map Spacing.char

/-- The spacing around the tokens of a line. -/
structure Layout where
  beforeName : List Spacing
  afterName : List Spacing
  afterArrow : List Spacing
  afterVariable : List Spacing
  afterDot : List Spacing
  afterFile : List Spacing
  afterComma : List Spacing
  deriving Repr

/-- An entry to be written. -/
structure Entry where
  name : String
  base : Option Base
  file : String
  layout : Layout
  deriving Repr

namespace Entry

/-- The text that makes a file relative to a base directory. -/
def baseText (entry : Entry) : List Char :=
  match entry.base with
  | none => []
  | some base => ["$".toList, base.variable.toList, spaces entry.layout.afterVariable,
      ".".toList, spaces entry.layout.afterDot].flatten

/-- The line of an entry. -/
def line (entry : Entry) : List Char :=
  [spaces entry.layout.beforeName, (Script.literal entry.name).toList,
    spaces entry.layout.afterName, "=>".toList, spaces entry.layout.afterArrow,
    entry.baseText, (Script.literal entry.file).toList, spaces entry.layout.afterFile,
    ",".toList, spaces entry.layout.afterComma].flatten

/-- The name and the file that an entry says, for a class map at an absolute path: the directory of
the dependencies is above that of the class map, and that of the project above it. -/
def said (file : Path) (entry : Entry) : String × String :=
  (entry.name, match entry.base with
    | none => entry.file
    | some .vendor => toString file.parent.parent ++ entry.file
    | some .project => toString file.parent.parent.parent ++ entry.file)

end Entry

/-- The lines in front of the entries. -/
def opening : List String := [
  "<?php",
  "",
  "// autoload_classmap.php @generated by Composer",
  "",
  "$vendorDir = dirname(__DIR__);",
  "$baseDir = dirname($vendorDir);",
  "",
  "return array("]

/-- The text behind the entries, with or without an end of its line. -/
def closing (ended : Bool) : String := if ended then ");\n" else ");"

/-- Lines with their ends. -/
def lines (texts : List (List Char)) : List Char := texts.flatMap fun text => text ++ ['\n']

/-- The text of an autoload array. -/
def source (entries : List Entry) (ended : Bool) : String :=
  String.ofList (lines (opening.map String.toList) ++ lines (entries.map Entry.line) ++
    (closing ended).toList)

/-! ## Blanks -/

theorem contains_blank (c : Char) :
    ({ members := [.category .blank false true] } : Charset).contains c = Text.isBlank c :=
  Charset.contains_category .blank c

theorem Spacing.isBlank_char (spacing : Spacing) : Text.isBlank spacing.char = true := by
  cases spacing <;> rfl

theorem isBlank_of_mem_spaces {gap : List Spacing} {c : Char} (inside : c ∈ spaces gap) :
    Text.isBlank c = true := by
  obtain ⟨spacing, _, rfl⟩ := List.mem_map.mp inside
  exact spacing.isBlank_char

/-- Whether a text does not start with a blank. -/
def StartsDark (text : List Char) : Prop := ∀ c ∈ text.head?, Text.isBlank c = false

theorem startsDark_cons {c : Char} (dark : Text.isBlank c = false) (rest : List Char) :
    StartsDark (c :: rest) := by
  rintro _ ⟨⟩
  exact dark

theorem startsDark_flatten (c : Char) (dark : Text.isBlank c = false) {token : List Char}
    (first : token.head? = some c) (pieces : List (List Char)) (rest : List Char) :
    StartsDark ((token :: pieces).flatten ++ rest) := by
  obtain ⟨behind, rfl⟩ := List.head?_eq_some_iff.mp first
  exact startsDark_cons dark _

theorem run_blanks_of_isBlank {c : Char} (blank : Text.isBlank c = true) (position : Nat)
    (before rest : List Char) (captures : List (Nat × List Char))
    (follow : Cursor → Option Cursor) :
    run blanks ⟨position, before, c :: rest, captures⟩ follow =
      (run blanks ⟨position + 1, c :: before, rest, captures⟩ follow <|>
        follow ⟨position, before, c :: rest, captures⟩) := by
  conv => lhs; rw [blanks, (moves_one _).run_many]
  simp only [run, contains_blank, blank, if_true]
  rfl

theorem run_blanks_of_startsDark {text : List Char} (dark : StartsDark text) (position : Nat)
    (before : List Char) (captures : List (Nat × List Char)) (follow : Cursor → Option Cursor) :
    run blanks ⟨position, before, text, captures⟩ follow =
      follow ⟨position, before, text, captures⟩ := by
  rw [blanks, (moves_one _).run_many]
  cases text with
  | nil => rfl
  | cons c rest =>
      simp only [run, contains_blank, dark c rfl, Bool.false_eq_true, if_false]
      rfl

theorem reads_blanks (gap : List Spacing) {rest : List Char} (dark : StartsDark rest) :
    Reads blanks (spaces gap) rest [] := by
  intro position before captures follow last follows
  induction gap generalizing position before with
  | nil =>
      refine (run_blanks_of_startsDark dark position before captures follow).trans ?_
      simpa [spaces] using follows
  | cons spacing gap ih =>
      refine (run_blanks_of_isBlank spacing.isBlank_char position before _ captures follow).trans ?_
      refine orElse_of_eq_some (ih (position + 1) (spacing.char :: before) ?_) _
      simpa [spaces, Nat.add_assoc, Nat.add_comm 1] using follows

/-- Blanks fail if what follows them fails wherever they can end. -/
theorem run_blanks_eq_none {gap rest : List Char} (blank : ∀ c ∈ gap, Text.isBlank c = true)
    (dark : StartsDark rest) {follow : Cursor → Option Cursor}
    (fails : ∀ (kept : List Char) (next : Cursor), kept <:+ gap → next.after = kept ++ rest →
      follow next = none)
    (position : Nat) (before : List Char) (captures : List (Nat × List Char)) :
    run blanks ⟨position, before, gap ++ rest, captures⟩ follow = none := by
  induction gap generalizing position before with
  | nil =>
      rw [List.nil_append, run_blanks_of_startsDark dark]
      exact fails [] _ List.suffix_rfl rfl
  | cons c gap ih =>
      have onward := ih (fun d inside => blank d (List.mem_cons_of_mem c inside))
        (fun kept next shorter => fails kept next (shorter.trans (List.suffix_cons c gap)))
        (position + 1) (c :: before)
      rw [List.cons_append, run_blanks_of_isBlank (blank c List.mem_cons_self), onward]
      exact fails (c :: gap) _ List.suffix_rfl rfl

/-! ## Ends of lines -/

/-- A text that starts with spacing and then no blank. -/
def Indented (text : List Char) : Prop :=
  ∃ (indent : List Spacing) (c : Char) (tail : List Char),
    Text.isBlank c = false ∧ text = spaces indent ++ c :: tail

/-- Nowhere in the indent of a line is the end of a line. -/
theorem not_lineEnd_of_spaces {indent : List Spacing} {c : Char} (dark : Text.isBlank c = false)
    {tail kept : List Char} (inside : kept <:+ spaces indent) {next : Cursor}
    (there : next.after = kept ++ c :: tail) : Anchor.holds .lineEnd next = false := by
  cases kept with
  | nil =>
      have other : c ≠ '\n' := by
        rintro rfl
        cases dark
      simp [Anchor.holds, there, other]
  | cons d kept =>
      obtain ⟨spacing, _, rfl⟩ := List.mem_map.mp (inside.subset List.mem_cons_self)
      cases spacing <;> simp [Anchor.holds, there, Spacing.char]

/-- The blanks behind an entry end with its line if the next line is not blank. -/
theorem reads_lineEnd (gap : List Spacing) {rest : List Char} (indented : Indented rest) :
    Reads (sequence [blanks, anchored .lineEnd]) (spaces gap) ('\n' :: rest) [] := by
  obtain ⟨indent, c, tail, dark, rfl⟩ := indented
  intro position before captures follow last follows
  rw [run_sequence_cons]
  induction gap generalizing position before with
  | nil =>
      -- The blanks go on to the next line and come back.
      have onward : run blanks ⟨position + 1, '\n' :: before, spaces indent ++ c :: tail, captures⟩
          (fun next => run (sequence [anchored .lineEnd]) next follow) = none := by
        refine run_blanks_eq_none (fun _ => isBlank_of_mem_spaces) (startsDark_cons dark tail)
          (fun kept next inside there => ?_) _ _ _
        simp [Pattern.sequence, run, not_lineEnd_of_spaces dark inside there]
      have newline : Text.isBlank '\n' = true := by decide
      refine (run_blanks_of_isBlank newline position before _ captures _).trans ?_
      rw [onward]
      simpa [Pattern.sequence, run, Anchor.holds, spaces] using follows
  | cons spacing gap ih =>
      refine (run_blanks_of_isBlank spacing.isBlank_char position before _ captures _).trans ?_
      refine orElse_of_eq_some (ih (position + 1) (spacing.char :: before) ?_) _
      simpa [spaces, Nat.add_assoc, Nat.add_comm 1] using follows

/-! ## Strings -/

/-- How a character is written between single quotes. -/
def quotedChar (c : Char) : List Char := if c = '\\' || c = '\'' then ['\\', c] else [c]

theorem escape_cons (c : Char) (text : List Char) :
    Script.escape (c :: text) = quotedChar c ++ Script.escape text :=
  rfl

/-- What the inside of a string repeats. -/
def stringPart : Pattern :=
  orElse (one (.except ['\'', '\\'])) (andThen (literal "\\") (one (.except ['\n'])))

theorem moves_stringPart : Moves stringPart :=
  (moves_one _).orElse ((moves_one (.single '\\')).andThen (moves_one _))

theorem refuses_stringPart (rest : List Char) : Refuses stringPart ('\'' :: rest) :=
  (refuses_one_cons (by simp [Charset.contains_except]) rest).orElse
    ((refuses_literal "\\" rfl).andThen _)

theorem reads_quotedChar (c : Char) (rest : List Char) :
    Reads stringPart (quotedChar c) rest [] := by
  unfold quotedChar
  split
  · rename_i special
    refine Reads.orElse_right (refuses_one_cons (by simp [Charset.contains_except]) _) ?_
    have other : c ≠ '\n' := by
      rintro rfl
      simp at special
    exact (reads_literal "\\" _).andThen (reads_one (by simp [Charset.contains_except, other]) rest)
  · rename_i plain
    refine (reads_one ?_ rest).orElse_left _
    simpa [Charset.contains_except, and_comm] using plain

theorem reads_stringBody (text rest : List Char) :
    Reads stringBody (Script.escape text) ('\'' :: rest) [] := by
  refine moves_stringPart.reads_many (refuses_stringPart rest) (text.map quotedChar) ?_
  intro piece behind present
  obtain ⟨c, _, rfl⟩ := List.mem_map.mp present
  exact reads_quotedChar c _

/-- A single-quoted literal is read as one string, and what it captures is its inside. -/
theorem reads_string (index : Nat) (text : String) (rest : List Char) :
    Reads (string index) (Script.literal text).toList rest
      [(index, Script.escape text.toList)] := by
  have literal_eq : (Script.literal text).toList =
      "'".toList ++ (Script.escape text.toList ++ "'".toList) := by
    rw [Script.literal, String.toList_ofList]
    rfl
  rw [literal_eq]
  have pieces : ReadsAll rest [literal "'", group index stringBody, literal "'"]
      ["'".toList, Script.escape text.toList, "'".toList] [[], [(index, _)], []] :=
    .cons (reads_literal "'" _) (.cons ((reads_stringBody text.toList rest).group index)
      (.cons (reads_literal "'" _) .nil))
  exact pieces.reads_sequence

theorem unescape_quotedChar (c : Char) (rest : List Char) :
    unescape (quotedChar c ++ rest) = c :: unescape rest := by
  unfold quotedChar
  split
  · rename_i special
    rcases (by simpa using special : c = '\\' ∨ c = '\'') with rfl | rfl <;> rfl
  · rename_i plain
    have not_backslash : c ≠ '\\' := by
      rintro rfl
      simp at plain
    rw [List.singleton_append, unescape]
    · rintro _ rfl
      exact absurd rfl not_backslash
    · rintro _ rfl
      exact absurd rfl not_backslash

/-- Every text is what its escaped form stands for. -/
theorem unescape_escape (text : List Char) : unescape (Script.escape text) = text := by
  induction text with
  | nil => rfl
  | cons c text ih => rw [escape_cons, unescape_quotedChar, ih]

/-! ## Lines -/

/-- The parts of a base directory in front of a file. -/
def baseParts : List Pattern :=
  [literal "$", group 2 (orElse (literal Base.vendor.variable) (literal Base.project.variable)),
    blanks, literal ".", blanks]

/-- The parts of a line. -/
def lineParts : List Pattern :=
  [blanks, string 1, blanks, literal "=>", blanks, optional (sequence baseParts), string 3, blanks,
    optional (literal ","), sequence [blanks, anchored .lineEnd]]

/-- An entry is a line that is tried at its start. -/
theorem entry_eq : entry = andThen (anchored .lineStart) (sequence lineParts) :=
  rfl

theorem refuses_baseParts (text : String) (rest : List Char) :
    Refuses (sequence baseParts) ((Script.literal text).toList ++ rest) := by
  intro position before captures follow
  rw [baseParts, run_sequence_cons, Script.literal, String.toList_ofList]
  exact refuses_literal "$" rfl position before captures _

theorem reads_variable (base : Base) (rest : List Char) :
    Reads (group 2 (orElse (literal Base.vendor.variable) (literal Base.project.variable)))
      base.variable.toList rest [(2, base.variable.toList)] := by
  cases base with
  | vendor => exact ((reads_literal _ rest).orElse_left _).group 2
  | project =>
      exact (Reads.orElse_right (refuses_literal _ rfl) (reads_literal _ rest)).group 2

theorem startsDark_literal (text : String) (rest : List Char) :
    StartsDark ((Script.literal text).toList ++ rest) := by
  rw [Script.literal, String.toList_ofList]
  exact startsDark_cons (by decide) _

namespace Entry

variable (entry : Entry) (rest : List Char)

/-- What the pattern of base directories captures in a line. -/
def baseCaptured : List (Nat × List Char) :=
  match entry.base with
  | none => []
  | some base => [(2, base.variable.toList)]

/-- What the groups capture in a line. -/
def captured : List (Nat × List Char) :=
  (3, Script.escape entry.file.toList) :: (entry.baseCaptured ++
    [(1, Script.escape entry.name.toList)])

theorem startsDark_baseText (text : String) :
    StartsDark (entry.baseText ++ ((Script.literal text).toList ++ rest)) := by
  unfold baseText
  cases entry.base with
  | none =>
      dsimp only
      rw [List.nil_append]
      exact startsDark_literal text rest
  | some base => exact startsDark_flatten '$' (by decide) (by simp) _ _

theorem reads_baseText (text : String) :
    Reads (optional (sequence baseParts)) entry.baseText ((Script.literal text).toList ++ rest)
      entry.baseCaptured := by
  unfold baseText baseCaptured
  cases entry.base with
  | none =>
      dsimp only
      exact (refuses_baseParts text rest).reads_optional
  | some base =>
      have pieces : ReadsAll ((Script.literal text).toList ++ rest) baseParts
          ["$".toList, base.variable.toList, spaces entry.layout.afterVariable,
            ".".toList, spaces entry.layout.afterDot]
          [[], [(2, base.variable.toList)], [], [], []] := by
        refine .cons (reads_literal "$" _) (.cons (reads_variable base _) ?_)
        refine .cons (reads_blanks _ (startsDark_flatten '.' (by decide) (by simp) _ _)) ?_
        refine .cons (reads_literal "." _) (.cons (reads_blanks _ ?_) .nil)
        rw [List.flatten_nil, List.nil_append]
        exact startsDark_literal text rest
      exact pieces.reads_sequence.optional

/-- The line of an entry is read up to its end if the next line is not blank. -/
theorem reads_line {rest : List Char} (indented : Indented rest) :
    Reads (sequence lineParts) entry.line ('\n' :: rest) entry.captured := by
  have pieces : ReadsAll ('\n' :: rest) lineParts
      [spaces entry.layout.beforeName, (Script.literal entry.name).toList,
        spaces entry.layout.afterName, "=>".toList, spaces entry.layout.afterArrow,
        entry.baseText, (Script.literal entry.file).toList, spaces entry.layout.afterFile,
        ",".toList, spaces entry.layout.afterComma]
      [[], [(1, Script.escape entry.name.toList)], [], [], [], entry.baseCaptured,
        [(3, Script.escape entry.file.toList)], [], [], []] := by
    refine .cons (reads_blanks _ ?_) ?_
    · rw [List.flatten_cons, List.append_assoc]
      exact startsDark_literal _ _
    refine .cons (reads_string 1 _ _) (.cons (reads_blanks _ ?_) ?_)
    · exact startsDark_flatten '=' (by decide) (by simp) _ _
    refine .cons (reads_literal "=>" _) (.cons (reads_blanks _ ?_) ?_)
    · rw [List.flatten_cons, List.flatten_cons, List.append_assoc, List.append_assoc]
      exact startsDark_baseText entry _ _
    refine .cons ?_ ?_
    · rw [List.flatten_cons, List.append_assoc]
      exact reads_baseText entry _ _
    refine .cons (reads_string 3 _ _) (.cons (reads_blanks _ ?_) ?_)
    · exact startsDark_flatten ',' (by decide) (by simp) _ _
    refine .cons (reads_literal "," _).optional (.cons ?_ .nil)
    exact reads_lineEnd _ indented
  have captured_eq : entry.captured =
      [[], [(1, Script.escape entry.name.toList)], [], [], [], entry.baseCaptured,
        [(3, Script.escape entry.file.toList)], [], [], []].reverse.flatten := by
    simp [captured]
  rw [captured_eq]
  exact pieces.reads_sequence

end Entry

/-! ## Searching -/

/-- The line of an entry is found at its start. -/
theorem matchAt_line (written : Entry) {rest : List Char} (indented : Indented rest)
    (position : Nat) (before : List Char) :
    matchAt entry false ⟨position, '\n' :: before, written.line ++ '\n' :: rest, []⟩ =
      some ⟨⟨position, '\n' :: before, written.line ++ '\n' :: rest, []⟩,
        ⟨position + written.line.length, written.line.reverse ++ '\n' :: before,
          '\n' :: rest, written.captured⟩⟩ := by
  have reads := written.reads_line indented position ('\n' :: before) [] some _ rfl
  rw [List.append_nil] at reads
  rw [matchAt, entry_eq]
  change (run (sequence lineParts) _ some).map _ = _
  rw [reads]
  rfl

/-- What an entry says is what is taken from the match of its line. -/
theorem entryOf_captured (file : Path) (written : Entry) (first : Cursor) (position : Nat)
    (before after : List Char) :
    entryOf file ⟨first, ⟨position, before, after, written.captured⟩⟩ = written.said file := by
  have unescaped (text : String) :
      String.ofList (unescape (Script.escape text.toList)) = text := by
    rw [unescape_escape, String.ofList_toList]
  obtain ⟨name, base, path, layout⟩ := written
  rcases base with _ | _ | _ <;>
    simp [entryOf, Entry.said, Match.capture?, Cursor.capture?, Entry.captured,
      Entry.baseCaptured, Base.variable, baseDirectory, unescaped]

theorem refuses_string {text : List Char} (index : Nat) (unquoted : text.head? ≠ some '\'') :
    Refuses (string index) text := by
  intro position before captures follow
  rw [string, run_sequence_cons]
  refine refuses_literal "'" ?_ position before captures _
  cases text with
  | nil => rfl
  | cons c rest =>
      have other : c ≠ '\'' := fun same => unquoted (congrArg some same)
      exact Bool.and_eq_false_imp.mpr fun same => absurd (beq_iff_eq.mp same).symm other

theorem startsDark_trimStart (text : List Char) : StartsDark (Text.trimStart text) := by
  intro c first
  have dark := List.head?_dropWhile_not Text.isBlank text
  rw [Text.trimStart] at first
  rw [Option.mem_def.mp first] at dark
  exact dark

/-- No entry starts where no line does, nor before a line that does not start with a quote. -/
theorem matchAt_entry_eq_none {cursor : Cursor}
    (silent : Anchor.holds .lineStart cursor = false ∨
      (Text.trimStart cursor.after).head? ≠ some '\'') (moving : Bool) :
    matchAt entry moving cursor = none := by
  rw [matchAt, entry_eq, Option.map_eq_none_iff, run, run]
  split
  · rename_i at_start
    rcases silent with inside | unquoted
    · exact absurd at_start (by simp [inside])
    obtain ⟨position, before, after, captures⟩ := cursor
    have split_blanks : after.takeWhile Text.isBlank ++ Text.trimStart after = after :=
      List.takeWhile_append_dropWhile
    have blank : ∀ c ∈ after.takeWhile Text.isBlank, Text.isBlank c = true :=
      List.all_eq_true.mp List.all_takeWhile
    rw [lineParts, run_sequence_cons, ← split_blanks]
    refine run_blanks_eq_none blank (startsDark_trimStart after)
      (fun kept next inside there => ?_) _ _ _
    rw [run_sequence_cons]
    refine refuses_string 1 ?_ next.position next.before next.captures _
    rw [there]
    cases kept with
    | nil => exact unquoted
    | cons c kept =>
        rintro ⟨⟩
        exact absurd (blank '\'' (inside.subset List.mem_cons_self)) (by decide)
  · rfl

/-- Whether no entry starts in a text, given the character in front of it and whatever follows. -/
def isSilent : Option Char → List Char → Bool
  | _, [] => true
  | previous, c :: rest =>
    (!previous.all (· == '\n') || (Text.trimStart (c :: rest)).head?.any (· != '\'')) &&
      isSilent (some c) rest

theorem trimStart_append_head? {text : List Char} {c : Char}
    (first : (Text.trimStart text).head? = some c) (rest : List Char) :
    (Text.trimStart (text ++ rest)).head? = some c := by
  obtain ⟨behind, trimmed⟩ := List.head?_eq_some_iff.mp first
  rw [Text.trimStart] at trimmed ⊢
  simp [List.dropWhile_append, trimmed]

/-- The search passes over a text in which no entry starts. -/
theorem findFrom_append {passed before : List Char} (silent : isSilent before.head? passed = true)
    (position : Nat) (rest : List Char) :
    findFrom entry false position before (passed ++ rest) =
      findFrom entry false (position + passed.length) (passed.reverse ++ before) rest := by
  induction passed generalizing position before with
  | nil => rfl
  | cons c passed ih =>
      rw [isSilent, Bool.and_eq_true, Bool.or_eq_true] at silent
      obtain ⟨here, later⟩ := silent
      have passes : matchAt entry false ⟨position, before, c :: (passed ++ rest), []⟩ = none := by
        refine matchAt_entry_eq_none (here.imp (fun inside => ?_) (fun unquoted => ?_)) false
        · simpa [Anchor.holds] using inside
        · obtain ⟨d, first, other⟩ := (Option.any_eq_true _ _).mp unquoted
          rw [← List.cons_append, trimStart_append_head? first]
          simpa using other
      have onward := @ih (c :: before) later (position + 1)
      rw [List.cons_append, findFrom, passes, onward]
      simp [Nat.add_assoc, Nat.add_comm 1]

theorem findAllFrom_append {passed before : List Char}
    (silent : isSilent before.head? passed = true) (fuel position : Nat) (rest : List Char)
    (captures captures' : List (Nat × List Char)) :
    findAllFrom entry fuel false ⟨position, before, passed ++ rest, captures⟩ =
      findAllFrom entry fuel false
        ⟨position + passed.length, passed.reverse ++ before, rest, captures'⟩ := by
  cases fuel with
  | zero => rfl
  | succ fuel => rw [findAllFrom, findAllFrom, findFrom_append silent]

theorem findAllFrom_of_isSilent {text before : List Char}
    (silent : isSilent before.head? text = true) (fuel position : Nat)
    (captures : List (Nat × List Char)) :
    findAllFrom entry fuel false ⟨position, before, text, captures⟩ = [] := by
  cases fuel with
  | zero => rfl
  | succ fuel =>
      have searched := findFrom_append silent position []
      rw [List.append_nil] at searched
      rw [findAllFrom, searched, findFrom,
        matchAt_entry_eq_none (.inr (by simp [Text.trimStart])) false]

/-! ## Arrays -/

theorem lines_cons_append (text : List Char) (texts : List (List Char)) (rest : List Char) :
    lines (text :: texts) ++ rest = text ++ '\n' :: (lines texts ++ rest) := by
  simp [lines]

theorem Entry.indented_line (entry : Entry) (rest : List Char) : Indented (entry.line ++ rest) := by
  rw [Entry.line, List.flatten_cons, List.flatten_cons, Script.literal, String.toList_ofList]
  simp only [List.append_assoc, List.cons_append]
  exact ⟨entry.layout.beforeName, '\'', _, by decide, rfl⟩

/-- What stands behind the opening, or behind a line, is indented. -/
theorem indented_lines (entries : List Entry) (ended : Bool) :
    Indented (lines (entries.map Entry.line) ++ (closing ended).toList) := by
  cases entries with
  | nil => cases ended <;> exact ⟨[], ')', _, by decide, rfl⟩
  | cons written entries =>
      rw [List.map_cons, lines_cons_append]
      exact written.indented_line _

theorem isSilent_closing (ended : Bool) (before : List Char) :
    isSilent ('\n' :: before).head? (closing ended).toList = true := by
  cases ended <;> rfl

theorem isSilent_opening :
    isSilent ([] : List Char).head? (lines (opening.map String.toList)) = true := by
  decide +kernel

/-- A line ends with a comma and spacing. -/
theorem Entry.line_eq (entry : Entry) :
    ∃ front, entry.line = front ++ ',' :: spaces entry.layout.afterComma := by
  refine ⟨[spaces entry.layout.beforeName, (Script.literal entry.name).toList,
    spaces entry.layout.afterName, "=>".toList, spaces entry.layout.afterArrow, entry.baseText,
    (Script.literal entry.file).toList, spaces entry.layout.afterFile].flatten, ?_⟩
  simp [line]

/-- No entry starts at the end of the line of another one. -/
theorem Entry.isSilent_lineFeed (entry : Entry) (before : List Char) :
    isSilent (entry.line.reverse ++ before).head? ['\n'] = true := by
  have last : ∃ c, (entry.line.reverse ++ before).head? = some c ∧ c ≠ '\n' := by
    obtain ⟨front, line_eq⟩ := entry.line_eq
    rw [line_eq, List.reverse_append, List.reverse_cons, spaces, ← List.map_reverse]
    cases entry.layout.afterComma.reverse with
    | nil => exact ⟨',', rfl, by decide⟩
    | cons spacing gap => exact ⟨spacing.char, rfl, by cases spacing <;> decide⟩
  obtain ⟨c, first, inside⟩ := last
  simp [isSilent, first, inside]

/-- Searching the lines of entries finds the entries. -/
theorem map_entryOf_findAllFrom (file : Path) (ended : Bool) (entries : List Entry) :
    ∀ (fuel position : Nat) (before : List Char), entries.length < fuel →
      (findAllFrom entry fuel false ⟨position, '\n' :: before,
        lines (entries.map Entry.line) ++ (closing ended).toList, []⟩).map (entryOf file) =
        entries.map (Entry.said file) := by
  induction entries with
  | nil =>
      intro fuel position before _
      rw [List.map_nil, lines, List.flatMap_nil, List.nil_append,
        findAllFrom_of_isSilent (isSilent_closing ended before)]
      rfl
  | cons written entries ih =>
      intro fuel position before enough
      cases fuel with
      | zero => exact absurd enough (Nat.not_lt_zero _)
      | succ fuel =>
          have found := findFrom_of_matchAt
            (matchAt_line written (indented_lines entries ended) position before)
          have nonempty : written.line.length ≠ 0 := by
            simp [Entry.line]
          have moved : (position == position + written.line.length) = false := by
            simpa using nonempty
          have onward := findAllFrom_append (written.isSilent_lineFeed ('\n' :: before)) fuel
            (position + written.line.length)
            (lines (entries.map Entry.line) ++ (closing ended).toList) written.captured []
          rw [List.singleton_append] at onward
          rw [findAllFrom, List.map_cons, lines_cons_append, found]
          simp only [moved, List.map_cons, entryOf_captured]
          rw [onward]
          exact congrArg _ (ih fuel _ _ (Nat.lt_of_succ_lt_succ enough))

theorem length_lines_le (texts : List (List Char)) : texts.length ≤ (lines texts).length := by
  induction texts with
  | nil => exact Nat.le_refl 0
  | cons text texts ih =>
      simp only [lines, List.flatMap_cons, List.length_append, List.length_cons] at ih ⊢
      omega

/-- All entries of an autoload array are found, and nothing else is. -/
theorem map_entryOf_findAll_source (file : Path) (entries : List Entry) (ended : Bool) :
    (findAll entry (source entries ended).toList).map (entryOf file) =
      entries.map (Entry.said file) := by
  have last : (lines (opening.map String.toList)).reverse ++ [] =
      '\n' :: (lines (opening.map String.toList)).reverse.tail := by
    decide +kernel
  rw [source, String.toList_ofList, List.append_assoc, findAll, Cursor.start,
    findAllFrom_append isSilent_opening _ _ _ _ [], last]
  refine map_entryOf_findAllFrom file ended entries _ _ _ ?_
  have bound := length_lines_le (entries.map Entry.line)
  simp only [List.length_append, List.length_map] at bound ⊢
  omega

theorem hasArrow_source_nil (ended : Bool) : hasArrow (source [] ended).toList = false := by
  rw [source, String.toList_ofList]
  cases ended <;> decide +kernel

theorem read_source (file : Path) (entries : List Entry) (ended : Bool) :
    read file (source entries ended) = .ok (.ofList (entries.map (Entry.said file))) := by
  rw [read, map_entryOf_findAll_source]
  refine if_neg fun no_entries => ?_
  rw [Bool.and_eq_true, List.isEmpty_iff, OrderedMap.toList_ofList_eq_nil_iff,
    List.map_eq_nil_iff] at no_entries
  obtain ⟨rfl, arrow⟩ := no_entries
  rw [hasArrow_source_nil] at arrow
  cases arrow

/-- An autoload array is read as the map that results from assigning its entries in order: the names
in the order in which they occur first, each with the file that it has last. -/
theorem entries_of_source (file : Path) (entries : List Entry) (ended : Bool) :
    ∃ map, read file (source entries ended) = .ok map ∧
      map = .ofList (entries.map (Entry.said file)) ∧
      map.keys = (entries.map Entry.name).eraseDups ∧
      ∀ name, map.get? name =
        (entries.reverse.find? (·.name = name)).map fun entry => (entry.said file).2 := by
  refine ⟨_, read_source file entries ended, rfl, ?_, fun name => ?_⟩
  · rw [OrderedMap.keys_ofList, List.map_map]
    rfl
  · rw [OrderedMap.get?_ofList, ← List.map_reverse, List.find?_map, Option.map_map]
    rfl

end Autoload

end OpcachePreload.ClassMap
