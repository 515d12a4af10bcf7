import OpcachePreload.Proofs.CommandLine.Run

/-!
# Options among the words for a command

Options of the program may stand before, among and after the words of a command. Wherever they
stand, the command is handed its words, all of them and in order, and the options are read as if
they stood alone.
-/

namespace OpcachePreload.CommandLine

open OpcachePreload.Action

/-- A word that is not written as an option. -/
def Bare (word : String) : Prop := word.toList.head? ≠ some '-'

instance (word : String) : Decidable (Bare word) :=
  inferInstanceAs (Decidable (_ ≠ _))

/-- The options of the commands. -/
def commandOptions : List String :=
  ["-o", "--output", "--dry-run", "--runtime", "--include-only", "--skip-check", "--list"]

/-- A piece of a command line: an option of the program with its value, or a word for the command.
-/
inductive Piece where
  | verbose
  | configPath (path : String) (bare : Bare path)
  | handed (word : String) (fits : Bare word ∨ word ∈ commandOptions)

namespace Piece

/-- The words of a piece. -/
def words : Piece → List String
  | verbose => ["-v"]
  | configPath path _ => ["-c", path]
  | handed word _ => [word]

/-- Whether a piece asks for more records. -/
def isVerbose : Piece → Bool
  | verbose => true
  | configPath _ _ | handed _ _ => false

/-- The path of a configuration that a piece gives. -/
def path? : Piece → Option String
  | configPath path _ => some path
  | verbose | handed _ _ => none

/-- The word of a piece that is for the command. -/
def word? : Piece → Option String
  | handed word _ => some word
  | verbose | configPath _ _ => none

end Piece

variable {word name path : String} {rest : List String} {pieces : List Piece}

/-! ## Reading words -/

theorem Bare.ne_separatorText (bare : Bare word) : word ≠ separatorText := by
  rintro rfl
  exact bare rfl

theorem readWord_of_bare (bare : Bare word) : readWord word = .ok (.plain word) := by
  have written : (word.toList.head? != some '-') = true := bne_iff_ne.mpr bare
  simp [readWord, written]

/-- An option of a command is none of the program, and no abbreviation of one. -/
theorem readWord_of_mem_commandOptions (known : word ∈ commandOptions) :
    readWord word = .ok (.unknown word) := by
  simp only [commandOptions, List.mem_cons, List.not_mem_nil, or_false] at known
  rcases known with rfl | rfl | rfl | rfl | rfl | rfl | rfl <;> rfl

namespace Piece

/-- What the words of a piece are. -/
def read : Piece → List Word
  | verbose => [.option .verbose false none]
  | configPath path _ => [.option .configPath false none, .plain path]
  | handed word _ => [if Bare word then .plain word else .unknown word]

theorem readWord_handed (fits : Bare word ∨ word ∈ commandOptions) :
    readWord word = .ok (if Bare word then .plain word else .unknown word) := by
  split
  · exact readWord_of_bare ‹_›
  · exact readWord_of_mem_commandOptions (fits.resolve_left ‹_›)

theorem ne_separatorText (fits : Bare word ∨ word ∈ commandOptions) : word ≠ separatorText := by
  rcases fits with bare | known
  · exact bare.ne_separatorText
  · rintro rfl
    revert known
    decide

theorem readWords_words_append (piece : Piece) {more : List Word}
    (read_rest : readWords rest = .ok more) :
    readWords (piece.words ++ rest) = .ok (piece.read ++ more) := by
  cases piece with
  | verbose => simp only [words, List.singleton_append, readWords, read_rest]; rfl
  | configPath path bare =>
      simp only [words, List.cons_append, List.nil_append, readWords,
        readWord_of_bare bare, read_rest,
        if_neg bare.ne_separatorText]
      rfl
  | handed word fits =>
      simp only [words, List.singleton_append, readWords, readWord_handed fits, read_rest,
        if_neg (ne_separatorText fits)]
      rfl

theorem readWords_words (pieces : List Piece) :
    readWords (pieces.flatMap words) = .ok (pieces.flatMap read) := by
  induction pieces with
  | nil => rfl
  | cons piece rest ih => exact piece.readWords_words_append ih

end Piece

/-! ## Taking words -/

/-- The options after the pieces of a command line: what is asked for is counted, and the last path
counts. -/
def Options.after (options : Options) (pieces : List Piece) : Options :=
  { options with
    verbose := options.verbose + pieces.countP Piece.isVerbose
    configPath := ((pieces.filterMap Piece.path?).getLast?.map .ofString).or options.configPath }

theorem Options.after_nil (options : Options) : options.after [] = options := by
  simp [after]

theorem Options.after_verbose (options : Options) (rest : List Piece) :
    options.after (.verbose :: rest) =
      ({ options with verbose := options.verbose + 1 } : Options).after rest := by
  have counted : (Piece.verbose :: rest).countP Piece.isVerbose = rest.countP Piece.isVerbose + 1 :=
    List.countP_cons_of_pos rfl
  simp only [after, counted, Piece.path?, List.filterMap_cons, Nat.add_assoc, Nat.add_comm 1]

theorem Options.after_configPath (options : Options) (bare : Bare path) (rest : List Piece) :
    options.after (.configPath path bare :: rest) =
      ({ options with configPath := some (.ofString path) } : Options).after rest := by
  simp only [after, Piece.isVerbose, Piece.path?, List.filterMap_cons, List.getLast?_cons,
    Bool.false_eq_true, not_false_eq_true, List.countP_cons_of_neg]
  cases (rest.filterMap Piece.path?).getLast? <;> rfl

theorem Options.after_handed (options : Options) (fits : Bare word ∨ word ∈ commandOptions)
    (rest : List Piece) : options.after (.handed word fits :: rest) = options.after rest := by
  simp [after, Piece.isVerbose, Piece.path?]

theorem map_text_map_plain (run : List String) : (run.map Word.plain).map Word.text = run := by
  rw [List.map_map, show Word.text ∘ Word.plain = id from rfl, List.map_id]

/-- The progress where an option comes after some words without options. -/
def Progress.interrupted (progress : Progress) (run : List Word) : Progress :=
  if run.isEmpty then progress else progress.takePlain run

/-- Once there is a command, words without options are left. -/
theorem interrupted_of_settled (options : Options) (unclaimed run : List String) :
    Progress.interrupted ⟨options, true, unclaimed⟩ (run.map .plain) =
      ⟨options, true, unclaimed ++ run⟩ := by
  cases run with
  | nil => simp [Progress.interrupted]
  | cons first rest =>
      rw [Progress.interrupted, if_neg (by simp), Progress.takePlain, if_pos rfl,
        map_text_map_plain]

section Steps

variable {progress : Progress} {run more : List Word}

theorem takeWords_verbose :
    takeWords progress run (Piece.verbose.read ++ more) =
      takeWords ((progress.interrupted run).mark .verbose) [] more :=
  rfl

theorem takeWords_configPath (bare : Bare path) :
    takeWords progress run ((Piece.configPath path bare).read ++ more) =
      takeWords ((progress.interrupted run).assign .configPath path) [] more :=
  rfl

theorem takeWords_handed_bare (fits : Bare word ∨ word ∈ commandOptions) (bare : Bare word) :
    takeWords progress run ((Piece.handed word fits).read ++ more) =
      takeWords progress (run ++ [.plain word]) more := by
  rw [Piece.read, if_pos bare]
  rfl

theorem takeWords_handed_option (fits : Bare word ∨ word ∈ commandOptions) (dashed : ¬ Bare word) :
    takeWords progress run ((Piece.handed word fits).read ++ more) =
      takeWords ((progress.interrupted run).leave word) [] more := by
  rw [Piece.read, if_neg dashed]
  rfl

end Steps

/-- Once there is a command, all words that come are left for it. -/
theorem takeWords_settled (options : Options) (unclaimed run : List String) (pieces : List Piece) :
    takeWords ⟨options, true, unclaimed⟩ (run.map .plain) (pieces.flatMap Piece.read) =
      .ok ⟨options.after pieces, true, unclaimed ++ run ++ pieces.filterMap Piece.word?⟩ := by
  induction pieces generalizing options unclaimed run with
  | nil =>
      rw [Options.after_nil, List.filterMap_nil, List.append_nil, ← interrupted_of_settled]
      simp [takeWords, Progress.interrupted]
  | cons piece rest ih =>
      rw [List.flatMap_cons]
      cases piece with
      | verbose =>
          rw [Options.after_verbose, takeWords_verbose, interrupted_of_settled]
          refine (ih { options with verbose := options.verbose + 1 } (unclaimed ++ run) []).trans ?_
          simp [Piece.word?, List.filterMap_cons]
      | configPath path bare =>
          rw [Options.after_configPath, takeWords_configPath, interrupted_of_settled]
          refine (ih { options with configPath := some (.ofString path) } (unclaimed ++ run)
            []).trans ?_
          simp [Piece.word?, List.filterMap_cons]
      | handed word fits =>
          rw [Options.after_handed]
          by_cases bare : Bare word
          · rw [takeWords_handed_bare fits bare]
            simpa [Piece.word?] using ih options unclaimed (run ++ [word])
          · rw [takeWords_handed_option fits bare, interrupted_of_settled]
            refine (ih options (unclaimed ++ run ++ [word]) []).trans ?_
            simp [Piece.word?]

/-- The words without options with which the command begins: its name, and its first arguments. -/
theorem interrupted_of_unsettled (options : Options) {run : List String}
    (bare : ∀ word ∈ name :: run, Bare word) :
    Progress.interrupted ⟨options, false, []⟩ ((name :: run).map .plain) =
      ⟨{ options with command := some name, arguments := run }, true, []⟩ := by
  rw [List.forall_mem_cons] at bare
  have apart : separatorText ∉ run := fun present => (bare.2 _ present).ne_separatorText rfl
  have width : commandWidth ((name :: run).map .plain) = 1 := by
    cases run <;> rfl
  have named : [name].erase separatorText = [name] :=
    List.erase_of_not_mem (by simpa using bare.1.ne_separatorText.symm)
  rw [Progress.interrupted, if_neg (by simp), Progress.takePlain, if_neg (by simp),
    map_text_map_plain,
    width]
  simp [named, List.erase_of_not_mem apart]

/-- After the name of the command, some of its words are taken as they come and others are left;
together they are all of them, in order. -/
theorem takeWords_named (options : Options) {run : List String}
    (bare : ∀ word ∈ name :: run, Bare word) (pieces : List Piece) :
    ∃ arguments unclaimed,
      takeWords ⟨options, false, []⟩ ((name :: run).map .plain) (pieces.flatMap Piece.read) =
        .ok ⟨{ options.after pieces with command := some name, arguments }, true, unclaimed⟩ ∧
      arguments ++ unclaimed = run ++ pieces.filterMap Piece.word? := by
  induction pieces generalizing run with
  | nil =>
      refine ⟨run, [], ?_, rfl⟩
      rw [Options.after_nil, ← interrupted_of_unsettled options bare]
      simp [takeWords, Progress.interrupted]
  | cons piece rest ih =>
      rw [List.flatMap_cons]
      cases piece with
      | verbose =>
          refine ⟨run, rest.filterMap Piece.word?, ?_, rfl⟩
          rw [Options.after_verbose, takeWords_verbose, interrupted_of_unsettled options bare]
          exact takeWords_settled _ [] [] rest
      | configPath path _ =>
          refine ⟨run, rest.filterMap Piece.word?, ?_, rfl⟩
          rw [Options.after_configPath, takeWords_configPath, interrupted_of_unsettled options bare]
          exact takeWords_settled _ [] [] rest
      | handed word fits =>
          rw [Options.after_handed]
          by_cases plain : Bare word
          · rw [takeWords_handed_bare fits plain]
            obtain ⟨arguments, unclaimed, taken, together⟩ := @ih (run ++ [word]) (by
              rw [← List.cons_append, List.forall_mem_append]
              exact ⟨bare, by simpa using plain⟩)
            refine ⟨arguments, unclaimed, by simpa using taken, ?_⟩
            simpa [Piece.word?, List.filterMap_cons] using together
          · refine ⟨run, word :: rest.filterMap Piece.word?, ?_, rfl⟩
            rw [takeWords_handed_option fits plain, interrupted_of_unsettled options bare]
            exact takeWords_settled _ [word] [] rest

theorem takeWords_start (options : Options) (named : Bare name)
    (begins : pieces.filterMap Piece.word? = name :: rest) :
    ∃ arguments unclaimed,
      takeWords ⟨options, false, []⟩ [] (pieces.flatMap Piece.read) =
        .ok ⟨{ options.after pieces with command := some name, arguments }, true, unclaimed⟩ ∧
      arguments ++ unclaimed = rest := by
  induction pieces generalizing options with
  | nil => cases begins
  | cons piece more ih =>
      rw [List.flatMap_cons]
      cases piece with
      | verbose =>
          rw [Options.after_verbose, takeWords_verbose]
          exact ih _ begins
      | configPath path _ =>
          rw [Options.after_configPath, takeWords_configPath]
          exact ih _ begins
      | handed word fits =>
          obtain ⟨rfl, rfl⟩ := List.cons.inj begins
          rw [Options.after_handed, takeWords_handed_bare fits named]
          have alone : ∀ first ∈ [word], Bare first := by simpa using named
          exact takeWords_named options alone more

/-! ## Running -/

/-- How many pieces ask for more records. -/
def verbosity (pieces : List Piece) : Nat := pieces.countP Piece.isVerbose

/-- The last path of a configuration that pieces give. -/
def lastPath? (pieces : List Piece) : Option String := (pieces.filterMap Piece.path?).getLast?

/-- The words of pieces that are for the command, its name being the first. -/
def handedWords (pieces : List Piece) : List String := pieces.filterMap Piece.word?

theorem read_words (named : Bare name) (begins : handedWords pieces = name :: rest) :
    Options.read (pieces.flatMap Piece.words) = .ok
      { verbose := verbosity pieces
        configPath := (lastPath? pieces).map .ofString
        command := some name
        arguments := rest } := by
  obtain ⟨arguments, unclaimed, taken, rfl⟩ := takeWords_start {} named begins
  have taken_all : takeWords {} [] (pieces.flatMap Piece.read) = _ := taken
  simp only [Options.read, Piece.readWords_words, bind, Except.bind, taken_all]
  simp [Options.after, verbosity, lastPath?, pure, Except.pure]

/-- No word for a command asks for help. -/
theorem not_mem_of_handedWords (begins : handedWords pieces = name :: rest) :
    "-h" ∉ rest ∧ "--help" ∉ rest := by
  have fits : ∀ word ∈ rest, Bare word ∨ word ∈ commandOptions := by
    intro word present
    have listed : word ∈ handedWords pieces := begins ▸ List.mem_cons_of_mem _ present
    obtain ⟨piece, _, found⟩ := List.mem_filterMap.mp listed
    cases piece with
    | verbose => cases found
    | configPath => cases found
    | handed word fits =>
        obtain rfl := Option.some.inj found
        exact fits
  constructor <;>
  · intro present
    exact absurd (fits _ present) (by decide)

/-- Wherever the options of the program stand on a command line, the command is handed the words
that are for it, all of them and in order. The options are counted, and the last path of a
configuration counts, with the home directory and variables in it replaced. -/
theorem hands_over_words (named : Bare name) (begins : handedWords pieces = name :: rest) :
    Options.read (pieces.flatMap Piece.words) = .ok
        { verbose := verbosity pieces
          configPath := (lastPath? pieces).map .ofString
          command := some name
          arguments := rest } ∧
      ∀ interpreter surroundings session,
        (run interpreter (pieces.flatMap Piece.words)).perform surroundings session =
          (Ending.ended <$> guarded name (dispatch interpreter name
            ⟨rest, (lastPath? pieces).map fun path =>
              toString (surroundings.environment.path (toString (Path.ofString path)))⟩)).perform
                surroundings { session with threshold := levelFor (verbosity pieces) } := by
  have read := read_words named begins
  refine ⟨read, fun interpreter surroundings session => ?_⟩
  obtain ⟨no_short, no_long⟩ := not_mem_of_handedWords begins
  have busy : Options.asksHelp { arguments := rest } = false := by
    simp [Options.asksHelp, no_short, no_long]
  have unlogged : Unlogged (pieces.flatMap Piece.words) := by
    intro options read_options
    rw [read] at read_options
    rw [← Except.ok.inj read_options]
  rw [perform_run _ read rfl busy rfl unlogged, perform_map]
  simp only [Options.context, Option.map_map, Function.comp_def]

/-- Options before, among and after the words of a build. -/
theorem hands_over_words_of_build :
    let pieces : List Piece := [
      .verbose, .handed "build" (by decide), .configPath "a.yaml" (by decide),
      .handed "-o" (by decide), .verbose, .handed "m.json" (by decide),
      .configPath "~/b.yaml" (by decide), .handed "--dry-run" (by decide)]
    Bare "build" ∧ handedWords pieces = ["build", "-o", "m.json", "--dry-run"] ∧
      pieces.flatMap Piece.words =
        ["-v", "build", "-c", "a.yaml", "-o", "-v", "m.json", "-c", "~/b.yaml", "--dry-run"] ∧
      Options.read (pieces.flatMap Piece.words) = .ok
        { verbose := 2
          configPath := some (.ofString "~/b.yaml")
          command := some "build"
          arguments := ["-o", "m.json", "--dry-run"] } := by
  intro pieces
  have named : Bare "build" := by decide
  have begins : handedWords pieces = ["build", "-o", "m.json", "--dry-run"] := rfl
  exact ⟨named, begins, rfl, (hands_over_words named begins).1⟩

end OpcachePreload.CommandLine
