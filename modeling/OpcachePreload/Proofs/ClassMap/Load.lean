import OpcachePreload.ClassMap.Load
import OpcachePreload.Proofs.DataFile
import OpcachePreload.Proofs.Json.Complete
import OpcachePreload.Proofs.Json.Members

/-!
# Class maps that cannot be used

Where a class map is looked for, and what comes of the bytes that are found there. A class map that
cannot be used is reported with the path of its file. Three sorts of content are reported in another
way: an autoload array that is no text, a YAML text in which a tag, an escape or the parts of a
number ask for a value that does not exist, and an entry whose report would have to show too long a
number.
-/

namespace OpcachePreload.ClassMap

variable {surroundings : Surroundings} {session : Session} {files : FileTree} {directory : Location}
  {path file : Path} {bytes : List UInt8} {failure : Failure}

/-! ## Where a class map is -/

/-- The class map file for a path in a tree of files: the path itself unless it leads to a
directory, and nothing for a directory without one. -/
def located (files : FileTree) (directory : Location) (path : Path) : Option Path :=
  if files.lookup directory path = .ok .directory then
    (candidates path).find? (files.leadsToFile directory)
  else some path

theorem perform_firstFile {paths : List Path}
    (answer : ∀ path ∈ paths, session.files.Answers surroundings.directory path) :
    (firstFile paths).perform surroundings session =
      (.ok (paths.find? (session.files.leadsToFile surroundings.directory)), session) := by
  induction paths with
  | nil => rfl
  | cons path rest ih =>
      obtain ⟨answers, rest_answer⟩ := List.forall_mem_cons.mp answer
      simp only [firstFile, Action.perform_bind, Action.perform_isFile answers, List.find?_cons]
      cases session.files.leadsToFile surroundings.directory path with
      | true => rfl
      | false => exact ih rest_answer

/-- Asking for the class map files below a directory does not fail, for their names are short. -/
theorem answers_of_mem_candidates (there : files.lookup directory path = .ok .directory)
    (listed : file ∈ candidates path) : files.Answers directory file := by
  obtain ⟨location, leads⟩ : ∃ location, files.locate directory path = .ok location := by
    obtain ⟨location, leads, _⟩ := bind_eq_ok_iff.mp there
    exact ⟨location, leads⟩
  have below : ∃ names : List String, (∀ name ∈ names, name.utf8ByteSize ≤ FileTree.nameLimit) ∧
      file = { path with names := path.names ++ names } := by
    simp only [candidates, List.mem_cons, List.not_mem_nil, or_false] at listed
    rcases listed with rfl | rfl
    · exact ⟨[directoryName, fileName], by decide, rfl⟩
    · exact ⟨[dependencyDirectoryName, directoryName, fileName], by decide,
        by simp [HDiv.hDiv, Path.join, Path.isAbsolute]⟩
  obtain ⟨names, short, rfl⟩ := below
  exact FileTree.answers_append leads short

theorem located_of_read (held : files.read directory path = .ok bytes) :
    located files directory path = some path := by
  rw [located, if_neg (by simp [FileTree.lookup_of_read held])]

theorem answers_of_located (answers : files.Answers directory path)
    (found : located files directory path = some file) : files.Answers directory file := by
  unfold located at found
  split at found
  · rename_i there
    exact answers_of_mem_candidates there (List.mem_of_find?_eq_some found)
  · obtain rfl := Option.some.inj found
    exact answers

theorem perform_locate (answers : session.files.Answers surroundings.directory path) :
    (locate path).perform surroundings session =
      ((located session.files surroundings.directory path).elim
        (.error (.classMap path .nothingBelow)) .ok, session) := by
  simp only [locate, Action.perform_bind, Action.perform_isDirectory answers, located,
    decide_eq_true_eq]
  split
  · rename_i there
    rw [Action.perform_bind, perform_firstFile fun file => answers_of_mem_candidates there]
    cases (candidates path).find? (session.files.leadsToFile surroundings.directory) <;> rfl
  · rfl

/-! ## What is read from its bytes -/

/-- The class map that a data file is, whether or not its value can be made. -/
def ofData (file : Path) : Except ContentFault Value → Except Failure CodedClassMap
  | .ok value => (ofValue value).mapError (rejection file)
  | .error fault => .error (problemOf file (.content fault))

/-- The class map that an autoload array is, whether or not its bytes are a text. -/
def ofArray (file whole : Path) : Except Text.Utf8.Malformed String → Except Failure CodedClassMap
  | .ok text => coded <$> (Autoload.read whole text).mapError (.classMap file)
  | .error malformed => .error (.content (.undecodable malformed))

/-- The class map in bytes of a format, or in those of a file without one. `whole` is the absolute
path of the file. -/
def ofFormat (file whole : Path) (bytes : List UInt8) :
    Option DataFile.Format → Except Failure CodedClassMap
  | some format => ofData file (DataFile.ofBytes format bytes)
  | none =>
    if file.suffix = ".php" then ofArray file whole (Action.textOfBytes bytes)
    else .error (.classMap file .unsupportedKind)

/-- The class map in the bytes of a file. -/
def ofBytes (file whole : Path) (bytes : List UInt8) : Except Failure CodedClassMap :=
  ofFormat file whole bytes (DataFile.format? file)

theorem ofBytes_of_data {format : DataFile.Format} (known : DataFile.format? file = some format)
    (whole : Path) (bytes : List UInt8) :
    ofBytes file whole bytes = ofData file (DataFile.ofBytes format bytes) := by
  rw [ofBytes, known, ofFormat]

theorem ofBytes_of_array (generated : file.suffix = ".php") (whole : Path) (bytes : List UInt8) :
    ofBytes file whole bytes = ofArray file whole (Action.textOfBytes bytes) := by
  have no_data : DataFile.format? file = none := by
    rw [DataFile.format?, generated]
    rfl
  rw [ofBytes, no_data, ofFormat]
  exact if_pos generated

theorem ofBytes_of_other (no_data : DataFile.format? file = none)
    (not_generated : file.suffix ≠ ".php") (whole : Path) (bytes : List UInt8) :
    ofBytes file whole bytes = .error (.classMap file .unsupportedKind) := by
  rw [ofBytes, no_data, ofFormat]
  exact if_neg not_generated

theorem perform_loadFile_of_read
    (held : session.files.read surroundings.directory file = .ok bytes) :
    (loadFile file).perform surroundings session =
      (ofBytes file (⟨.slash, surroundings.directory⟩ / file) bytes, session) := by
  unfold loadFile DataFile.isDataFile
  cases known : DataFile.format? file with
  | some format =>
      rw [ofBytes_of_data known]
      simp only [Option.isSome_some, if_true, loadData, Action.perform_bind,
        Action.perform_tryCatch, DataFile.perform_load_of_read held, known, DataFile.ofFormat]
      cases DataFile.ofBytes format bytes with
      | error fault => rfl
      | ok value => exact Action.perform_ofExcept _ _ _ _
  | none =>
      simp only [Option.isSome_none, Bool.false_eq_true, if_false]
      by_cases generated : file.suffix = ".php"
      · rw [ofBytes_of_array generated, if_pos generated]
        simp only [Action.perform_bind, Action.perform_readText_of_read held]
        cases Action.textOfBytes bytes with
        | error malformed => rfl
        | ok text =>
            simp only [mapError_ok, Action.perform_absolute, Action.perform_map,
              Action.perform_ofExcept, ofArray]
            cases Autoload.read (⟨.slash, surroundings.directory⟩ / file) text <;> rfl
      · rw [ofBytes_of_other known generated, if_neg generated]
        rfl

/-- What comes of a class map file. -/
def ofFile (files : FileTree) (directory : Location) (file : Path) :
    Except Failure CodedClassMap :=
  match files.read directory file with
  | .ok bytes => ofBytes file (⟨.slash, directory⟩ / file) bytes
  | .error _ => .error (.classMap file .fileNotFound)

theorem ofFile_of_read (held : files.read directory file = .ok bytes) :
    ofFile files directory file = ofBytes file (⟨.slash, directory⟩ / file) bytes := by
  rw [ofFile, held]

/-- The class map for a path and the file that it is in. -/
def loaded (files : FileTree) (directory : Location) (path : Path) :
    Except Failure (Path × CodedClassMap) :=
  match located files directory path with
  | none => .error (.classMap path .nothingBelow)
  | some file => (file, ·) <$> ofFile files directory file

/-- Loading a class map changes nothing but the log, and that only where it comes out well. -/
theorem perform_load (answers : session.files.Answers surroundings.directory path) :
    (load path).perform surroundings session =
      match loaded session.files surroundings.directory path with
      | .error failure => (.error failure, session)
      | .ok (file, map) =>
        (.ok map, session.noting ⟨.info, "Loaded " ++ toString map.size ++ " class(es) from " ++
          toString file, none⟩) := by
  rw [load, Action.perform_bind, perform_locate answers, loaded]
  cases found : located session.files surroundings.directory path with
  | none => rfl
  | some file =>
      simp only [Option.elim_some, Action.perform_bind,
        Action.perform_isFile (answers_of_located answers found), FileTree.leadsToFile, ofFile]
      cases held : session.files.read surroundings.directory file with
      | error fault => rfl
      | ok bytes =>
          simp only [Except.isOk, Except.toBool, Bool.not_true, Bool.false_eq_true, if_false,
            Action.perform_bind, perform_loadFile_of_read held]
          cases ofBytes file (⟨.slash, surroundings.directory⟩ / file) bytes <;> rfl

theorem loaded_of_located (found : located files directory path = some file) :
    loaded files directory path = (file, ·) <$> ofFile files directory file := by
  rw [loaded, found]

/-! ## Values that can be shown -/

theorem exists_of_mapM_error {α β ε : Type} {f : α → Except ε β} {items : List α} {e : ε}
    (failed : items.mapM f = .error e) : ∃ item ∈ items, f item = .error e := by
  induction items with
  | nil => cases failed
  | cons item rest ih =>
      rw [List.mapM_cons] at failed
      rcases bind_eq_error_iff.mp failed with here | ⟨b, _, failed⟩
      · exact ⟨item, List.mem_cons_self, here⟩
      · rcases bind_eq_error_iff.mp failed with later | ⟨_, _, ⟨⟩⟩
        obtain ⟨other, listed, failed⟩ := ih later
        exact ⟨other, List.mem_cons_of_mem _ listed, failed⟩

/-- A problem with a value can be reported if the value can be shown. -/
theorem isShowable_of_ofValue {value : Value} {problem : Problem}
    (bad : ofValue value = .error problem) (shown : value.isShowable = true) :
    problem.isShowable = true := by
  unfold ofValue at bad
  split at bad
  · cases bad
  · split at bad
    · rename_i entries
      unfold Value.isShowable at shown
      rcases bind_eq_error_iff.mp ((map_eq_pure_bind _ _).symm.trans bad) with
        failed | ⟨_, _, ⟨⟩⟩
      obtain ⟨entry, listed, failed⟩ := exists_of_mapM_error failed
      obtain ⟨name, file⟩ := Json.areEntriesShowable_iff.mp shown entry listed
      unfold entryOf at failed
      split at failed
      · cases failed
      · obtain rfl := Except.error.inj failed
        rw [Problem.isShowable, name, file]
        rfl
    · obtain rfl := Except.error.inj bad
      rfl

/-- Whatever is written in JSON can be shown. -/
theorem isShowable_of_json {value : Value} (given : DataFile.ofBytes .json bytes = .ok value) :
    value.isShowable = true := by
  obtain ⟨text, _, given⟩ := bind_eq_ok_iff.mp given
  unfold DataFile.valueOf at given
  split at given
  · obtain rfl := Except.ok.inj given
    rfl
  · obtain ⟨_, front, _, _, spelled, _⟩ :=
      Json.document_eq_ok_iff.mp (mapError_eq_ok_iff.mp (mapError_eq_ok_iff.mp given))
    exact spelled.isShowable

/-! ## Failures that are not reported -/

/-- The failures of loading that are no bad class map: bytes of an autoload array that are no text,
a value in YAML that cannot be made for a cause that does not count as one of its content, and an
entry in YAML that would have to be reported with a whole number in it that has too many digits. -/
inductive Escapes (files : FileTree) (directory : Location) (path : Path) : Failure → Prop where
  | undecodable {file : Path} {bytes : List UInt8} {malformed : Text.Utf8.Malformed}
      (found : located files directory path = some file)
      (held : files.read directory file = .ok bytes) (generated : file.suffix = ".php")
      (no_text : Action.textOfBytes bytes = .error malformed) :
      Escapes files directory path (.content (.undecodable malformed))
  | unconstructed {file : Path} {bytes : List UInt8} {text : String} {fault : Yaml.Fault}
      (found : located files directory path = some file)
      (held : files.read directory file = .ok bytes) (yaml : DataFile.format? file = some .yaml)
      (unconstructed : DataFile.Unconstructed bytes text fault) :
      Escapes files directory path (.content (.yaml fault))
  | notShowable {file : Path} {bytes : List UInt8} {value : Value} {problem : Problem}
      (found : located files directory path = some file)
      (held : files.read directory file = .ok bytes) (yaml : DataFile.format? file = some .yaml)
      (given : DataFile.ofBytes .yaml bytes = .ok value) (bad : ofValue value = .error problem)
      (long : problem.isShowable = false) : Escapes files directory path .notShowable

/-- Loading ends with the failures that escape. -/
theorem Escapes.loaded_eq (escapes : Escapes files directory path failure) :
    loaded files directory path = .error failure := by
  cases escapes with
  | undecodable found held generated no_text =>
      rw [loaded_of_located found, ofFile_of_read held, ofBytes_of_array generated,
        no_text, ofArray]
      rfl
  | unconstructed found held yaml unconstructed =>
      rw [loaded_of_located found, ofFile_of_read held, ofBytes_of_data yaml,
        unconstructed.ofBytes_eq,
        ofData]
      exact congrArg _ (if_neg (ne_true_of_eq_false unconstructed.uncaught))
  | notShowable found held yaml given bad long =>
      rw [loaded_of_located found, ofFile_of_read held, ofBytes_of_data yaml, given, ofData, bad]
      exact congrArg _ (if_neg (ne_true_of_eq_false long))

/-- A data file comes out as a map or as a bad class map, unless a value in it cannot be made or
shown. -/
theorem ofData_cases {bytes : List UInt8} {format : DataFile.Format}
    (found : located files directory path = some file)
    (held : files.read directory file = .ok bytes) (known : DataFile.format? file = some format) :
    (∃ map, ofData file (DataFile.ofBytes format bytes) = .ok map) ∨
      (∃ problem, ofData file (DataFile.ofBytes format bytes) = .error (.classMap file problem)) ∨
        ∃ failure, Escapes files directory path failure ∧
          ofData file (DataFile.ofBytes format bytes) = .error failure := by
  cases made : DataFile.ofBytes format bytes with
  | ok value =>
      simp only [ofData]
      cases given : ofValue value with
      | ok map => exact .inl ⟨map, rfl⟩
      | error problem =>
          by_cases shown : problem.isShowable = true
          · exact .inr (.inl ⟨problem, congrArg _ (if_pos shown)⟩)
          · cases format with
            | yaml => exact .inr (.inr ⟨.notShowable,
                .notShowable found held known made given (eq_false_of_ne_true shown),
                congrArg _ (if_neg shown)⟩)
            | json => exact absurd (isShowable_of_ofValue given (isShowable_of_json made)) shown
  | error fault =>
      by_cases caught : Failure.isContent fault = true
      · exact .inr (.inl ⟨.unreadable fault, congrArg _ (if_pos caught)⟩)
      · obtain ⟨text, cause, rfl, rfl, unconstructed⟩ := DataFile.exists_unconstructed made caught
        exact .inr (.inr ⟨_, .unconstructed found held known unconstructed,
          congrArg _ (if_neg caught)⟩)

theorem ofArray_cases (file whole : Path) (bytes : List UInt8) :
    (∃ map, ofArray file whole (Action.textOfBytes bytes) = .ok map) ∨
      (∃ problem, ofArray file whole (Action.textOfBytes bytes) = .error (.classMap file problem)) ∨
        ∃ malformed, Action.textOfBytes bytes = .error malformed ∧
          ofArray file whole (Action.textOfBytes bytes) =
            .error (.content (.undecodable malformed)) := by
  cases Action.textOfBytes bytes with
  | error malformed => exact .inr (.inr ⟨malformed, rfl, rfl⟩)
  | ok text =>
      simp only [ofArray]
      cases Autoload.read whole text with
      | ok map => exact .inl ⟨map.coded, rfl⟩
      | error problem => exact .inr (.inl ⟨problem, rfl⟩)

theorem ofFile_cases (found : located files directory path = some file) :
    (∃ map, ofFile files directory file = .ok map) ∨
      (∃ problem, ofFile files directory file = .error (.classMap file problem)) ∨
        ∃ failure, Escapes files directory path failure ∧
          ofFile files directory file = .error failure := by
  cases held : files.read directory file with
  | error fault =>
      rw [ofFile, held]
      exact .inr (.inl ⟨.fileNotFound, rfl⟩)
  | ok bytes =>
      rw [ofFile_of_read held]
      cases known : DataFile.format? file with
      | some format =>
          rw [ofBytes_of_data known]
          exact ofData_cases found held known
      | none =>
          by_cases generated : file.suffix = ".php"
          · rw [ofBytes_of_array generated]
            rcases ofArray_cases file (⟨.slash, directory⟩ / file) bytes with
              loaded | reported | ⟨malformed, no_text, escaped⟩
            · exact .inl loaded
            · exact .inr (.inl reported)
            · exact .inr (.inr ⟨_, .undecodable found held generated no_text, escaped⟩)
          · rw [ofBytes_of_other known generated]
            exact .inr (.inl ⟨.unsupportedKind, rfl⟩)

theorem loaded_cases (files : FileTree) (directory : Location) (path : Path) :
    (∃ file map, loaded files directory path = .ok (file, map)) ∨
      (∃ file problem, loaded files directory path = .error (.classMap file problem)) ∨
        ∃ failure, Escapes files directory path failure ∧
          loaded files directory path = .error failure := by
  cases found : located files directory path with
  | none =>
      rw [loaded, found]
      exact .inr (.inl ⟨path, .nothingBelow, rfl⟩)
  | some file =>
      rw [loaded_of_located found]
      rcases ofFile_cases found with ⟨map, given⟩ | ⟨problem, given⟩ | ⟨failure, escapes, given⟩
      · exact .inl ⟨file, map, congrArg _ given⟩
      · exact .inr (.inl ⟨file, problem, congrArg _ given⟩)
      · exact .inr (.inr ⟨failure, escapes, congrArg _ given⟩)

/-- Wherever asking for the path does not fail, loading its class map gives a map of texts to texts
or reports a class map that cannot be used, but for the failures that escape, and those do come of
it. The files stay as they are. -/
theorem unusable_is_reported (path : Path) (surroundings : Surroundings) (session : Session)
    (answers : session.files.Answers surroundings.directory path) :
    ∃ result after, (load path).perform surroundings session = (result, after) ∧
      after.files = session.files ∧
      ((∃ map, result = .ok map) ∨ (∃ file problem, result = .error (.classMap file problem)) ∨
        ∃ failure, Escapes session.files surroundings.directory path failure ∧
          result = .error failure) ∧
      ∀ failure, Escapes session.files surroundings.directory path failure →
        result = .error failure := by
  rw [perform_load answers]
  have escaped (failure : Failure)
      (escapes : Escapes session.files surroundings.directory path failure) := escapes.loaded_eq
  rcases loaded_cases session.files surroundings.directory path with
    ⟨file, map, given⟩ | ⟨file, problem, given⟩ | ⟨failure, escapes, given⟩
  · simp only [given] at escaped ⊢
    exact ⟨_, _, rfl, session.files_noting _, .inl ⟨map, rfl⟩, fun failure escapes =>
      absurd (escaped failure escapes) (by simp)⟩
  · simp only [given] at escaped ⊢
    exact ⟨_, _, rfl, rfl, .inr (.inl ⟨file, problem, rfl⟩), fun failure escapes =>
      congrArg _ (Except.error.inj (escaped failure escapes))⟩
  · simp only [given] at escaped ⊢
    exact ⟨_, _, rfl, rfl, .inr (.inr ⟨failure, escapes, rfl⟩), fun failure escapes =>
      congrArg _ (Except.error.inj (escaped failure escapes))⟩

/-- A data file in YAML that is a word with the tag of truth values. -/
theorem unusable_is_reported_of_taggedWord :
    (Session.holding "classes.yaml" (Text.Utf8.encode "!!bool maybe".toList)).files.Answers []
        ⟨.relative, ["classes.yaml"]⟩ ∧
      ((load ⟨.relative, ["classes.yaml"]⟩).perform ⟨[], .empty, .notFound, false, .ordinary⟩
        (.holding "classes.yaml" (Text.Utf8.encode "!!bool maybe".toList))).1 =
          .error (.content (.yaml (.notABoolean "maybe"))) := by
  have held : (Session.holding "classes.yaml"
      (Text.Utf8.encode "!!bool maybe".toList)).files.read [] ⟨.relative, ["classes.yaml"]⟩ =
        .ok (Text.Utf8.encode "!!bool maybe".toList) := rfl
  have answers := FileTree.answers_of_lookup (FileTree.lookup_of_read held)
  obtain ⟨result, after, performed, _, _, escape⟩ := unusable_is_reported
    ⟨.relative, ["classes.yaml"]⟩ ⟨[], .empty, .notFound, false, .ordinary⟩
    (.holding "classes.yaml" (Text.Utf8.encode "!!bool maybe".toList)) answers
  refine ⟨answers, ?_⟩
  rw [performed]
  exact escape _ (.unconstructed rfl held (by decide) DataFile.unconstructed_taggedWord)

/-- An autoload array whose only byte is part of no text is not loaded, and is not reported as a
class map that cannot be used. -/
theorem load_of_no_text :
    (Session.holding "classes.php" [0xff]).files.Answers [] ⟨.relative, ["classes.php"]⟩ ∧
      ((load ⟨.relative, ["classes.php"]⟩).perform ⟨[], .empty, .notFound, false, .ordinary⟩
        (.holding "classes.php" [0xff])).1 =
          .error (.content (.undecodable ⟨0, 1, 0xff, .invalidStart⟩)) ∧
      ¬((∃ map,
        ((load ⟨.relative, ["classes.php"]⟩).perform ⟨[], .empty, .notFound, false, .ordinary⟩
          (.holding "classes.php" [0xff])).1 = .ok map) ∨
        ∃ file problem,
          ((load ⟨.relative, ["classes.php"]⟩).perform ⟨[], .empty, .notFound, false, .ordinary⟩
          (.holding "classes.php" [0xff])).1 = .error (.classMap file problem)) := by
  have held : (Session.holding "classes.php" [0xff]).files.read [] ⟨.relative, ["classes.php"]⟩ =
      .ok [0xff] := rfl
  have answers := FileTree.answers_of_lookup (FileTree.lookup_of_read held)
  have escapes :
    Escapes (Session.holding "classes.php" [0xff]).files [] ⟨.relative, ["classes.php"]⟩
      (.content (.undecodable ⟨0, 1, 0xff, .invalidStart⟩)) :=
    .undecodable rfl held (by decide) rfl
  have loads : (load ⟨.relative, ["classes.php"]⟩).perform ⟨[], .empty, .notFound, false, .ordinary⟩
      (.holding "classes.php" [0xff]) =
        (.error (.content (.undecodable ⟨0, 1, 0xff, .invalidStart⟩)),
          .holding "classes.php" [0xff]) := by
    rw [perform_load answers, escapes.loaded_eq]
  rw [loads]
  exact ⟨answers, rfl, by simp⟩

end OpcachePreload.ClassMap
