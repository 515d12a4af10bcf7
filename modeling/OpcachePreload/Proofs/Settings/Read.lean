import OpcachePreload.Proofs.DataFile
import OpcachePreload.Proofs.Settings.Load

/-!
# Reading settings

What comes of loading the settings of a configuration file, told without doing it: the entries that
the file gives, and from them and the variables the settings. The session is left as it is.
-/

namespace OpcachePreload

open OpcachePreload.Action

variable {library : SettingsLibrary} {files : FileTree} {directory : Location} {env : Environment}
  {path : Path} {failure : Failure} {given : List (Value × Value)}

namespace Settings

/-- The variables in the file of variables, if there is one. -/
def readVariables (env : Environment) (files : FileTree) (directory : Location) :
    Except Failure Variables :=
  match files.read directory variableFile with
  | .error _ => .ok .empty
  | .ok bytes =>
    match textOfBytes bytes with
    | .error malformed => .error (.content (.undecodable malformed))
    | .ok text => .ok (.ofFile (VariableFile.read env text))

theorem readVariables_of_absent
    (absent : files.leadsToFile directory variableFile = false) :
    readVariables env files directory = .ok .empty := by
  unfold readVariables
  cases held : files.read directory variableFile with
  | error fault => rfl
  | ok bytes =>
      rw [FileTree.leadsToFile, held] at absent
      cases absent

/-- Asking for the file of variables does not fail, not even in a directory that is not there. -/
theorem answers_variableFile (files : FileTree) (directory : Location) :
    files.Answers directory variableFile := by
  apply FileTree.answers_of_locate
  intro fault blocked
  have short : ∀ name ∈ [".env"], name.utf8ByteSize ≤ FileTree.nameLimit := by decide
  exact FileTree.isAbsence_of_descend short blocked

theorem perform_fileVariables (surroundings : Surroundings) (session : Session) :
    fileVariables.perform surroundings session =
      (readVariables surroundings.environment session.files surroundings.directory, session) := by
  simp only [fileVariables, perform_bind, perform_isFile (answers_variableFile _ _),
    FileTree.leadsToFile, readVariables]
  cases held : session.files.read surroundings.directory variableFile with
  | error fault => rfl
  | ok bytes =>
      simp only [Except.isOk, Except.toBool, if_true, perform_bind, perform_readText_of_read held]
      cases textOfBytes bytes <;> rfl

/-- The entries that a configuration file gives, its root taken from its directory. -/
def readGiven (env : Environment) (files : FileTree) (directory : Location) (path : Path) :
    Except Failure (List (Value × Value)) := do
  let entries ← entriesOf path (← DataFile.read files directory path)
  let root := env.path (← writtenRoot path entries)
  return Value.assign (.text "root")
    (.text (toString (((⟨.slash, directory⟩ : Path) / path.parent) / root))) entries

/-- The settings with given entries. -/
def makeFrom (library : SettingsLibrary) (env : Environment) (files : FileTree)
    (directory : Location) (given : List (Value × Value)) : Except Failure Settings :=
  if given.any fun entry => !entry.1.isText then .error .fieldNotText
  else if hasArgument library given then
    (library.make env directory files given).mapError .foreign
  else do ofSources env (← readVariables env files directory) given

/-- The settings of a configuration file. -/
def readFrom (library : SettingsLibrary) (env : Environment) (files : FileTree)
    (directory : Location) (path : Path) : Except Failure Settings := do
  makeFrom library env files directory (← readGiven env files directory path)

theorem perform_make (given : List (Value × Value)) (surroundings : Surroundings)
    (session : Session) :
    (make given).perform surroundings session =
      (makeFrom surroundings.system.library surroundings.environment session.files
        surroundings.directory given, session) := by
  unfold make makeFrom
  split
  · rfl
  simp only [perform_bind, perform_read]
  split
  · rw [perform_makeByLibrary]
  · simp only [perform_bind, perform_fileVariables]
    cases readVariables surroundings.environment session.files surroundings.directory with
    | error failure => rfl
    | ok known =>
        change (ofExcept id _).perform surroundings session = _
        rw [perform_ofExcept]
        exact congrArg (·, session) (mapError_id _)

/-- Loading settings leaves the session as it is. -/
theorem perform_load {text : String} (named : text.isEmpty = false) (surroundings : Surroundings)
    (session : Session) :
    (load (some text)).perform surroundings session =
      (readFrom surroundings.system.library surroundings.environment session.files
        surroundings.directory (surroundings.environment.path text), session) := by
  have some_text : ((some text).filter (!·.isEmpty)).getD fileName = text := by
    simp [Option.filter, named]
  rw [load, some_text]
  have expands (text : String) : (expanded text).perform surroundings session =
      (.ok (surroundings.environment.path text), session) := rfl
  simp only [perform_bind, expands, DataFile.perform_load, perform_ofExcept, mapError_id,
    perform_absolute, perform_make, readFrom, readGiven]
  generalize surroundings.environment.path text = path
  cases DataFile.read session.files surroundings.directory path with
  | error failure => rfl
  | ok value =>
      simp only [bind, Except.bind]
      cases entriesOf path value with
      | error failure => rfl
      | ok entries =>
          simp only
          cases writtenRoot path entries <;> rfl

theorem readFrom_of_unread (fails : DataFile.read files directory path = .error failure) :
    readFrom library env files directory path = .error failure := by
  rw [readFrom, readGiven, fails]
  rfl

theorem readFrom_of_given (gives : readGiven env files directory path = .ok given) :
    readFrom library env files directory path = makeFrom library env files directory given := by
  rw [readFrom, gives]
  rfl

theorem makeFrom_of_named (named : ∀ entry ∈ given, entry.1.isText = true) :
    makeFrom library env files directory given =
      if hasArgument library given then
        (library.make env directory files given).mapError .foreign
      else readVariables env files directory >>= fun known => ofSources env known given := by
  have all_named : ¬(given.any fun entry => !entry.1.isText) = true := by
    simpa using named
  rw [makeFrom, if_neg all_named]

end Settings

end OpcachePreload
