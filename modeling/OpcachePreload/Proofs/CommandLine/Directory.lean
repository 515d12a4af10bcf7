import OpcachePreload.Proofs.CommandLine.Frame
import OpcachePreload.Proofs.Project.Directory
import OpcachePreload.Proofs.Settings.Expansion
import OpcachePreload.Proofs.Settings.Read
import OpcachePreload.Proofs.Settings.Root

/-!
# Builds from another working directory

A build whose configuration is at an absolute path has an absolute root: it is given to the settings
as the directory of the configuration, and nothing that is given can be overruled. So the build
comes out the same from every working directory without a file of variables.
-/

namespace OpcachePreload

open OpcachePreload.Action

variable {surroundings : Surroundings} {directory : Location} {fits : FileTree → Prop}
  {files : FileTree} {path : Path}

/-! ## Loading settings -/

namespace Settings

variable {given : List (Value × Value)} {text : String}

theorem sameFrom_fileVariables
    (absent : files.leadsToFile surroundings.directory variableFile = false)
    (absent' : files.leadsToFile directory variableFile = false) :
    SameFrom surroundings directory (· = files) (· = .empty) fileVariables := by
  rintro session rfl
  rw [perform_fileVariables, perform_fileVariables, readVariables_of_absent absent,
    readVariables_of_absent absent']
  exact ⟨rfl, by rintro _ ⟨⟩; rfl⟩

theorem sameFrom_make
    (absent : files.leadsToFile surroundings.directory variableFile = false)
    (absent' : files.leadsToFile directory variableFile = false)
    (plain : hasArgument surroundings.system.library given = false)
    (set : given? given "root" = some (.text text))
    (absolute : (surroundings.environment.path text).isAbsolute = true) :
    SameFrom surroundings directory (· = files) (·.root.isAbsolute = true) (make given) := by
  have rest : SameFrom surroundings directory (· = files) (·.root.isAbsolute = true) (do
      let file ← fileVariables
      Action.ofExcept id (ofSources (← read).environment file given)) := by
    refine (sameFrom_fileVariables absent absent').then fun file _ => ?_
    refine fun session _ => ⟨by simp only [perform_bind, perform_read, perform_ofExcept], ?_⟩
    intro settings made
    simp only [perform_bind, perform_read, perform_ofExcept] at made
    rw [root_of_ofSources (mapError_eq_ok_iff.mp made) set]
    exact absolute
  have reached : SameFrom surroundings directory (· = files) (·.root.isAbsolute = true) (do
      if hasArgument (← read).system.library given then makeByLibrary given
      else
        let file ← fileVariables
        Action.ofExcept id (ofSources (← read).environment file given)) := by
    intro session fit
    have same := rest session fit
    simp only [perform_bind, perform_read, plain, Bool.false_eq_true, if_false] at same ⊢
    exact same
  unfold make
  split
  · exact sameFrom_fail_bind _ _
  · exact reached

/-- Loading the configuration at an absolute path gives an absolute root, and that from every
working directory without a file of variables. -/
theorem sameFrom_load {written : String} (nonempty : written.isEmpty = false)
    (absolute : (surroundings.environment.path written).isAbsolute = true)
    (absent : files.leadsToFile surroundings.directory variableFile = false)
    (absent' : files.leadsToFile directory variableFile = false)
    (plain : ∀ entries, (DataFile.load (surroundings.environment.path written)).outcome
      surroundings files = .ok (.mapping entries) →
        PlainRoot entries ∧ hasArgument surroundings.system.library entries = false) :
    SameFrom surroundings directory (· = files) (·.root.isAbsolute = true)
      (load (some written)) := by
  unfold load
  have chosen : ((some written).filter (!·.isEmpty)).getD fileName = written := by
    rw [Option.filter_some, nonempty]
    rfl
  rw [chosen]
  refine (sameFrom_expanded written).keeping (observes_expanded written).keeps_files ?_
  rintro _ rfl
  refine ((DataFile.sameFrom_load absolute).outcome (DataFile.observes_load _)).keeping
    (DataFile.observes_load _).keeps_files fun value loaded => ?_
  have entries_plain : ∀ entries, entriesOf (surroundings.environment.path written) value =
      .ok entries →
        PlainRoot entries ∧ hasArgument surroundings.system.library entries = false := by
    intro entries read
    rcases eq_nil_or_mapping_of_entriesOf read with rfl | rfl
    · exact ⟨fun _ _ found => by simp at found, rfl⟩
    · exact plain _ loaded
  refine (sameFrom_ofExcept entries_plain).keeping (keeps_ofExcept _ _) fun entries plain => ?_
  have written_root : SameFrom surroundings directory (· = files) (fun _ => True)
      (Action.ofExcept id (writtenRoot (surroundings.environment.path written) entries)) :=
    sameFrom_ofExcept fun _ _ => trivial
  refine written_root.keeping (keeps_ofExcept _ _) fun text _ => ?_
  refine (sameFrom_expanded text).keeping (observes_expanded text).keeps_files fun root _ => ?_
  refine (sameFrom_absolute (Path.isAbsolute_parent absolute)).keeping
    (observes_absolute _).keeps_files ?_
  rintro _ rfl
  exact sameFrom_make absent absent' (hasArgument_assign_root plain.2 _)
    (given?_assign_root plain.1 _)
    (surroundings.environment.isAbsolute_path (Path.isAbsolute_join
      (Path.isAbsolute_parent absolute) root))

end Settings

/-! ## Commands -/

namespace Command

variable {settings : Settings} {context : Context}

/-- Neither of two working directories holds a file of variables, and the configuration at a path
has no root under another spelling, unless one under its own name comes first, and no argument of
the library that checks the settings. -/
structure Portable (surroundings : Surroundings) (directory : Location) (files : FileTree)
    (path : Path) : Prop where
  absent : files.leadsToFile surroundings.directory Settings.variableFile = false
  absent' : files.leadsToFile directory Settings.variableFile = false
  plain : ∀ entries,
    (DataFile.load (surroundings.environment.path (Path.toString path))).outcome
      surroundings files =
      .ok (.mapping entries) →
        Settings.PlainRoot entries ∧
          Settings.hasArgument surroundings.system.library entries = false

theorem sameFrom_loadSettingsAt (absolute : path.isAbsolute = true)
    (portable : Portable surroundings directory files path) :
    SameFrom surroundings directory (· = files)
      (fun loaded => ∀ settings, loaded = some settings → settings.root.isAbsolute = true)
      (loadSettingsAt path) := by
  have loads := Settings.sameFrom_load (Path.isEmpty_toString absolute)
    (surroundings.environment.isAbsolute_path absolute) portable.absent portable.absent'
    portable.plain
  refine (loads.map (f := some) ?_).tryCatch fun failure => ?_
  · rintro settings root_absolute _ ⟨⟩
    exact root_absolute
  · split
    · exact (sameFrom_note _).then fun _ _ => sameFrom_pure (by simp)
    · exact sameFrom_fail failure

theorem sameFrom_loadSettings (proper : path.Proper) (absolute : path.isAbsolute = true)
    (portable : Portable surroundings directory files path)
    (configured : context.configPath = some (Path.toString path)) :
    SameFrom surroundings directory (· = files)
      (fun loaded => ∀ settings, loaded = some settings → settings.root.isAbsolute = true)
      (loadSettings context) := by
  have chosen : configPath context = pure path := by
    rw [configPath, configured, Option.filter_some, Path.isEmpty_toString absolute]
    exact congrArg pure (Path.ofString_toString proper)
  rw [loadSettings, chosen, pure_bind]
  refine (sameFrom_exists? absolute).keeping (observes_exists? path).keeps_files
    fun found _ => ?_
  cases found with
  | true => exact sameFrom_loadSettingsAt absolute portable
  | false => exact (sameFrom_note _).then fun _ _ => sameFrom_pure (by simp)

namespace Build

theorem sameFrom_preview (manifest : Manifest) :
    SameFrom surroundings directory fits (fun _ => True) (preview manifest) :=
  (sameFrom_print _).then fun _ _ => (sameFrom_print _).then fun _ _ => sameFrom_print _

/-- With an absolute root a build does the same from every working directory. -/
theorem sameFrom_run (absolute : settings.root.isAbsolute = true) (request : Request) :
    SameFrom surroundings directory fits (fun _ => True) (run request settings) := by
  refine (sameFrom_print _).then fun _ _ => (Settings.sameFrom_build absolute).then fun builder _ =>
    (sameFrom_print _).then fun _ _ => ?_
  split
  · exact (sameFrom_preview _).then fun _ _ => sameFrom_pure trivial
  · refine (Settings.sameFrom_resolve absolute _).then fun path path_absolute => ?_
    exact (Manifest.sameFrom_write path_absolute _).then fun _ _ => (sameFrom_print _).then
      fun _ _ => sameFrom_pure trivial

theorem sameFrom_execute (proper : path.Proper) (absolute : path.isAbsolute = true)
    (portable : Portable surroundings directory files path)
    (configured : context.configPath = some (Path.toString path)) :
    SameFrom surroundings directory (· = files) (fun _ => True) (execute context) := by
  unfold execute
  split
  · exact (sameFrom_note _).then fun _ _ => (sameFrom_print _).then fun _ _ => sameFrom_pure trivial
  · rename_i request _
    refine (sameFrom_loadSettings proper absolute portable configured).then
      fun loaded root_absolute => ?_
    cases loaded with
    | none => exact sameFrom_pure trivial
    | some settings => exact sameFrom_run (root_absolute settings rfl) request

end Build

end Command

/-! ## Command lines -/

namespace CommandLine

open Command (Portable)

variable {interpreter : Module.Interpreter} {options : Options} {config : Path}

/-- A file of log settings that is named, if it is there. -/
def logFile? (surroundings : Surroundings) (files : FileTree) (file : Option Path) : Option Path :=
  file.filter fun path => ((exists? path).outcome surroundings files).toOption == some true

/-- The files once what is noted is settled: a file of log settings may have other files opened. -/
def settledFiles (surroundings : Surroundings) (files : FileTree) (file : Option Path) : FileTree :=
  match logFile? surroundings files file with
  | some path => (surroundings.system.logSetup surroundings.directory files path).files
  | none => files

/-- The file of log settings that options name. -/
def Options.logPath (env : Environment) (options : Options) : Option Path :=
  options.loggingConfig.map fun path => env.path (Path.toString path)

/-- Options for a build whose configuration is at an absolute path. So is the file of log settings,
if one is named, and if it is there, the same comes of it in another directory. -/
structure Anchored (surroundings : Surroundings) (directory : Location) (files : FileTree)
    (options : Options) (config : Path) : Prop where
  called : options.command = some "build"
  configured : options.configPath = some config
  absolute : config.isAbsolute = true
  log_absolute : ∀ path, options.loggingConfig = some path → path.isAbsolute = true
  log_same : ∀ path,
    logFile? surroundings files (options.logPath surroundings.environment) = some path →
      surroundings.system.logSetup directory files path =
        surroundings.system.logSetup surroundings.directory files path

theorem perform_exists? (path : Path) (surroundings : Surroundings) (session : Session) :
    (exists? path).perform surroundings session =
      ((exists? path).outcome surroundings session.files, session) := by
  simp only [exists?, find, outcome, perform_bind, perform_ask]
  cases (session.files.probe surroundings.directory path).mapError
    (Failure.unusablePath · (toString path)) <;> rfl

/-- A file of log settings is used if it is there. -/
theorem settleLog_cases (verbose : Nat) (file : Option Path) (surroundings : Surroundings)
    (files : FileTree) :
    (∃ path, logFile? surroundings files file = some path ∧ ∀ session : Session,
        session.files = files → (settleLog verbose file).perform surroundings session =
          (settleByFile path).perform surroundings session) ∨
      logFile? surroundings files file = none ∧ ∀ session : Session, session.files = files →
        ((settleLog verbose file).perform surroundings session).2.files = files := by
  cases file with
  | none => exact .inr ⟨rfl, fun session held => held⟩
  | some path =>
      cases found : (exists? path).outcome surroundings files with
      | error failure =>
          refine .inr ⟨by simp [logFile?, found, Except.toOption], ?_⟩
          rintro session rfl
          simp [settleLog, perform_exists?, found]
      | ok present =>
          cases present with
          | true =>
              refine .inl ⟨path, by simp [logFile?, found, Except.toOption], ?_⟩
              rintro session rfl
              simp [settleLog, perform_exists?, found]
          | false =>
              refine .inr ⟨by simp [logFile?, found, Except.toOption], ?_⟩
              rintro session rfl
              simp [settleLog, perform_exists?, found]

theorem files_settleLog (verbose : Nat) (file : Option Path) (surroundings : Surroundings)
    (session : Session) : ((settleLog verbose file).perform surroundings session).2.files =
      settledFiles surroundings session.files file := by
  rcases settleLog_cases verbose file surroundings session.files with
    ⟨path, used, performed⟩ | ⟨unused, kept⟩
  · rw [performed session rfl, settledFiles, used, settleByFile]
    simp only [perform_bind, perform_read, perform_get, perform_modify, perform_ofExcept]
    cases (surroundings.system.logSetup surroundings.directory session.files path).threshold <;> rfl
  · rw [kept session rfl, settledFiles, unused]

theorem sameFrom_settleByFile
    (same : surroundings.system.logSetup directory files path =
      surroundings.system.logSetup surroundings.directory files path) :
    SameFrom surroundings directory (· = files) (fun _ => True) (settleByFile path) := by
  rintro session rfl
  refine ⟨?_, fun _ _ => trivial⟩
  simp only [settleByFile, perform_bind, perform_read, perform_get, perform_modify,
    perform_ofExcept, same]

theorem sameFrom_settleLog {file : Option Path}
    (absolute : ∀ path, file = some path → path.isAbsolute = true)
    (same : ∀ path, logFile? surroundings files file = some path →
      surroundings.system.logSetup directory files path =
        surroundings.system.logSetup surroundings.directory files path) (verbose : Nat) :
    SameFrom surroundings directory (· = files) (fun _ => True) (settleLog verbose file) := by
  unfold settleLog
  cases file with
  | none => exact sameFrom_modify _
  | some path =>
      have looked : SameFrom surroundings directory (· = files)
          (fun present => (exists? path).outcome surroundings files = .ok present)
          (exists? path) :=
        have found : SameFrom surroundings directory (· = files) (fun _ => True) (exists? path) :=
          sameFrom_exists? (absolute path rfl)
        found.outcome (observes_exists? path)
      refine looked.keeping (observes_exists? path).keeps_files fun present found => ?_
      cases present with
      | true =>
          rw [if_pos rfl, pure_bind]
          exact sameFrom_settleByFile (same path (by simp [logFile?, found, Except.toOption]))
      | false =>
          rw [if_neg Bool.false_ne_true, pure_bind]
          exact sameFrom_modify _

theorem sameFrom_reportUnknown (name : String) :
    SameFrom surroundings directory fits (fun _ => True) (reportUnknown name) :=
  (sameFrom_print _).then fun _ _ => (sameFrom_print _).then fun _ _ => (sameFrom_print _).then
    fun _ _ => sameFrom_pure trivial

theorem sameFrom_explain (name : String) :
    SameFrom surroundings directory fits (fun _ => True) (explain name) := by
  unfold explain
  split
  · exact (sameFrom_print _).then fun _ _ => sameFrom_pure trivial
  · exact sameFrom_reportUnknown name

theorem sameFrom_guarded {name : String} {action : Action Command.Status}
    (same : SameFrom surroundings directory fits (fun _ => True) action) :
    SameFrom surroundings directory fits (fun _ => True) (guarded name action) := by
  refine same.tryCatch fun failure => ?_
  split
  · exact (sameFrom_print _).then fun _ _ => sameFrom_pure trivial
  · exact sameFrom_fail _
  · exact (sameFrom_note _).then fun _ _ => sameFrom_pure trivial

theorem sameFrom_dispatch {context : Command.Context} (proper : path.Proper)
    (absolute : path.isAbsolute = true) (portable : Portable surroundings directory files path)
    (configured : context.configPath = some (Path.toString path)) :
    SameFrom surroundings directory (· = files) (fun _ => True)
      (dispatch interpreter "build" context) := by
  refine (Command.Build.sameFrom_execute proper absolute portable configured).tryCatch
    fun failure => ?_
  split
  · exact (sameFrom_print _).then fun _ _ => sameFrom_pure trivial
  · exact sameFrom_fail failure

theorem sameFrom_expandedOption (file : Option Path) :
    SameFrom surroundings directory fits
      (· = file.map fun path => surroundings.environment.path (Path.toString path))
      (file.mapM fun path => expanded (Path.toString path)) := by
  cases file with
  | none => exact sameFrom_pure rfl
  | some path =>
      rw [Option.mapM_some]
      exact (sameFrom_expanded _).map fun _ same => congrArg some same

theorem keeps_files_expandedOption (file : Option Path) :
    Keeps Session.files (file.mapM fun path => expanded (Path.toString path)) := by
  cases file with
  | none => exact keeps_pure none
  | some path =>
      rw [Option.mapM_some]
      exact (observes_expanded _).keeps_files.map some

theorem sameFrom_runOptions
    (anchored : Anchored surroundings directory files options config)
    (portable : Portable surroundings directory
      (settledFiles surroundings files (options.logPath surroundings.environment))
      (surroundings.environment.path (Path.toString config))) :
    SameFrom surroundings directory (· = files) (fun _ => True)
      (runOptions interpreter options) := by
  unfold runOptions
  split
  · exact (sameFrom_print _).then fun _ _ => sameFrom_pure trivial
  rw [anchored.called]
  dsimp only
  split
  · exact sameFrom_explain _
  · refine (sameFrom_expandedOption _).keeping (keeps_files_expandedOption _) ?_
    rintro _ rfl
    have log_absolute : ∀ path, options.logPath surroundings.environment = some path →
        path.isAbsolute = true := by
      intro path given
      obtain ⟨written, named, rfl⟩ := Option.map_eq_some_iff.mp given
      exact surroundings.environment.isAbsolute_path (anchored.log_absolute written named)
    have settled : ∀ session, session.files = files →
        ((settleLog options.verbose (options.logPath surroundings.environment)).perform
          surroundings session).2.files =
            settledFiles surroundings files (options.logPath surroundings.environment) := by
      rintro session rfl
      exact files_settleLog _ _ surroundings session
    refine (sameFrom_settleLog log_absolute anchored.log_same _).changing settled fun _ _ => ?_
    refine (sameFrom_expandedOption _).keeping (keeps_files_expandedOption _) ?_
    rintro _ rfl
    apply sameFrom_guarded
    apply sameFrom_dispatch (Path.proper_ofString _)
      (surroundings.environment.isAbsolute_path anchored.absolute) portable
    rw [anchored.configured]
    rfl

/-- A library that reads a file of variables which is named among what is given, from the working
directory if its path is relative, and refuses all other arguments. -/
def sampleLibrary : SettingsLibrary where
  isArgument := SettingsLibrary.strict.isArgument
  field_proper := SettingsLibrary.strict.field_proper
  make env directory files given :=
    match Settings.given? given "_env_file" with
    | some (.text name) =>
      let text := (files.read directory (env.path name)).toOption.bind (textOfBytes · |>.toOption)
      let file := Settings.Variables.ofFile (Settings.VariableFile.read env (text.getD ""))
      (Settings.ofSources env file given).mapError fun _ => .raised "ValidationError" "" true
    | _ => .error (.raised "TypeError" "" false)

/-- A system with that library, in which a file of log settings has to be UTF-8. -/
def sampleSystem : System where
  resolver := .unlinked
  logSetup directory files path :=
    ⟨files, match (files.read directory path).toOption.map textOfBytes with
      | some (.error malformed) => .error (.raised "UnicodeDecodeError" malformed.message true)
      | _ => .ok .warning⟩
  library := sampleLibrary

/-- The exit status of a command line that runs in a directory of the sample project. -/
def sampleStatus (words : List String) (directory : Location) (configuration : String) :
    Command.Status :=
  exitStatus ((run Module.sources words).perform
    ⟨directory, .empty, .notFound, false, sampleSystem⟩ { files := sampleFiles configuration }).1

/-- Whether nothing in a value is read as a root or as an argument of a library. -/
def lacksRoot (library : SettingsLibrary) : Value → Bool
  | .mapping entries =>
    (entries.find? Settings.readsRoot).isNone && !Settings.hasArgument library entries
  | _ => true

end CommandLine

end OpcachePreload
