import OpcachePreload.Proofs.Action.Write
import OpcachePreload.Proofs.CommandLine.Run
import OpcachePreload.Proofs.Project.Frame

/-!
# What command lines write

A command line changes no file but its target: the manifest for a build that is not a preview, the
script for a replay into a script. Everything else that a command line does leaves the files as they
are. The target is changed only if the command line ends well, or if what follows the change fails:
the output does not take a line, or the device does not take all of the file.
-/

namespace OpcachePreload

open OpcachePreload.Action

namespace Command

/-! ## Targets -/

/-- The configuration of a context can be used on some files, and gives some settings. -/
def Loads (surroundings : Surroundings) (files : FileTree) (context : Context)
    (settings : Settings) : Prop :=
  (loadSettings context).outcome surroundings files = .ok (some settings)

/-- The path that a command may write to. -/
inductive Target (surroundings : Surroundings) (files : FileTree) (context : Context) :
    Command → Path → Prop where
  | manifest {request : Build.Request} {settings : Settings}
      (asked : Build.Request.read {} context.arguments = .ok request)
      (written : request.dryRun = false) (loads : Loads surroundings files context settings) :
      Target surroundings files context .build
        (Settings.resolveIn surroundings.environment settings.root
          (toString (request.output.getD settings.manifest)))
  | script {request : Preload.Request} {runtime : Option Settings.HostKind} {settings : Settings}
      (asked : Preload.Request.read {} context.arguments = .ok request)
      (named : Preload.runtimeOf request.runtime = .ok runtime)
      (loads : Loads surroundings files context settings)
      (scripted : (Preload.withRuntime runtime settings).loader.runtime = .script) :
      Target surroundings files context .preload
        (Settings.resolveIn surroundings.environment settings.root
          (toString (request.output.getD settings.loader.script)))

variable {interpreter : Module.Interpreter} {surroundings : Surroundings} {session : Session}
  {context : Context} {settings : Settings}

theorem loads_of_perform {after : Session}
    (performed : (loadSettings context).perform surroundings session =
      (.ok (some settings), after)) :
    Loads surroundings session.files context settings := by
  obtain ⟨records, performed'⟩ := (observes_loadSettings context).perform_eq surroundings session
  rw [performed'] at performed
  exact congrArg Prod.fst performed

/-! ## Commands that write nothing -/

theorem keeps_files_rejectArgument (command : Command) (word : String) :
    Keeps Session.files (rejectArgument command word) :=
  (keeps_files_note _).bind fun _ => (keeps_files_print _).bind fun _ => keeps_pure _

theorem keeps_files_withSettings (context : Context) {go : Settings → Action Status}
    (keeps : ∀ settings, Keeps Session.files (go settings)) :
    Keeps Session.files (withSettings context go) := by
  refine (observes_loadSettings context).keeps_files.bind fun loaded => ?_
  cases loaded with
  | none => exact keeps_pure failed
  | some settings => exact keeps settings

namespace Check

theorem keeps_files_loaderSettings (context : Context) :
    Keeps Session.files (loaderSettings context) := by
  refine (observes_configPath context).keeps_files.bind fun path =>
    (observes_exists? path).keeps_files.bind fun found => ?_
  exact Keeps.ite
    ((observes_loadSettings context).keeps_files.bind fun _ => keeps_pure _)
    ((keeps_files_note _).bind fun _ => keeps_pure _)

theorem keeps_files_checkHost (interpreter : Module.Interpreter) (loader : Settings.Loader) :
    Keeps Session.files (checkHost interpreter loader) := by
  intro surroundings session
  unfold checkHost
  cases loader.runtime with
  | script =>
      exact Host.keeps_check
        (Script.keeps_host quiet_files.silent loader.probe).capabilities surroundings
        loader.emptyScript session
  | modules => exact Host.keeps_check interpreter.keeps_capabilities surroundings {} session

theorem keeps_files_run (interpreter : Module.Interpreter) (loader : Settings.Loader) :
    Keeps Session.files (run interpreter loader) := by
  refine Keeps.tryCatch ((keeps_files_checkHost interpreter loader).bind fun _ =>
    (keeps_files_print _).bind fun _ => keeps_pure _) fun failure => ?_
  split
  · exact (keeps_files_print _).bind fun _ => keeps_pure _
  · exact keeps_fail _

theorem keeps_files_execute (interpreter : Module.Interpreter) (context : Context) :
    Keeps Session.files (execute interpreter context) := by
  unfold execute
  split
  · exact keeps_files_rejectArgument .check _
  · refine (keeps_files_loaderSettings context).bind fun loaded => ?_
    split
    · exact keeps_pure failed
    split
    · exact keeps_files_run interpreter _
    split
    · exact keeps_files_run interpreter _
    · exact (keeps_files_note _).bind fun _ => keeps_pure failed

end Check

namespace Info

theorem keeps_files_printItems (items : List String) : Keeps Session.files (printItems items) :=
  keeps_forM fun _ => keeps_files_print _

theorem keeps_files_printList (title : String) (items : List String) :
    Keeps Session.files (printList title items) :=
  (keeps_files_print _).bind fun _ => keeps_files_printItems items

theorem keeps_files_printSummary (settings : Settings) (path : Path) (manifest : Manifest)
    (classMap : ClassMap) : Keeps Session.files (printSummary settings path manifest classMap) :=
  (keeps_files_print _).bind fun _ => (keeps_files_print _).bind fun _ =>
    (keeps_files_print _).bind fun _ => (keeps_files_print _).bind fun _ =>
      (settings.observes_resolve _).keeps_files.bind fun _ =>
        (keeps_files_print _).bind fun _ => (keeps_files_print _).bind fun _ =>
          (keeps_files_print _).bind fun _ => keeps_files_print _

theorem keeps_files_printLists (manifest : Manifest) : Keeps Session.files (printLists manifest) :=
  (keeps_files_printList _ _).bind fun _ => (keeps_files_printList _ _).bind fun _ =>
    keeps_files_printList _ _

theorem keeps_files_printStale (stale : List String) : Keeps Session.files (printStale stale) :=
  Keeps.ite ((keeps_files_print _).bind fun _ => keeps_pure _)
    ((keeps_files_printList _ _).bind fun _ => keeps_pure _)

theorem keeps_files_showManifest (request : Request) (settings : Settings) (path : Path) :
    Keeps Session.files (showManifest request settings path) := by
  refine (Manifest.observes_load path).keeps_files.bind fun manifest =>
    settings.observes_loadClassMap.keeps_files.bind fun classMap =>
      (keeps_files_printSummary settings path manifest classMap).bind fun _ => ?_
  exact Keeps.ite
    ((keeps_files_printLists manifest).bind fun _ => keeps_files_printStale _)
    (keeps_files_printStale _)

theorem keeps_files_execute (context : Context) : Keeps Session.files (execute context) := by
  unfold execute
  split
  · exact keeps_files_rejectArgument .info _
  · rename_i request _
    refine keeps_files_withSettings context fun settings =>
      (settings.observes_manifestPath _).keeps_files.bind fun path =>
        (observes_exists? path).keeps_files.bind fun found => ?_
    exact Keeps.ite (keeps_files_showManifest request settings path)
      ((keeps_files_note _).bind fun _ => (keeps_files_note _).bind fun _ => keeps_pure failed)

end Info

/-! ## Commands that write -/

theorem confined_withSettings {go : Settings → Action Status} {target : Path → Prop}
    (confined : ∀ settings (after : Session),
      Loads surroundings after.files context settings → after.files = session.files →
      Confined surroundings.directory after target (· = succeeded)
        ((go settings).perform surroundings after)) :
    Confined surroundings.directory session target (· = succeeded)
      ((withSettings context go).perform surroundings session) := by
  have observes := observes_loadSettings context
  refine confined_bind observes.keeps_quiet fun loaded after performed => ?_
  have same : after.files = session.files := by
    rw [← observes.keeps_files surroundings session, performed]
  cases loaded with
  | none => exact confined_of_keeps (keeps_pure failed)
  | some settings =>
      have loads := loads_of_perform performed
      rw [← same] at loads
      exact confined settings after loads same

theorem keeps_outlets_manifest_write (manifest : Manifest) (path : Path) :
    Keeps Session.outlets (manifest.write path) :=
  (keeps_outlets_writeInto path _).bind fun _ => keeps_note quiet_outlets.silent _

theorem confined_manifest_write (manifest : Manifest) (path : Path) :
    Confined surroundings.directory session (· = path) (fun _ => True)
      ((manifest.write path).perform surroundings session) :=
  (confined_writeInto path _).bind (keeps_outlets_writeInto path _) fun _ => finishes_note _

theorem keeps_outlets_script_write (script : Script) (path : Path) :
    Keeps Session.outlets (script.write path) :=
  (keeps_outlets_writeInto path _).bind fun _ => keeps_note quiet_outlets.silent _

theorem confined_script_write (script : Script) (path : Path) :
    Confined surroundings.directory session (· = path) (fun _ => True)
      ((script.write path).perform surroundings session) :=
  (confined_writeInto path _).bind (keeps_outlets_writeInto path _) fun _ => finishes_note _

theorem finishes_succeeded (line : String) :
    Finishes (· = succeeded) (print line >>= fun _ => pure succeeded) :=
  (finishes_print line).bind fun _ _ => finishes_pure rfl

namespace Build

theorem keeps_files_preview (manifest : Manifest) : Keeps Session.files (preview manifest) :=
  (keeps_files_print _).bind fun _ => (keeps_files_print _).bind fun _ => keeps_files_print _

/-- A build writes nothing but the manifest, and that only if it is no preview. -/
theorem confined_run (request : Request) (settings : Settings) :
    Confined surroundings.directory session
      (fun path => request.dryRun = false ∧ path = Settings.resolveIn surroundings.environment
        settings.root (toString (request.output.getD settings.manifest)))
      (· = succeeded) ((run request settings).perform surroundings session) := by
  refine confined_bind (fun quiet => keeps_print quiet _) fun _ _ _ =>
    confined_bind (fun quiet => settings.keeps_build quiet.silent none) fun builder _ _ =>
      confined_bind (fun quiet => keeps_print quiet _) fun _ after _ => ?_
  cases shown : request.dryRun with
  | true =>
      exact confined_of_keeps ((keeps_files_preview _).bind fun _ => keeps_pure succeeded)
  | false =>
      refine confined_bind (settings.observes_manifestPath _).keeps_quiet
        fun path between resolved => ?_
      rw [Settings.manifestPath, Settings.perform_resolve, Prod.mk.injEq,
        Except.ok.injEq] at resolved
      obtain ⟨rfl, rfl⟩ := resolved
      exact ((confined_manifest_write _ _).bind (keeps_outlets_manifest_write _ _) fun _ =>
        finishes_succeeded _).mono fun path aimed => ⟨rfl, aimed⟩

end Build

namespace Preload

theorem perform_replayOn {σ : Type} (host : Host σ) (state : σ) (request : Request)
    (settings : Settings) (surroundings : Surroundings) (session : Session) :
    (replayOn host state request settings).perform surroundings session =
      match (settings.runReplay host none request.includeOnly request.checkEnvironment).perform
        surroundings state session with
      | ((result, state), after) => (result.map (·, state), after) :=
  rfl

theorem keeps_replayOn {γ : Type} {view : Session → γ} {σ : Type} {host : Host σ}
    (keeps : host.Keeps view) (silent : Silent view) (state : σ) (request : Request)
    (settings : Settings) : Keeps view (replayOn host state request settings) := by
  intro surroundings session
  have same := settings.keeps_runReplay silent keeps none request.includeOnly
    request.checkEnvironment surroundings state session
  rw [perform_replayOn]
  rcases outcome : (settings.runReplay host none request.includeOnly
    request.checkEnvironment).perform surroundings state session with ⟨⟨result, last⟩, after⟩
  rw [outcome] at same
  exact same

theorem keeps_replayOn_script {γ : Type} {view : Session → γ} (silent : Silent view)
    (request : Request) (settings : Settings) :
    Keeps view (replayOn (Script.host settings.loader.probe) settings.loader.emptyScript request
      settings) :=
  keeps_replayOn (Script.keeps_host silent _) silent _ request settings

theorem keeps_outlets_replayScript (request : Request) (settings : Settings) :
    Keeps Session.outlets (replayScript request settings) := by
  refine (keeps_replayOn_script quiet_outlets.silent request settings).bind fun replayed => ?_
  exact ((settings.observes_resolve _).keeps_quiet quiet_outlets).bind fun path =>
    (keeps_outlets_script_write _ path).bind fun _ => (keeps_print quiet_outlets _).bind fun _ =>
      keeps_pure _

theorem confined_replayScript (request : Request) (settings : Settings) :
    Confined surroundings.directory session
      (· = Settings.resolveIn surroundings.environment settings.root
        (toString (request.output.getD settings.loader.script))) (fun _ => True)
      ((replayScript request settings).perform surroundings session) := by
  refine confined_bind (fun quiet => keeps_replayOn_script quiet.silent request settings)
    fun replayed after _ => ?_
  obtain ⟨summary, script⟩ := replayed
  refine confined_bind (settings.observes_resolve _).keeps_quiet
    fun path between resolved => ?_
  rw [Settings.perform_resolve, Prod.mk.injEq, Except.ok.injEq] at resolved
  obtain ⟨rfl, rfl⟩ := resolved
  exact (confined_script_write _ _).bind (keeps_outlets_script_write _ _) fun _ =>
    (finishes_print _).bind fun _ _ => finishes_pure trivial

/-- A replay writes nothing but the script, and that only if it is into one. -/
theorem confined_run (keeps : interpreter.Keeps Session.files) (request : Request)
    (settings : Settings) :
    Confined surroundings.directory session
      (fun path => settings.loader.runtime = .script ∧ path = Settings.resolveIn
        surroundings.environment settings.root
        (toString (request.output.getD settings.loader.script)))
      (· = succeeded) ((run interpreter request settings).perform surroundings session) := by
  unfold run
  cases kind : settings.loader.runtime with
  | script =>
      exact ((confined_replayScript request settings).bind
        (keeps_outlets_replayScript request settings) fun summary => finishes_succeeded _).mono
          fun path aimed => ⟨rfl, aimed⟩
  | modules =>
      exact confined_of_keeps
        (((keeps_replayOn (keeps.host quiet_files.silent) quiet_files.silent {} request
        settings).map Prod.fst).bind fun _ => (keeps_files_print _).bind fun _ => keeps_pure _)

end Preload

/-! ## All commands -/

/-- A command changes only its target, and that only if it succeeds, or because the output or the
device does not take everything. -/
theorem confined_execute (session : Session) (keeps : interpreter.Keeps Session.files)
    (command : Command)
    (context : Context) :
    Confined surroundings.directory session
      (Target surroundings session.files context command) (· = succeeded)
      ((CommandLine.execute interpreter command context).perform surroundings session) := by
  cases command with
  | check => exact confined_of_keeps (Check.keeps_files_execute interpreter context)
  | info => exact confined_of_keeps (Info.keeps_files_execute context)
  | build =>
      rw [CommandLine.execute, Build.execute]
      split
      · exact confined_of_keeps (keeps_files_rejectArgument _ _)
      · rename_i request asked
        refine confined_withSettings fun settings after loads same => ?_
        refine (Build.confined_run request settings).mono ?_
        rintro _ ⟨written, rfl⟩
        exact .manifest asked written (same ▸ loads)
  | preload =>
      rw [CommandLine.execute, Preload.execute]
      split
      · exact confined_of_keeps (keeps_files_rejectArgument _ _)
      · rename_i request asked
        split
        · exact confined_of_keeps ((keeps_files_note _).bind fun _ => keeps_pure failed)
        · rename_i runtime named
          refine confined_withSettings fun settings after loads same => ?_
          refine (Preload.confined_run keeps request (Preload.withRuntime runtime settings)).mono ?_
          rintro _ ⟨scripted, rfl⟩
          have target := Target.script asked named (same ▸ loads) scripted
          cases runtime <;> exact target

end Command

namespace CommandLine

variable {interpreter : Module.Interpreter} {surroundings : Surroundings} {session : Session}
  {options : Options} {name : String} {context : Command.Context} {words : List String}

open Command (Status succeeded failed)

/-- Whether every file has the content that it has in a session. -/
def SameFiles (before after : Session) : Prop :=
  ∀ location, after.files.bytesAt? location = before.files.bytesAt? location

/-- A command that words run fails because the output or the device does not take everything. -/
def Loses (interpreter : Module.Interpreter) (surroundings : Surroundings) (session : Session)
    (words : List String) : Prop :=
  ∃ command context threshold failure, Runs surroundings.environment words command context ∧
    ((execute interpreter command context).perform surroundings { session with threshold }).1 =
      .error failure ∧ failure.isLoss = true

/-- What a command line may change: the target of the command that it runs. -/
def Aims (surroundings : Surroundings) (session : Session) (words : List String) (path : Path) :
    Prop :=
  ∃ command context, Runs surroundings.environment words command context ∧
    Command.Target surroundings session.files context command path

/-- Words that run no command leave the files alone. -/
theorem keeps_files_run_of_unknown (read : Options.read words = .ok options)
    (proper : options.version = false) (busy : options.asksHelp = false)
    (called : options.command = some name) (unlogged : Unlogged words)
    (unknown : Command.ofName? name = none) (surroundings : Surroundings) (session : Session) :
    ((run interpreter words).perform surroundings session).2.files = session.files := by
  have keeps (context : Command.Context) :
      Keeps Session.files (guarded name (dispatch interpreter name context)) := by
    refine Keeps.tryCatch ?_ fun failure => ?_
    · rw [dispatch, unknown]
      exact (keeps_files_note _).bind fun _ => (finishes_reportUnknown name).keeps_files
    · split
      · exact (keeps_files_print _).bind fun _ => keeps_pure interruptedStatus
      · exact keeps_fail _
      · exact (keeps_files_note _).bind fun _ => keeps_pure failed
  rw [perform_run interpreter read proper busy called unlogged]
  exact keeps _ surroundings { session with threshold := levelFor options.verbose }

/-- Words that run a command change only its target, and that only if they end well, or if the
output or the device does not take everything. -/
theorem confined_run_of_runs (keeps : interpreter.Keeps Session.files) {command : Command}
    (runs : Runs surroundings.environment words command context) (unlogged : Unlogged words)
    (session : Session) :
    let outcome := (run interpreter words).perform surroundings session
    (exitStatus outcome.1 ≠ 0 → SameFiles session outcome.2 ∨
        ¬session.Lossless ∧ Loses interpreter surroundings session words) ∧
      ∀ location, outcome.2.files.bytesAt? location ≠ session.files.bytesAt? location →
        ∃ path, Command.Target surroundings session.files context command path ∧
          outcome.2.files.locate surroundings.directory path = .ok location := by
  intro outcome
  obtain ⟨threshold, ran⟩ := perform_run_cases interpreter runs unlogged session
  have confined : Confined surroundings.directory session
      (Command.Target surroundings session.files context command) (· = succeeded)
      ((execute interpreter command context).perform surroundings { session with threshold }) :=
    have executed := Command.confined_execute { session with threshold } keeps command context
    executed.from rfl rfl
  rcases ran with ⟨status, after, executed, performed⟩ | ⟨failure, between, executed, handled⟩ <;>
    rw [executed] at confined
  · have ended : outcome = (.ok (.ended status), after) := performed
    rw [ended]
    refine ⟨fun fails => ?_, confined.confined⟩
    refine (confined.unchanged (by rintro _ ⟨⟩; exact fails)).imp_right ?_
    rintro ⟨_, _, ⟨⟩, _⟩
  · refine ⟨fun _ => ?_, ?_⟩
    · rcases confined.unchanged (by simp) with same | ⟨lossy, _, ⟨⟩, loss⟩
      · exact .inl fun location => by rw [handled.files]; exact same location
      · exact .inr ⟨lossy, command, context, threshold, failure, runs, by rw [executed], loss⟩
    · rw [handled.files]
      exact confined.confined

/-- A project with a configuration, with a class map beside it and one below it, and with two files
of log settings, of which one cannot be decoded. Elsewhere there is a file of variables. -/
def sampleFiles (configuration : String) : FileTree := ⟨[
  (["srv"], .directory),
  (["srv", "sub"], .directory),
  (["srv", "preload.json"], .file (Text.Utf8.encode configuration.toList)),
  (["srv", "cm.json"], .file (Text.Utf8.encode "\x7b\x7d".toList)),
  (["srv", "sub", "cm.json"], .file (Text.Utf8.encode "\x7b\x7d".toList)),
  (["srv", "records.ini"], .file (Text.Utf8.encode ("[loggers]\nkeys=root\n[handlers]\nkeys=\n" ++
    "[formatters]\nkeys=\n[logger_root]\nhandlers=\n").toList)),
  (["srv", "log.ini"], .file [0xff]),
  (["tmp"], .directory),
  (["tmp", "extra.env"], .file (Text.Utf8.encode "PRELOADER_CLASS_MAP=/srv/cm.json\n".toList))]⟩

/-- A session with that project, and with an output that takes some texts and no more. -/
def sampleSession (texts : Nat) : Session where
  files := sampleFiles "\x7b\"class_map\": \"cm.json\"\x7d"
  takes printed _ := printed.length < texts

/-- A command line that builds the project from the root. -/
def sampleWords : List String := ["-c", "/srv/preload.json", "build", "-o", "out.json"]

/-- What comes of it. -/
def sampleBuild (texts : Nat) : Except Failure Ending × Session :=
  (run Module.sources sampleWords).perform ⟨[], .empty, .notFound, false, .ordinary⟩
    (sampleSession texts)

end CommandLine

end OpcachePreload
