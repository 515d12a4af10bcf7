import OpcachePreload.Proofs.Action.Output
import OpcachePreload.Proofs.CommandLine.Frame
import OpcachePreload.Proofs.Project.Replay

/-!
# What comes of commands

Preloading into a script, checking a PHP binary and showing the manifest of a project, each in terms
of what is loaded, what the binary answers, what can be written and what the output takes. They go
different ways about it, but ask the same things.
-/

namespace OpcachePreload

open OpcachePreload.Action

/-- A script is written if the device takes its text. Nothing is printed. -/
theorem Script.perform_write (script : Script) (path : Path) (surroundings : Surroundings)
    (session : Session) :
    ∃ result after, (script.write path).perform surroundings session = (result, after) ∧
      after.printed = session.printed ∧ after.takes = session.takes ∧
      (result = .ok () ↔ session.Stores surroundings.directory path script.text) ∧
      ∀ failure, result = .error failure → ¬failure.IsUnknownClass := by
  obtain ⟨result, files, performed, writing⟩ :=
    writing_writeInto path script.text surroundings session
  have stored := writing.eq_ok_iff
  have other : ∀ failure, result = .error failure → ¬failure.IsUnknownClass := by
    rintro _ rfl ⟨name, rfl⟩
    cases writing
  rw [write, perform_bind, performed]
  cases result with
  | error failure => exact ⟨_, _, rfl, rfl, rfl, stored, other⟩
  | ok _ =>
      obtain ⟨printed, takes⟩ := Session.printed_takes_noting { session with files }
        ⟨.info, "Wrote preload script with " ++ toString script.statements.size ++
          " statement(s): " ++ toString path, none⟩
      exact ⟨_, _, rfl, printed, takes, stored, other⟩

namespace Command

variable {interpreter : Module.Interpreter} {surroundings : Surroundings} {start session : Session}
  {context : Context} {settings : Settings}

/-- How an action of a command ends in sessions with the files and the device of a given one. Under
a condition it prints certain texts and succeeds, unless the output does not take them; otherwise it
does not succeed, whatever the output takes. -/
inductive Concludes (surroundings : Surroundings) (start : Session) (action : Action Status)
    (condition : Prop) : Prop where
  | well (texts : List String) (holds : condition)
      (shows : ∀ session : Session, session.files = start.files → session.stores = start.stores →
        Shows session texts succeeded (action.perform surroundings session))
  | badly (fails : ¬condition)
      (ends : ∀ session : Session, session.files = start.files → session.stores = start.stores →
        (action.perform surroundings session).1 ≠ .ok succeeded)

theorem Concludes.congr {action : Action Status} {condition other : Prop}
    (concludes : Concludes surroundings start action condition) (same : condition ↔ other) :
    Concludes surroundings start action other :=
  propext same ▸ concludes

theorem Loads.unique {files : FileTree} {other : Settings}
    (loads : Loads surroundings files context settings)
    (loads_other : Loads surroundings files context other) : settings = other :=
  Option.some.inj (Except.ok.inj (loads.symm.trans loads_other))

/-- The configuration that is loaded is there. -/
theorem Loads.exists_file {files : FileTree} (loads : Loads surroundings files context settings) :
    ∃ path, (configPath context).outcome surroundings files = .ok path ∧
      (exists? path).outcome surroundings files = .ok true := by
  obtain ⟨records, located⟩ := (observes_configPath context).perform_eq surroundings { files }
  rw [Loads, outcome, loadSettings, perform_bind, located] at loads
  cases found : (configPath context).outcome surroundings files with
  | error failure => simp [found] at loads
  | ok path =>
      obtain ⟨more, there⟩ := (observes_exists? path).perform_eq surroundings { files, records }
      simp only [found, perform_bind, there] at loads
      refine ⟨path, rfl, ?_⟩
      rcases present : (exists? path).outcome surroundings files with failure | _ | _
      · simp [present] at loads
      · simp [present, Action.complain, Except.map] at loads
      · rfl

/-- What is done with the settings of a configuration is done after loading it. -/
theorem perform_withSettings (context : Context) (go : Settings → Action Status)
    (surroundings : Surroundings) (session : Session) :
    ∃ records, (withSettings context go).perform surroundings session =
      match (loadSettings context).outcome surroundings session.files with
      | .error failure => (.error failure, { session with records })
      | .ok none => (.ok failed, { session with records })
      | .ok (some settings) => (go settings).perform surroundings { session with records } := by
  obtain ⟨records, performed⟩ := (observes_loadSettings context).perform_eq surroundings session
  refine ⟨records, ?_⟩
  rw [withSettings, perform_bind, performed]
  rcases (loadSettings context).outcome surroundings session.files with _ | _ | _ <;> rfl

/-- What is concluded with settings that are loaded is concluded once they are. -/
theorem concludes_withSettings {go : Settings → Action Status} {condition : Settings → Prop}
    (concludes : ∀ settings, Loads surroundings start.files context settings →
      Concludes surroundings start (go settings) (condition settings)) :
    Concludes surroundings start (withSettings context go)
      (∃ settings, Loads surroundings start.files context settings ∧ condition settings) := by
  unfold Loads at concludes ⊢
  rcases loaded : (loadSettings context).outcome surroundings start.files with
    failure | _ | settings
  · refine .badly (by simp) fun session held _ => ?_
    obtain ⟨records, performed⟩ := perform_withSettings context go surroundings session
    simp [performed, held, loaded]
  · refine .badly (by simp) fun session held _ => ?_
    obtain ⟨records, performed⟩ := perform_withSettings context go surroundings session
    simp [performed, held, loaded, failed, succeeded]
  · rcases concludes settings loaded with ⟨texts, holds, shows⟩ | ⟨fails, ends⟩
    · refine .well texts ⟨settings, rfl, holds⟩ fun session held device => ?_
      obtain ⟨records, performed⟩ := perform_withSettings context go surroundings session
      have shown := shows { session with records } held device
      rw [performed, show (loadSettings context).outcome surroundings session.files =
        .ok (some settings) by rw [held, loaded]]
      exact shown.from rfl rfl
    · refine .badly (by simpa using fails) fun session held device => ?_
      obtain ⟨records, performed⟩ := perform_withSettings context go surroundings session
      rw [performed, show (loadSettings context).outcome surroundings session.files =
        .ok (some settings) by rw [held, loaded]]
      exact ends { session with records } held device

/-! ## Checking -/

namespace Check

theorem observes_loaderSettings (context : Context) : Observes (loaderSettings context) := by
  refine (observes_configPath context).bind fun path => (observes_exists? path).bind fun found => ?_
  cases found with
  | true => exact (observes_loadSettings context).bind fun _ => observes_pure _
  | false => exact (observes_note _).bind fun _ => observes_pure _

theorem outcome_loaderSettings {files : FileTree}
    (loads : Loads surroundings files context settings) :
    (loaderSettings context).outcome surroundings files = .ok (some settings.loader) := by
  obtain ⟨path, found, present⟩ := loads.exists_file
  obtain ⟨records, located⟩ := (observes_configPath context).perform_eq surroundings { files }
  obtain ⟨more, there⟩ := (observes_exists? path).perform_eq surroundings { files, records }
  obtain ⟨most, loaded⟩ := (observes_loadSettings context).perform_eq surroundings
    { files, records := more }
  rw [outcome, loaderSettings, perform_bind, located, found]
  simp only [perform_bind, there, present, if_true, loaded]
  rw [show (loadSettings context).outcome surroundings files = .ok (some settings) from loads]
  rfl

theorem loads_or_usual {files : FileTree} {loader : Settings.Loader}
    (settled : (loaderSettings context).outcome surroundings files = .ok (some loader)) :
    (∃ settings, Loads surroundings files context settings ∧ settings.loader = loader) ∨
      loader = {} := by
  have rest (path : Path) : Observes (do
      if ← exists? path then
        return (← loadSettings context).map (·.loader)
      else
        Action.info "No configuration file, using loader defaults"
        return some ({} : Settings.Loader)) := by
    refine (observes_exists? path).bind fun found => ?_
    cases found with
    | true => exact (observes_loadSettings context).bind fun _ => observes_pure _
    | false => exact (observes_note _).bind fun _ => observes_pure _
  rw [loaderSettings, (observes_configPath context).outcome_bind rest] at settled
  obtain ⟨path, _, settled⟩ := bind_eq_ok_iff.mp settled
  obtain ⟨records, there⟩ := (observes_exists? path).perform_eq surroundings { files }
  rw [outcome, perform_bind, there] at settled
  rcases found : (exists? path).outcome surroundings files with failure | _ | _
  · simp [found] at settled
  · rw [found] at settled
    exact .inr (Option.some.inj (Except.ok.inj settled)).symm
  · obtain ⟨more, loaded⟩ := (observes_loadSettings context).perform_eq surroundings
      { files, records }
    simp only [found, if_true, perform_bind, loaded] at settled
    rcases given : (loadSettings context).outcome surroundings files with _ | _ | settings
    · simp [given] at settled
    · simp [given] at settled
    · simp only [given, perform_pure, Except.ok.injEq, Option.map_some,
        Option.some.injEq] at settled
      exact .inl ⟨settings, given, settled⟩

/-- Checking for scripts starts the PHP binary and does nothing else. -/
theorem perform_checkHost {loader : Settings.Loader} (scripted : loader.runtime = .script)
    (interpreter : Module.Interpreter) (surroundings : Surroundings) (session : Session) :
    (checkHost interpreter loader).perform surroundings session =
      (loader.probe.verdict surroundings.process,
        { session with started := session.started ++ [loader.probe.command] }) := by
  have judged := Script.perform_check_host loader.probe surroundings loader.emptyScript session
  unfold checkHost
  simp only [scripted]
  exact congrArg (fun outcome => (outcome.1.1, outcome.2)) judged

/-- The text that is printed for a PHP binary that can preload. -/
def fineText : String := "Environment OK\n"

theorem shows_run {loader : Settings.Loader} (interpreter : Module.Interpreter)
    (scripted : loader.runtime = .script)
    (fine : loader.probe.verdict surroundings.process = .ok ()) (session : Session) :
    Shows session [fineText] succeeded ((run interpreter loader).perform surroundings session) := by
  have prints : Prints surroundings (do
      Action.print "Environment OK"
      return succeeded) [fineText] succeeded :=
    (prints_print "Environment OK").bind (prints_pure _)
  have shows : Shows session [fineText] succeeded _ :=
    (prints.shows { session with started := session.started ++ [loader.probe.command] }).from rfl
      rfl
  rw [run, perform_tryCatch, perform_bind, perform_checkHost scripted, fine]
  dsimp only
  rcases outcome : perform (do
      Action.print "Environment OK"
      return succeeded) surroundings
        { session with started := session.started ++ [loader.probe.command] } with
    ⟨failure | status, after⟩ <;> rw [outcome] at shows
  · refine ⟨fun taken => ?_, fun refused => ?_⟩
    · cases (shows.taken taken).1
    · obtain ⟨text, ⟨⟩⟩ := shows.refused refused
      exact ⟨text, rfl⟩
  · exact shows

theorem run_of_not_fine {loader : Settings.Loader} (interpreter : Module.Interpreter)
    (scripted : loader.runtime = .script)
    (fails : loader.probe.verdict surroundings.process ≠ .ok ()) (session : Session) :
    ((run interpreter loader).perform surroundings session).1 ≠ .ok succeeded := by
  rw [run, perform_tryCatch, perform_bind, perform_checkHost scripted]
  cases judged : loader.probe.verdict surroundings.process with
  | ok _ => exact absurd judged fails
  | error failure =>
      dsimp only
      split
      · rw [perform_bind]
        rcases perform_print_cases _ surroundings _ with ⟨_, performed⟩ | ⟨_, performed⟩ <;>
          rw [performed] <;> simp [failed, succeeded]
      · simp

/-- Checking without naming a host succeeds if the PHP binary of the configuration can preload. -/
theorem concludes_execute (asked : readRuntime none context.arguments = .ok none)
    (scripted : ∀ loader, (loaderSettings context).outcome surroundings start.files =
      .ok (some loader) → loader.runtime = .script) :
    Concludes surroundings start (execute interpreter context)
      (∃ loader, (loaderSettings context).outcome surroundings start.files = .ok (some loader) ∧
        loader.probe.verdict surroundings.process = .ok ()) := by
  have performed (session : Session) (held : session.files = start.files) :
      ∃ records, (execute interpreter context).perform surroundings session =
        match (loaderSettings context).outcome surroundings start.files with
        | .error failure => (.error failure, { session with records })
        | .ok none => (.ok failed, { session with records })
        | .ok (some loader) =>
          (run interpreter loader).perform surroundings { session with records } := by
    obtain ⟨records, performed⟩ :=
      (observes_loaderSettings context).perform_eq surroundings session
    refine ⟨records, ?_⟩
    rw [execute, asked, perform_bind, performed, held]
    rcases (loaderSettings context).outcome surroundings start.files with _ | _ | _ <;> rfl
  rcases settled : (loaderSettings context).outcome surroundings start.files with
    failure | _ | loader
  · refine .badly (by simp) fun session held _ => ?_
    obtain ⟨records, ends⟩ := performed session held
    simp [ends, settled]
  · refine .badly (by simp) fun session held _ => ?_
    obtain ⟨records, ends⟩ := performed session held
    simp [ends, settled, failed, succeeded]
  · have scripted := scripted loader settled
    by_cases fine : loader.probe.verdict surroundings.process = .ok ()
    · refine .well [fineText] ⟨loader, rfl, fine⟩ fun session held _ => ?_
      obtain ⟨records, ends⟩ := performed session held
      have shows := shows_run interpreter scripted fine { session with records }
      rw [ends, settled]
      exact shows.from rfl rfl
    · refine .badly (by simpa using fine) fun session held _ => ?_
      obtain ⟨records, ends⟩ := performed session held
      rw [ends, settled]
      exact run_of_not_fine interpreter scripted fine _

end Check

/-! ## Preloading -/

namespace Preload

/-- The path that the script is written to. -/
def scriptPath (surroundings : Surroundings) (request : Request) (settings : Settings) : Path :=
  Settings.resolveIn surroundings.environment settings.root
    (toString (request.output.getD settings.loader.script))

/-- The script that a replay makes of some files. -/
def scriptOf (surroundings : Surroundings) (files : FileTree) (request : Request)
    (settings : Settings) : Script :=
  ((settings.runReplay (Script.host settings.loader.probe) none request.includeOnly
    request.checkEnvironment).perform surroundings settings.loader.emptyScript { files }).1.2

/-- Whether the script of a replay can be written. -/
def ScriptStored (surroundings : Surroundings) (session : Session) (request : Request)
    (settings : Settings) : Prop :=
  session.Stores surroundings.directory (scriptPath surroundings request settings)
    (scriptOf surroundings session.files request settings).text

section

variable {request : Request} (scripted : settings.loader.runtime = .script)
  (checked : settings.loader.checkEnvironment = true) (plain : request.checkEnvironment = none)

/-- What comes of the replay before anything is written. -/
def replayedFor (surroundings : Surroundings) (files : FileTree) (request : Request)
    (settings : Settings) : Except Failure (Replay.Summary × Script) :=
  settings.replayed surroundings files (request.includeOnly.getD settings.loader.includeOnly)
    settings.loader.emptyScript

include checked plain in
theorem scriptOf_eq {files : FileTree} {summary : Replay.Summary} {script : Script}
    (made : replayedFor surroundings files request settings = .ok (summary, script)) :
    scriptOf surroundings files request settings = script := by
  rw [scriptOf, plain]
  exact (settings.perform_runReplay checked request.includeOnly surroundings
    settings.loader.emptyScript { files }).2 summary script made

include checked plain in
/-- A replay into a script leaves alone the files, the device, the output and what was printed. -/
theorem perform_replayOn_script (surroundings : Surroundings) (session : Session) :
    ∃ after : Session, (replayOn (Script.host settings.loader.probe) settings.loader.emptyScript
        request settings).perform surroundings session =
          (replayedFor surroundings session.files request settings, after) ∧
      after.files = session.files ∧ after.stores = session.stores ∧
        after.printed = session.printed ∧ after.takes = session.takes := by
  have same : Keeps (fun session : Session =>
      (session.files, session.stores, session.printed, session.takes)) (replayOn
        (Script.host settings.loader.probe) settings.loader.emptyScript request settings) :=
    keeps_replayOn_script (fun _ _ _ _ _ => rfl) request settings
  have kept := same surroundings session
  obtain ⟨counted, left⟩ := settings.perform_runReplay checked request.includeOnly surroundings
    settings.loader.emptyScript session
  rw [perform_replayOn, plain] at kept ⊢
  rcases outcome : (settings.runReplay (Script.host settings.loader.probe) none
    request.includeOnly none).perform surroundings settings.loader.emptyScript session with
      ⟨⟨ends, script⟩, after⟩
  rw [outcome] at counted left kept
  simp only [Prod.mk.injEq] at kept counted left
  refine ⟨after, ?_, kept⟩
  have result : ends.map (·, script) = replayedFor surroundings session.files request settings := by
    rw [counted, replayedFor]
    cases given : settings.replayed surroundings session.files
      (request.includeOnly.getD settings.loader.includeOnly) settings.loader.emptyScript with
    | error failure => rfl
    | ok made => rw [left made.1 made.2 given]; rfl
  exact congrArg (·, after) result

/-- What is done once a script is written. -/
def report (path : Path) (summary : Replay.Summary) : Action Status := do
  Action.print ("Generated: " ++ toString path)
  Action.print ("Preloaded " ++ summary.countsText ++ " in " ++ summary.secondsText ++ "s")
  return succeeded

/-- The texts that are printed then. -/
def reportTexts (path : Path) (summary : Replay.Summary) : List String :=
  ["Generated: " ++ toString path ++ "\n",
    "Preloaded " ++ summary.countsText ++ " in " ++ summary.secondsText ++ "s" ++ "\n"]

theorem prints_report (path : Path) (summary : Replay.Summary) :
    Prints surroundings (report path summary) (reportTexts path summary) succeeded :=
  (prints_print _).bind ((prints_print _).bind (prints_pure _))

include scripted in
theorem run_eq : run interpreter request settings = (do
    let (summary, script) ← replayOn (Script.host settings.loader.probe)
      settings.loader.emptyScript request settings
    let path ← settings.resolve (toString (request.output.getD settings.loader.script))
    script.write path
    report path summary) := by
  simp only [run, scripted, replayScript, report, bind_assoc, pure_bind]

include scripted checked plain

/-- The replay prints nothing, and neither does writing the script. -/
theorem perform_run_of_made (interpreter : Module.Interpreter) {summary : Replay.Summary}
    {script : Script}
    (made : replayedFor surroundings session.files request settings = .ok (summary, script)) :
    ∃ result between, (run interpreter request settings).perform surroundings session =
        (Action.ofExcept id result >>= fun _ => report (scriptPath surroundings request settings)
          summary : Action Status).perform surroundings between ∧
      between.printed = session.printed ∧ between.takes = session.takes ∧
      (result = .ok () ↔ session.Stores surroundings.directory
        (scriptPath surroundings request settings) script.text) ∧
      ∀ failure, result = .error failure → ¬failure.IsUnknownClass := by
  obtain ⟨after, replayed, files, stores, printed, takes⟩ :=
    perform_replayOn_script checked plain surroundings session
  obtain ⟨result, between, wrote, same_printed, same_takes, stored, other⟩ :=
    Script.perform_write script (scriptPath surroundings request settings) surroundings after
  refine ⟨result, between, ?_, same_printed.trans printed, same_takes.trans takes, ?_, other⟩
  · rw [made] at replayed
    rw [run_eq scripted, perform_bind, replayed]
    dsimp only
    rw [perform_bind, Settings.perform_resolve]
    dsimp only
    rw [perform_bind, ← scriptPath, wrote, perform_bind, perform_ofExcept, mapError_id]
  · rw [stored]
    constructor <;> rintro ⟨writable, whole⟩
    · exact ⟨by rwa [files] at writable, by rwa [stores] at whole⟩
    · exact ⟨by rwa [files], by rwa [stores]⟩

theorem perform_run_of_not_made (interpreter : Module.Interpreter) {failure : Failure}
    (fails : replayedFor surroundings session.files request settings = .error failure) :
    ((run interpreter request settings).perform surroundings session).1 = .error failure := by
  obtain ⟨after, performed, _⟩ := perform_replayOn_script checked plain surroundings session
  rw [fails] at performed
  rw [run_eq scripted, perform_bind, performed]

/-- Preloading into a script succeeds if the replay does and the script can be written. -/
theorem concludes_run : Concludes surroundings start (run interpreter request settings)
    ((∃ made, replayedFor surroundings start.files request settings = .ok made) ∧
      ScriptStored surroundings start request settings) := by
  cases made : replayedFor surroundings start.files request settings with
  | error failure =>
      refine .badly (by simp) fun session held _ => ?_
      have given : replayedFor surroundings session.files request settings = .error failure := by
        rw [held, made]
      simp [perform_run_of_not_made scripted checked plain interpreter given]
  | ok result =>
      obtain ⟨summary, script⟩ := result
      have stores (session : Session) (held : session.files = start.files)
          (device : session.stores = start.stores) :
          session.Stores surroundings.directory (scriptPath surroundings request settings)
            script.text ↔ ScriptStored surroundings start request settings := by
        rw [ScriptStored, scriptOf_eq checked plain made]
        constructor <;> rintro ⟨writable, whole⟩
        · exact ⟨by rwa [held] at writable, by rwa [device] at whole⟩
        · exact ⟨by rwa [held], by rwa [device]⟩
      by_cases stored : ScriptStored surroundings start request settings
      · refine .well (reportTexts (scriptPath surroundings request settings) summary)
          ⟨⟨_, rfl⟩, stored⟩ fun session held device => ?_
        obtain ⟨result, between, ends, printed, takes, settled, _⟩ :=
          perform_run_of_made scripted checked plain interpreter
            (show replayedFor surroundings session.files request settings = _ by rw [held, made])
        obtain rfl := settled.mpr ((stores session held device).mpr stored)
        rw [ends]
        exact ((prints_report _ summary).shows between).from printed takes
      · refine .badly (fun both => stored both.2) fun session held device => ?_
        obtain ⟨result, between, ends, _, _, settled, _⟩ :=
          perform_run_of_made scripted checked plain interpreter
            (show replayedFor surroundings session.files request settings = _ by rw [held, made])
        rw [ends]
        rcases result with failure | ⟨⟩
        · rw [perform_bind, perform_ofExcept, mapError_error]
          simp
        · exact absurd ((stores session held device).mp (settled.mp rfl)) stored

end

section

variable {request : Request} (asked : Request.read {} context.arguments = .ok request)
  (unnamed : request.runtime = none) (plain : request.checkEnvironment = none)
  (php : ∀ settings, Loads surroundings start.files context settings →
    settings.loader.runtime = .script ∧ settings.loader.checkEnvironment = true)

include asked unnamed in
theorem execute_eq_withSettings :
    execute interpreter context = withSettings context (run interpreter request) := by
  rw [execute, asked]
  simp only [unnamed]
  rfl

include asked unnamed plain php

/-- Preloading with a configuration for PHP succeeds if the replay does and the script can be
written. -/
theorem concludes_execute : Concludes surroundings start (execute interpreter context)
    (∃ settings, Loads surroundings start.files context settings ∧
      (∃ made, replayedFor surroundings start.files request settings = .ok made) ∧
      ScriptStored surroundings start request settings) := by
  rw [execute_eq_withSettings asked unnamed]
  refine concludes_withSettings fun settings loads => ?_
  exact concludes_run (php settings loads).1 (php settings loads).2 plain

/-- Preloading with a configuration for PHP tells that a class is unknown if the replay does. -/
theorem execute_eq_unknownClass_iff {name : String} :
    (execute interpreter context).outcome surroundings start.files = .error (.unknownClass name) ↔
      ∃ settings, Loads surroundings start.files context settings ∧
        replayedFor surroundings start.files request settings = .error (.unknownClass name) := by
  obtain ⟨records, performed⟩ := perform_withSettings context (run interpreter request)
    surroundings { files := start.files }
  rw [outcome, execute_eq_withSettings asked unnamed, performed]
  unfold Loads at php ⊢
  rcases loaded : (loadSettings context).outcome surroundings start.files with
    failure | _ | settings
  · have other := knowsClasses_loadSettings context surroundings { files := start.files } failure
      loaded
    have differs : failure ≠ .unknownClass name := fun same => other ⟨name, same⟩
    simp [differs]
  · simp
  · obtain ⟨scripted, checked⟩ := php settings loaded
    simp only [Except.ok.injEq, Option.some.injEq, exists_eq_left']
    let session : Session := { files := start.files, records }
    cases made : replayedFor surroundings session.files request settings with
    | error failure =>
        have ends := perform_run_of_not_made scripted checked plain interpreter made
        simp [session, ends]
    | ok result =>
        -- Neither writing the script nor printing tells that a class is unknown.
        obtain ⟨summary, script⟩ := result
        obtain ⟨written, between, ends, _, _, _, other⟩ :=
          perform_run_of_made scripted checked plain interpreter made
        simp only [reduceCtorEq, iff_false]
        intro unknown
        change ((run interpreter request settings).perform surroundings session).1 = _ at unknown
        rw [ends, perform_bind, perform_ofExcept, mapError_id] at unknown
        rcases written with failure | ⟨⟩
        · exact other failure rfl ⟨name, Except.error.inj unknown⟩
        · rcases (prints_report (scriptPath surroundings request settings) summary).cases between
            with given | ⟨text, given⟩ <;> cases given.symm.trans unknown

end

end Preload

/-! ## Showing -/

namespace Info

/-- The texts that are printed for classes that are not known. -/
def staleTexts (stale : List String) : List String :=
  ("\nStale classes (" ++ toString stale.length ++ "):\n") ::
    stale.map fun name => "  - " ++ name ++ "\n"

/-- The text that is printed if there are none. -/
def cleanText : String := "\nAll classes resolve against the class map.\n"

/-- The texts that are printed last. -/
def lastTexts (stale : List String) : List String :=
  if stale = [] then [cleanText] else staleTexts stale

/-- The status that goes with them. -/
def lastStatus (stale : List String) : Status := if stale = [] then succeeded else failed

theorem prints_printItems (items : List String) :
    Prints surroundings (printItems items) (items.map fun item => "  - " ++ item ++ "\n") () :=
  prints_forM fun item => prints_print ("  - " ++ item)

theorem prints_printList (title : String) (items : List String) :
    Prints surroundings (printList title items)
      (("\n" ++ title ++ ":" ++ "\n") :: items.map fun item => "  - " ++ item ++ "\n") () :=
  (prints_print _).bind (prints_printItems items)

theorem exists_prints_printSummary (surroundings : Surroundings) (settings : Settings) (path : Path)
    (manifest : Manifest) (classMap : ClassMap) :
    ∃ texts, Prints surroundings (printSummary settings path manifest classMap) texts () :=
  ⟨_, (prints_print _).bind <| (prints_print _).bind <| (prints_print _).bind <|
    (prints_print _).bind <| Prints.after (settings.perform_resolve _ surroundings) <|
      (prints_print _).bind <| (prints_print _).bind <| (prints_print _).bind <| prints_print _⟩

theorem exists_prints_printLists (surroundings : Surroundings) (manifest : Manifest) :
    ∃ texts, Prints surroundings (printLists manifest) texts () :=
  ⟨_, (prints_printList _ _).bind <| (prints_printList _ _).bind <| prints_printList _ _⟩

theorem prints_printStale (stale : List String) :
    Prints surroundings (printStale stale) (lastTexts stale) (lastStatus stale) := by
  cases stale with
  | nil => exact (prints_print _).bind (prints_pure succeeded)
  | cons name rest =>
      have listed : Prints surroundings (printStale (name :: rest)) _ failed := (prints_printList
        ("Stale classes (" ++ toString (name :: rest).length ++ ")") (name :: rest)).bind
          (prints_pure failed)
      have title : "\n" ++ ("Stale classes (" ++ toString (name :: rest).length ++ ")") ++ ":" ++
          "\n" = "\nStale classes (" ++ toString (name :: rest).length ++ "):\n" := by
        simp [← String.toList_inj]
      rw [title, List.append_nil] at listed
      exact listed

/-- The file of a manifest that is loaded is there. -/
theorem exists_file_of_load {path : Path} {manifest : Manifest} {files : FileTree}
    (loaded : (Manifest.load path).outcome surroundings files = .ok manifest) :
    (exists? path).outcome surroundings files = .ok true := by
  rw [Manifest.load, (observes_readBytes path).outcome_bind fun _ =>
    observes_ofExcept _ _] at loaded
  obtain ⟨bytes, read, _⟩ := bind_eq_ok_iff.mp loaded
  rw [outcome, readBytes, perform_ask] at read
  cases held : files.lookup surroundings.directory path with
  | error fault => simp [FileTree.read, held, bind, Except.bind, mapError_error] at read
  | ok node => simp [outcome, exists?, find, FileTree.probe, held, mapError_ok, Except.map]

/-- What is asked for is shown once the manifest and the class map are loaded. Classes that the
class map does not know come last. -/
theorem exists_shows_showManifest {files : FileTree} {path : Path} {manifest : Manifest}
    {classMap : ClassMap} (request : Request)
    (held : (Manifest.load path).outcome surroundings files = .ok manifest)
    (loaded : settings.loadClassMap.outcome surroundings files = .ok classMap) :
    ∃ page, ∀ session : Session, session.files = files →
      Shows session (page ++ lastTexts (stale manifest classMap))
        (lastStatus (stale manifest classMap))
        ((showManifest request settings path).perform surroundings session) := by
  obtain ⟨summary, printed⟩ :=
    exists_prints_printSummary surroundings settings path manifest classMap
  obtain ⟨lists, listed⟩ := exists_prints_printLists surroundings manifest
  obtain ⟨page, shown⟩ : ∃ page, Prints surroundings (do
      printSummary settings path manifest classMap
      if request.list then printLists manifest
      printStale (stale manifest classMap))
        (page ++ lastTexts (stale manifest classMap)) (lastStatus (stale manifest classMap)) := by
    cases request.list with
    | true =>
        refine ⟨summary ++ lists, ?_⟩
        rw [List.append_assoc]
        exact printed.bind (listed.bind (prints_printStale _))
    | false => exact ⟨summary, printed.bind (prints_printStale _)⟩
  refine ⟨page, ?_⟩
  rintro session rfl
  obtain ⟨records, manifest_performed⟩ :=
    (Manifest.observes_load path).perform_eq surroundings session
  obtain ⟨more, classMap_performed⟩ :=
    settings.observes_loadClassMap.perform_eq surroundings { session with records }
  rw [held] at manifest_performed
  rw [loaded] at classMap_performed
  have shows : Shows session _ _ _ := (shown.shows { session with records := more }).from rfl rfl
  rw [showManifest, perform_bind, manifest_performed]
  dsimp only
  rw [perform_bind, classMap_performed]
  exact shows

variable {request : Request} (unnamed : request.manifest = none)

include unnamed

/-- The manifest of the settings is shown if it can be replayed. -/
theorem exists_shows_run {files : FileTree} {replay : Replay}
    (ready : (settings.replay none none).outcome surroundings files = .ok replay) :
    ∃ page, ∀ session : Session, session.files = files →
      Shows session (page ++ lastTexts (stale replay.manifest replay.classMap))
        (lastStatus (stale replay.manifest replay.classMap))
        ((run request settings).perform surroundings session) := by
  obtain ⟨loaded, same, held⟩ := settings.outcome_replay_eq_ok_iff.mp ready
  obtain ⟨page, shown⟩ := exists_shows_showManifest request held loaded
  refine ⟨page, ?_⟩
  rintro session rfl
  obtain ⟨records, there⟩ := (observes_exists? replay.path).perform_eq surroundings session
  rw [exists_file_of_load held] at there
  have shows : Shows session _ _ _ := (shown { session with records } rfl).from rfl rfl
  rw [run, unnamed, Settings.manifestPath, perform_bind, Settings.perform_resolve]
  simp only [Option.getD_none, ← same, perform_bind, there, if_true]
  exact shows

/-- Nothing is shown of a manifest that cannot be replayed. -/
theorem perform_run_of_not_ready (session : Session) {failure : Failure}
    (fails : (settings.replay none none).outcome surroundings session.files = .error failure) :
    ((run request settings).perform surroundings session).1 ≠ .ok succeeded ∧
      ((run request settings).perform surroundings session).2.printed = session.printed := by
  let path := Settings.resolveIn surroundings.environment settings.root (toString settings.manifest)
  obtain ⟨records, there⟩ := (observes_exists? path).perform_eq surroundings session
  obtain ⟨more, read⟩ :=
    (Manifest.observes_load path).perform_eq surroundings { session with records }
  obtain ⟨most, mapped⟩ :=
    settings.observes_loadClassMap.perform_eq surroundings { session with records := more }
  rw [run, unnamed, Settings.manifestPath, perform_bind, Settings.perform_resolve]
  simp only [Option.getD_none, perform_bind, show Settings.resolveIn surroundings.environment
    settings.root (toString settings.manifest) = path from rfl, there]
  rcases (exists? path).outcome surroundings session.files with problem | _ | _
  · simp
  · simp [Action.complain, Action.info, failed, succeeded, Except.map]
  · cases held : (Manifest.load path).outcome surroundings session.files with
    | error problem => simp [showManifest, read, held]
    | ok manifest =>
        cases loaded : settings.loadClassMap.outcome surroundings session.files with
        | error problem => simp [showManifest, read, held, mapped, loaded]
        | ok classMap =>
            have ready : (settings.replay none none).outcome surroundings session.files =
                .ok ⟨classMap, path, manifest⟩ :=
              settings.outcome_replay_eq_ok_iff.mpr ⟨loaded, rfl, held⟩
            rw [ready] at fails
            cases fails

omit unnamed

/-- Looking up the classes of a manifest stops at the first one that is shown as stale. -/
theorem filesOf_eq_error_iff_head? {manifest : Manifest} {classMap : ClassMap} {name : String} :
    Replay.filesOf classMap manifest.classes = .error name ↔
      (stale manifest classMap).head? = some name := by
  rw [Replay.filesOf_eq_error_iff_find?, stale, List.head?_filter]

theorem exists_filesOf_iff_stale_eq_nil {manifest : Manifest} {classMap : ClassMap} :
    (∃ files, Replay.filesOf classMap manifest.classes = .ok files) ↔
      stale manifest classMap = [] := by
  cases found : Replay.filesOf classMap manifest.classes with
  | ok files =>
      have no_error : ∀ name, (stale manifest classMap).head? ≠ some name := by
        intro name first
        have := filesOf_eq_error_iff_head?.mpr first
        rw [found] at this
        contradiction
      have none_stale : stale manifest classMap = [] :=
        List.head?_eq_none_iff.mp (Option.eq_none_iff_forall_ne_some.mpr no_error)
      simp [none_stale]
  | error name =>
      have first := filesOf_eq_error_iff_head?.mp found
      have some_stale : stale manifest classMap ≠ [] := by
        intro empty
        simp [empty] at first
      simp [some_stale]

include unnamed

/-- The command shows the manifest if it can be loaded with the class map, and prints nothing
otherwise. -/
theorem execute_cases (context : Context) (asked : Request.read {} context.arguments = .ok request)
    (surroundings : Surroundings) (files : FileTree) :
    (∃ settings replay, Loads surroundings files context settings ∧
      (settings.replay none none).outcome surroundings files = .ok replay ∧
      ∃ page, ∀ session : Session, session.files = files →
        Shows session (page ++ lastTexts (stale replay.manifest replay.classMap))
          (lastStatus (stale replay.manifest replay.classMap))
          ((execute context).perform surroundings session)) ∨
    ((∀ settings replay, Loads surroundings files context settings →
        (settings.replay none none).outcome surroundings files ≠ .ok replay) ∧
      ∀ session : Session, session.files = files →
        ((execute context).perform surroundings session).1 ≠ .ok succeeded ∧
        ((execute context).perform surroundings session).2.printed = session.printed) := by
  have executed : execute context = withSettings context (run request) := by
    rw [execute, asked]
  have performed := perform_withSettings context (run request) surroundings
  unfold Loads
  rw [executed]
  rcases loaded : (loadSettings context).outcome surroundings files with failure | _ | settings
  · refine .inr ⟨by simp, ?_⟩
    rintro session rfl
    obtain ⟨records, ends⟩ := performed session
    rw [ends, loaded]
    exact ⟨by simp, rfl⟩
  · refine .inr ⟨by simp, ?_⟩
    rintro session rfl
    obtain ⟨records, ends⟩ := performed session
    rw [ends, loaded]
    exact ⟨by simp [failed, succeeded], rfl⟩
  · cases ready : (settings.replay none none).outcome surroundings files with
    | ok replay =>
        obtain ⟨page, shown⟩ := exists_shows_run unnamed ready
        refine .inl ⟨settings, replay, rfl, ready, page, ?_⟩
        rintro session rfl
        obtain ⟨records, ends⟩ := performed session
        have shows : Shows session _ _ _ := (shown { session with records } rfl).from rfl rfl
        rw [ends, loaded]
        exact shows
    | error failure =>
        refine .inr ⟨?_, ?_⟩
        · rintro other replay ⟨⟩
          rw [ready]
          simp
        · rintro session rfl
          obtain ⟨records, ends⟩ := performed session
          obtain ⟨fails, unprinted⟩ :=
            perform_run_of_not_ready unnamed { session with records } ready
          rw [ends, loaded]
          refine ⟨fails, ?_⟩
          dsimp only
          rw [unprinted]

/-- Showing the manifest succeeds if it is loaded and no class of it is stale. -/
theorem concludes_execute (asked : Request.read {} context.arguments = .ok request) :
    Concludes surroundings start (execute context)
      (∃ settings replay, Loads surroundings start.files context settings ∧
        (settings.replay none none).outcome surroundings start.files = .ok replay ∧
        stale replay.manifest replay.classMap = []) := by
  rcases execute_cases unnamed context asked surroundings start.files with
    ⟨settings, replay, loads, ready, page, shown⟩ | ⟨not_ready, ends⟩
  · by_cases none_stale : stale replay.manifest replay.classMap = []
    · refine .well (page ++ lastTexts (stale replay.manifest replay.classMap))
        ⟨settings, replay, loads, ready, none_stale⟩ fun session held _ => ?_
      have shows := shown session held
      rwa [lastStatus, if_pos none_stale] at shows
    · refine .badly ?_ fun session held _ ends => ?_
      · rintro ⟨other, replay', loads', ready', none_stale'⟩
        obtain rfl := loads.unique loads'
        obtain rfl := Except.ok.inj (ready.symm.trans ready')
        exact none_stale none_stale'
      · have status := (shown session held).eq_of_ok ends
        rw [lastStatus, if_neg none_stale] at status
        cases status
  · refine .badly ?_ fun session held _ => (ends session held).1
    rintro ⟨settings, replay, loads, ready, _⟩
    exact not_ready settings replay loads ready

end Info

end Command

end OpcachePreload
