import OpcachePreload.Proofs.Replay.Again
import OpcachePreload.Proofs.Settings.Load

/-!
# Replaying the manifest of a project into a script

What comes of a replay into a script is settled by the files and by what comes of starting the PHP
binary: the class map and the manifest are loaded, the binary is asked, and the classes are looked
up. Only the last of these can tell that a class is unknown.
-/

namespace OpcachePreload

open OpcachePreload.Action

/-- What comes of asking a PHP binary whether it can preload. -/
def Probe.verdict (probe : Probe) (process : ProcessOutcome) : Except Failure Unit := do
  let capabilities ← probe.capabilitiesOf process
  match capabilities.lack? with
  | none => return ()
  | some lack =>
    throw (.environment (.lacking capabilities.cacheName capabilities.compilePrimitive lack))

theorem Script.perform_check_host (probe : Probe) (surroundings : Surroundings) (script : Script)
    (session : Session) :
    (host probe).check.perform surroundings script session =
      ((probe.verdict surroundings.process, script),
        { session with started := session.started ++ [probe.command] }) := by
  have asked : (host probe).capabilities = HostAction.ofAction probe.ask := rfl
  rw [Host.check, HostAction.perform_bind, asked, HostAction.perform_ofAction, Probe.ask,
    Probe.verdict]
  simp only [perform_bind, perform_modify, perform_read, perform_ofExcept]
  cases probe.capabilitiesOf surroundings.process with
  | error failure => rfl
  | ok capabilities =>
      change HostAction.perform (match capabilities.lack? with
        | none => pure ()
        | some lack => throw _) _ _ _ = _
      cases lacking : capabilities.lack? <;> simp [lacking, bind, Except.bind] <;> rfl

namespace Settings

variable (settings : Settings)

theorem observes_replay : Observes (settings.replay none none) :=
  settings.observes_loadClassMap.bind fun _ =>
    (settings.observes_manifestPath none).bind fun path =>
    (Manifest.observes_load path).bind fun _ => observes_pure _

/-- A manifest is about to be replayed once the class map and the manifest are loaded. -/
theorem outcome_replay_eq_ok_iff {surroundings : Surroundings} {files : FileTree}
    {replay : Replay} :
    (settings.replay none none).outcome surroundings files = .ok replay ↔
      settings.loadClassMap.outcome surroundings files = .ok replay.classMap ∧
        replay.path = resolveIn surroundings.environment settings.root
          (toString settings.manifest) ∧
        (Manifest.load replay.path).outcome surroundings files = .ok replay.manifest := by
  have located : (settings.manifestPath none).outcome surroundings files =
      .ok (resolveIn surroundings.environment settings.root (toString settings.manifest)) :=
    rfl
  have read (classMap : ClassMap) (path : Path) : Observes (Replay.ofFile classMap path) :=
    (Manifest.observes_load path).bind fun _ => observes_pure _
  have outcome_ofFile (classMap : ClassMap) (path : Path) :
      (Replay.ofFile classMap path).outcome surroundings files = .ok replay ↔
        ∃ manifest, (Manifest.load path).outcome surroundings files = .ok manifest ∧
          ⟨classMap, path, manifest⟩ = replay := by
    rw [Replay.ofFile, (Manifest.observes_load path).outcome_bind fun _ => observes_pure _,
      bind_eq_ok_iff]
    simp [outcome]
  rw [Settings.replay, classMapOr, settings.observes_loadClassMap.outcome_bind fun classMap =>
    (settings.observes_manifestPath none).bind fun path => read classMap path, bind_eq_ok_iff]
  simp only [(settings.observes_manifestPath none).outcome_bind fun path => read _ path,
    bind_eq_ok_iff, located, Except.ok.injEq, exists_eq_left', outcome_ofFile]
  constructor
  · rintro ⟨classMap, loaded, manifest, held, rfl⟩
    exact ⟨loaded, rfl, held⟩
  · rintro ⟨loaded, same, held⟩
    exact ⟨replay.classMap, loaded, replay.manifest, same ▸ held, by rw [← same]⟩

/-- What comes of replaying the manifest into a script after a check of the environment: what is
counted, and the script after it. -/
def replayed (surroundings : Surroundings) (files : FileTree) (includeOnly : Bool)
    (script : Script) : Except Failure (Replay.Summary × Script) := do
  let replay ← (settings.replay none none).outcome surroundings files
  settings.loader.probe.verdict surroundings.process
  let classFiles ← (Replay.filesOf replay.classMap replay.manifest.classes).mapError .unknownClass
  return (Replay.summaryOf replay.manifest classFiles includeOnly,
    script.taking replay.manifest classFiles includeOnly)

theorem perform_runReplay (checked : settings.loader.checkEnvironment = true)
    (includeOnly : Option Bool) (surroundings : Surroundings) (script : Script)
    (session : Session) :
    let result := settings.replayed surroundings session.files
      (includeOnly.getD settings.loader.includeOnly) script
    let outcome := (settings.runReplay (Script.host settings.loader.probe) none includeOnly
      none).perform surroundings script session
    outcome.1.1 = result.map Prod.fst ∧
      ∀ summary made, result = .ok (summary, made) → outcome.1.2 = made := by
  intro result outcome
  obtain ⟨records, ready⟩ := settings.observes_replay.perform_eq surroundings session
  simp only [result, outcome, runReplay, replayed, HostAction.perform_bind,
    HostAction.perform_ofAction, ready]
  cases (settings.replay none none).outcome surroundings session.files with
  | error failure => exact ⟨rfl, nofun⟩
  | ok replay =>
      simp only [Option.getD_none, checked, if_true, HostAction.perform_bind,
        Script.perform_check_host]
      cases settings.loader.probe.verdict surroundings.process with
      | error failure => exact ⟨rfl, nofun⟩
      | ok _ =>
          dsimp only
          cases found : Replay.filesOf replay.classMap replay.manifest.classes with
          | error name =>
              obtain ⟨_, ends⟩ := Replay.perform_run_of_error found
                (includeOnly.getD settings.loader.includeOnly) surroundings script _
              rw [ends]
              simp [found, bind, Except.bind, mapError_error, Except.map]
          | ok classFiles =>
              obtain ⟨_, ends⟩ := Script.perform_run_host found
                (includeOnly.getD settings.loader.includeOnly) settings.loader.probe surroundings
                script _
              rw [ends]
              simp [found, bind, Except.bind, mapError_ok, pure, Except.pure, Except.map]

end Settings

/-! ## Failures that are no unknown classes -/

/-- Whether a failure is that of a class that the class map does not know. -/
def Failure.IsUnknownClass (failure : Failure) : Prop := ∃ name, failure = .unknownClass name

namespace Action

variable {α β : Type} {action : Action α} {next : α → Action β}

/-- An action that never fails for an unknown class. -/
def KnowsClasses (action : Action α) : Prop :=
  ∀ surroundings session failure, (action.perform surroundings session).1 = .error failure →
    ¬failure.IsUnknownClass

theorem knowsClasses_pure (a : α) : KnowsClasses (pure a : Action α) := by
  rintro _ _ _ ⟨⟩

theorem knowsClasses_fail {failure : Failure} (other : ¬failure.IsUnknownClass) :
    KnowsClasses (fail failure : Action α) := by
  rintro _ _ _ ⟨⟩
  exact other

theorem knowsClasses_read : KnowsClasses read := by
  rintro _ _ _ ⟨⟩

theorem knowsClasses_note (record : Record) : KnowsClasses (note record) := by
  rintro _ _ _ ⟨⟩

theorem knowsClasses_ofExcept {ε : Type} {failure : ε → Failure} {result : Except ε α}
    (other : ∀ e, result = .error e → ¬(failure e).IsUnknownClass) :
    KnowsClasses (ofExcept failure result) := by
  cases result with
  | error e => exact knowsClasses_fail (other e rfl)
  | ok a => exact knowsClasses_pure a

theorem KnowsClasses.bind (knows : KnowsClasses action)
    (then_knows : ∀ a, KnowsClasses (next a)) : KnowsClasses (action >>= next) := by
  intro surroundings session failure fails
  have first := knows surroundings session
  rw [perform_bind] at fails
  rcases outcome : action.perform surroundings session with ⟨problem | a, after⟩ <;>
    rw [outcome] at first fails
  · cases fails
    exact first _ rfl
  · exact then_knows a surroundings after failure fails

theorem KnowsClasses.map (knows : KnowsClasses action) (f : α → β) :
    KnowsClasses (f <$> action) := by
  rw [← bind_pure_comp]
  exact knows.bind fun _ => knowsClasses_pure _

theorem KnowsClasses.tryCatch {handler : Failure → Action α} (knows : KnowsClasses action)
    (handler_knows : ∀ failure, ¬failure.IsUnknownClass → KnowsClasses (handler failure)) :
    KnowsClasses (tryCatch action handler) := by
  intro surroundings session failure fails
  have first := knows surroundings session
  rw [perform_tryCatch] at fails
  rcases outcome : action.perform surroundings session with ⟨problem | a, after⟩ <;>
    rw [outcome] at first fails
  · exact handler_knows problem (first problem rfl) surroundings after failure fails
  · contradiction

theorem knowsClasses_ask (text : String) (question : FileTree → Location → Except PathFault α) :
    KnowsClasses (ask text question) := by
  intro surroundings session failure fails
  rw [perform_ask] at fails
  rintro ⟨name, rfl⟩
  cases found : question session.files surroundings.directory <;>
    simp [found, mapError_ok, mapError_error] at fails

theorem knowsClasses_absolute (path : Path) : KnowsClasses (absolute path) := by
  rintro _ _ _ ⟨⟩

theorem knowsClasses_isFile (path : Path) : KnowsClasses (isFile path) := by
  refine KnowsClasses.bind (knowsClasses_ask _ _) fun found => ?_
  rcases found with _ | _ | _ <;> exact knowsClasses_pure _

theorem knowsClasses_readText (path : Path) : KnowsClasses (readText path) :=
  KnowsClasses.bind (knowsClasses_ask _ _) fun _ => knowsClasses_ofExcept (by rintro e - ⟨_, ⟨⟩⟩)

end Action

theorem DataFile.knowsClasses_load (path : Path) : KnowsClasses (load path) := by
  refine KnowsClasses.bind (knowsClasses_ask _ _) fun found => ?_
  rcases found with _ | _ | _
  · exact (knowsClasses_absolute path).bind fun _ => knowsClasses_fail (by rintro ⟨_, ⟨⟩⟩)
  · exact (knowsClasses_absolute path).bind fun _ => knowsClasses_fail (by rintro ⟨_, ⟨⟩⟩)
  · dsimp only
    split
    · exact knowsClasses_fail (by rintro ⟨_, ⟨⟩⟩)
    · exact (knowsClasses_readText path).bind fun _ =>
        knowsClasses_ofExcept (by rintro e - ⟨_, ⟨⟩⟩)

theorem Manifest.knowsClasses_load (path : Path) : KnowsClasses (load path) := by
  refine KnowsClasses.bind (knowsClasses_ask _ _) fun bytes => knowsClasses_ofExcept ?_
  rintro failure fails ⟨name, rfl⟩
  unfold ofBytes parse at fails
  split at fails
  · cases fails
  · rename_i text _
    cases read : ofText text with
    | ok manifest => simp [read, mapError_ok] at fails
    | error problem => cases problem <;> simp [read, mapError_error, Problem.failure] at fails

namespace ClassMap

theorem knowsClasses_firstFile (paths : List Path) : KnowsClasses (firstFile paths) := by
  induction paths with
  | nil => exact knowsClasses_pure none
  | cons path rest ih =>
      refine (knowsClasses_isFile path).bind fun found => ?_
      cases found with
      | true => exact knowsClasses_pure _
      | false => exact ih

theorem knowsClasses_locate (path : Path) : KnowsClasses (locate path) := by
  refine KnowsClasses.bind (KnowsClasses.bind (knowsClasses_ask _ _) fun _ =>
    knowsClasses_pure _) fun directory => ?_
  cases directory with
  | true =>
      refine (knowsClasses_firstFile _).bind fun found => ?_
      cases found with
      | none => exact knowsClasses_fail (by rintro ⟨_, ⟨⟩⟩)
      | some file => exact knowsClasses_pure file
  | false => exact knowsClasses_pure path

theorem not_isUnknownClass_problemOf (path : Path) {failure : Failure}
    (other : ¬failure.IsUnknownClass) : ¬(problemOf path failure).IsUnknownClass := by
  unfold problemOf
  split
  · split <;> rintro ⟨_, ⟨⟩⟩
  · exact other

theorem not_isUnknownClass_rejection (path : Path) (problem : Problem) :
    ¬(rejection path problem).IsUnknownClass := by
  unfold rejection
  split <;> rintro ⟨_, ⟨⟩⟩

theorem knowsClasses_loadFile (path : Path) : KnowsClasses (loadFile path) := by
  unfold loadFile
  split
  · exact ((DataFile.knowsClasses_load path).tryCatch fun failure other =>
      knowsClasses_fail (not_isUnknownClass_problemOf path other)).bind fun _ =>
        knowsClasses_ofExcept fun problem _ => not_isUnknownClass_rejection path problem
  split
  · refine (knowsClasses_readText path).bind fun _ => (knowsClasses_absolute path).bind fun _ => ?_
    exact (knowsClasses_ofExcept (by rintro e - ⟨_, ⟨⟩⟩)).map coded
  · exact knowsClasses_fail (by rintro ⟨_, ⟨⟩⟩)

theorem knowsClasses_load (path : Path) : KnowsClasses (load path) := by
  refine (knowsClasses_locate path).bind fun file =>
    (knowsClasses_isFile file).bind fun found => ?_
  have rest : KnowsClasses (do
      let map ← loadFile file
      Action.info ("Loaded " ++ toString map.size ++ " class(es) from " ++ toString file)
      return map) :=
    (knowsClasses_loadFile file).bind fun _ => (knowsClasses_note _).bind fun _ =>
      knowsClasses_pure _
  cases found with
  | true => exact rest
  | false => exact (knowsClasses_fail (by rintro ⟨_, ⟨⟩⟩)).bind fun _ => rest

end ClassMap

theorem Probe.not_isUnknownClass_verdict {probe : Probe} {process : ProcessOutcome}
    {failure : Failure} (fails : probe.verdict process = .error failure) :
    ¬failure.IsUnknownClass := by
  rintro ⟨name, rfl⟩
  unfold verdict capabilitiesOf at fails
  cases printed : probe.output process with
  | error failure =>
      rw [printed] at fails
      cases fails
      unfold output at printed
      split at printed
      · split at printed <;> cases printed
      all_goals cases printed
  | ok output =>
      rw [printed] at fails
      cases held : probe.settings output with
      | error failure =>
          simp only [bind, Except.bind, held] at fails
          cases fails
          unfold settings at held
          split at held <;> cases held
      | ok entries =>
          simp only [bind, Except.bind, held, pure, Except.pure] at fails
          split at fails <;> cases fails

namespace Settings

variable (settings : Settings)

theorem knowsClasses_make (given : List (Value × Value)) : KnowsClasses (make given) := by
  have file : KnowsClasses fileVariables := by
    refine (knowsClasses_isFile variableFile).bind fun found => ?_
    cases found with
    | true =>
        exact (knowsClasses_readText variableFile).bind fun _ => knowsClasses_read.bind fun _ =>
          knowsClasses_pure _
    | false => exact knowsClasses_pure _
  have rest : KnowsClasses (do
      let file ← fileVariables
      Action.ofExcept id (ofSources (← read).environment file given)) := by
    refine file.bind fun file => knowsClasses_read.bind fun surroundings =>
      knowsClasses_ofExcept ?_
    rintro failure fails ⟨name, rfl⟩
    unfold ofSources mergedEntries at fails
    cases fromEnvironment : (Variables.ofEnvironment surroundings.environment).entries with
    | error _ => simp [fromEnvironment, bind, Except.bind, mapError_error] at fails
    | ok entries =>
        cases fromFile : file.entries with
        | error _ =>
            simp [fromEnvironment, fromFile, bind, Except.bind, mapError_ok,
              mapError_error] at fails
        | ok more =>
            simp only [fromEnvironment, fromFile, bind, Except.bind, mapError_ok, pure,
              Except.pure, Checked.result] at fails
            split at fails <;> cases fails
  have library : KnowsClasses (makeByLibrary given) := by
    refine knowsClasses_read.bind fun surroundings => KnowsClasses.bind (by rintro _ _ _ ⟨⟩)
      fun session => knowsClasses_ofExcept ?_
    rintro fault _ ⟨_, ⟨⟩⟩
  have either : KnowsClasses (do
      if hasArgument (← read).system.library given then makeByLibrary given
      else
        let file ← fileVariables
        Action.ofExcept id (ofSources (← read).environment file given)) := by
    refine knowsClasses_read.bind fun surroundings => ?_
    split
    · exact library
    · exact rest
  unfold make
  split
  · exact (knowsClasses_fail (by rintro ⟨_, ⟨⟩⟩)).bind fun _ => either
  · exact either

theorem knowsClasses_load (path : Option String) : KnowsClasses (load path) := by
  refine KnowsClasses.bind (by rintro _ _ _ ⟨⟩) fun path =>
    (DataFile.knowsClasses_load path).bind fun value =>
      (knowsClasses_ofExcept ?_).bind fun entries =>
        (knowsClasses_ofExcept ?_).bind fun root =>
          KnowsClasses.bind (by rintro _ _ _ ⟨⟩) fun _ =>
            (knowsClasses_absolute _).bind fun _ => knowsClasses_make _
  · rintro failure fails ⟨name, rfl⟩
    unfold entriesOf at fails
    split at fails
    · cases fails
    · split at fails <;> cases fails
  · rintro failure fails ⟨name, rfl⟩
    unfold writtenRoot at fails
    dsimp only at fails
    split at fails <;> cases fails

theorem knowsClasses_replay : KnowsClasses (settings.replay none none) :=
  KnowsClasses.bind (KnowsClasses.bind (by rintro _ _ _ ⟨⟩) fun path =>
    (ClassMap.knowsClasses_load path).map ClassMap.ofCoded) fun _ =>
      KnowsClasses.bind (by rintro _ _ _ ⟨⟩) fun path =>
      (Manifest.knowsClasses_load path).bind fun _ => knowsClasses_pure _

variable {settings : Settings} {surroundings : Surroundings} {files : FileTree}
  {includeOnly : Bool} {script : Script}

/-- A replay succeeds if everything is loaded, the binary can preload and every class has a file. -/
theorem replayed_succeeds_iff :
    (∃ made, settings.replayed surroundings files includeOnly script = .ok made) ↔
      ∃ replay classFiles, (settings.replay none none).outcome surroundings files = .ok replay ∧
        settings.loader.probe.verdict surroundings.process = .ok () ∧
        Replay.filesOf replay.classMap replay.manifest.classes = .ok classFiles := by
  unfold replayed
  cases (settings.replay none none).outcome surroundings files with
  | error failure => simp [bind, Except.bind]
  | ok replay =>
      cases settings.loader.probe.verdict surroundings.process with
      | error failure => simp [bind, Except.bind]
      | ok _ =>
          cases found : Replay.filesOf replay.classMap replay.manifest.classes <;>
            simp [found, bind, Except.bind, mapError_ok, mapError_error, pure, Except.pure]

/-- A replay tells that a class is unknown if everything is loaded, the binary can preload, and that
class is the one that looking up the classes stops at. -/
theorem replayed_eq_unknownClass_iff {name : String} :
    settings.replayed surroundings files includeOnly script = .error (.unknownClass name) ↔
      ∃ replay, (settings.replay none none).outcome surroundings files = .ok replay ∧
        settings.loader.probe.verdict surroundings.process = .ok () ∧
        Replay.filesOf replay.classMap replay.manifest.classes = .error name := by
  unfold replayed
  cases ready : (settings.replay none none).outcome surroundings files with
  | error failure =>
      have other := settings.knowsClasses_replay surroundings { files } failure ready
      have differs : failure ≠ .unknownClass name := fun same => other ⟨name, same⟩
      simp [bind, Except.bind, differs]
  | ok replay =>
      cases judged : settings.loader.probe.verdict surroundings.process with
      | error failure =>
          have other := Probe.not_isUnknownClass_verdict judged
          have differs : failure ≠ .unknownClass name := fun same => other ⟨name, same⟩
          simp [bind, Except.bind, differs]
      | ok _ =>
          cases found : Replay.filesOf replay.classMap replay.manifest.classes <;>
            simp [found, bind, Except.bind, mapError_ok, mapError_error, pure, Except.pure]

end Settings

theorem Command.knowsClasses_loadSettings (context : Context) :
    KnowsClasses (loadSettings context) := by
  have located : KnowsClasses (configPath context) := by
    unfold configPath
    split
    · exact knowsClasses_pure _
    · exact KnowsClasses.bind (by rintro _ _ _ ⟨⟩) fun _ => knowsClasses_pure _
  refine located.bind fun path =>
    KnowsClasses.bind (KnowsClasses.bind (knowsClasses_ask _ _) fun _ => knowsClasses_pure _)
      fun found => ?_
  cases found with
  | true =>
      refine KnowsClasses.tryCatch ?_ fun failure other => ?_
      · rw [← bind_pure_comp]
        exact (Settings.knowsClasses_load _).bind fun _ => knowsClasses_pure _
      · split
        · exact (knowsClasses_note _).bind fun _ => knowsClasses_pure none
        · exact knowsClasses_fail other
  | false => exact (knowsClasses_note _).bind fun _ => knowsClasses_pure none

end OpcachePreload
