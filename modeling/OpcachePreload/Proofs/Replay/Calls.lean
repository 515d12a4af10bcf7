import OpcachePreload.Proofs.Replay.Steps
import OpcachePreload.Project

/-!
# The calls that a replay makes

Every host can be watched: a watched host notes each call and then does what the host does. What a
replay asks of a host that neither fails to load nor to compile is all that the manifest lists, or
nothing but its capabilities.
-/

namespace OpcachePreload

/-! ## Watched hosts -/

namespace Host

/-- What a host can be asked. -/
inductive Call where
  | take (step : Step)
  | capabilities
  deriving DecidableEq, Repr

/-- Note a call, then do an action on the host that was watched. -/
def noting {σ α : Type} (call : Call) (action : HostAction σ α) : HostAction (List Call × σ) α :=
  fun surroundings => ExceptT.mk fun state session =>
    let ((result, inner), session) := action.perform surroundings state.2 session
    ((result, (state.1 ++ [call], inner)), session)

/-- A host whose calls are noted, in order, before what they do to its own state. -/
def watched {σ : Type} (host : Host σ) : Host (List Call × σ) where
  load file required := noting (.take (.load file required)) (host.load file required)
  compile file := noting (.take (.compile file)) (host.compile file)
  capabilities := noting .capabilities host.capabilities

/-- A host that, in its surroundings, does not fail to load or to compile, and whose capabilities
are only missing because the environment is at fault. -/
structure Steady {σ : Type} (host : Host σ) (surroundings : Surroundings) : Prop where
  load_ok : ∀ file required state session,
    ((host.load file required).perform surroundings state session).1.1 = .ok ()
  compile_ok : ∀ file state session,
    ((host.compile file).perform surroundings state session).1.1 = .ok ()
  capabilities_fault : ∀ state session failure,
    (host.capabilities.perform surroundings state session).1.1 = .error failure →
      ∃ fault, failure = .environment fault

variable {σ α β : Type} {host : Host σ} {surroundings : Surroundings}

@[simp]
theorem perform_noting (call : Call) (action : HostAction σ α) (surroundings : Surroundings)
    (calls : List Call) (state : σ) (session : Session) :
    (noting call action).perform surroundings (calls, state) session =
      (((action.perform surroundings state session).1.1,
        (calls ++ [call], (action.perform surroundings state session).1.2)),
        (action.perform surroundings state session).2) :=
  rfl

theorem take_watched (step : Step) :
    host.watched.take step = noting (.take step) (host.take step) := by
  cases step <;> rfl

theorem Steady.take_ok (steady : host.Steady surroundings) (step : Step) (state : σ)
    (session : Session) : ((host.take step).perform surroundings state session).1.1 = .ok () := by
  cases step with
  | load file required => exact steady.load_ok file required state session
  | compile file => exact steady.compile_ok file state session

/-- A script neither fails to load nor to compile; it is steady if the PHP binary can be asked, or
cannot be asked because the environment is at fault. -/
theorem steady_script {probe : Probe}
    (answers : ∀ failure, probe.capabilitiesOf surroundings.process = .error failure →
      ∃ fault, failure = .environment fault) : (Script.host probe).Steady surroundings where
  load_ok _ _ _ _ := rfl
  compile_ok _ _ _ := rfl
  capabilities_fault state session failure fails := by
    apply answers
    simp only [Script.host, Probe.ask, HostAction.perform_ofAction, Action.perform_bind,
      Action.perform_modify, Action.perform_read, Action.perform_ofExcept] at fails
    cases found : probe.capabilitiesOf surroundings.process with
    | ok capabilities =>
        rw [found] at fails
        contradiction
    | error problem =>
        rw [found] at fails
        exact fails

/-! ## Watching changes nothing -/

/-- Whether an action on a watched host does what another one does on the host itself. -/
def Mirrors (watching : HostAction (List Call × σ) α) (action : HostAction σ α) : Prop :=
  ∀ surroundings calls state session,
    let outcome := watching.perform surroundings (calls, state) session
    action.perform surroundings state session = ((outcome.1.1, outcome.1.2.2), outcome.2)

namespace Mirrors

theorem pure (a : α) : Mirrors (Pure.pure a : HostAction (List Call × σ) α) (Pure.pure a) :=
  fun _ _ _ _ => rfl

theorem throw (failure : Failure) :
    Mirrors (throw failure : HostAction (List Call × σ) α) (MonadExcept.throw failure) :=
  fun _ _ _ _ => rfl

theorem ofAction (action : Action α) :
    Mirrors (σ := σ) (HostAction.ofAction action) (HostAction.ofAction action) :=
  fun _ _ _ _ => rfl

theorem noting (call : Call) (action : HostAction σ α) : Mirrors (noting call action) action :=
  fun _ _ _ _ => rfl

theorem bind {watching : HostAction (List Call × σ) α} {action : HostAction σ α}
    {watching_next : α → HostAction (List Call × σ) β} {next : α → HostAction σ β}
    (first : Mirrors watching action) (rest : ∀ a, Mirrors (watching_next a) (next a)) :
    Mirrors (watching >>= watching_next) (action >>= next) := by
  intro surroundings calls state session
  have here := first surroundings calls state session
  simp only [HostAction.perform_bind]
  rcases outcome : watching.perform surroundings (calls, state) session with
    ⟨⟨_ | a, calls', state'⟩, session'⟩
  · simp only [outcome] at here
    simp only [here]
  · simp only [outcome] at here
    simp only [here]
    exact rest a surroundings calls' state' session'

theorem takeAll (host : Host σ) (steps : List Step) :
    Mirrors (Replay.takeAll host.watched steps) (Replay.takeAll host steps) := by
  induction steps with
  | nil => exact pure ()
  | cons step rest ih =>
      have first : Mirrors (host.watched.take step) (host.take step) := by
        rw [take_watched]
        exact noting _ _
      exact first.bind fun _ => ih

theorem check (host : Host σ) : Mirrors host.watched.check host.check := by
  apply (noting _ host.capabilities).bind
  intro capabilities
  cases capabilities.lack? with
  | none => exact pure ()
  | some lack => exact throw _

theorem run (replay : Replay) (host : Host σ) (includeOnly : Bool) :
    Mirrors (replay.run host.watched includeOnly) (replay.run host includeOnly) :=
  (ofAction _).bind fun _ => (takeAll host _).bind fun _ => (ofAction _).bind fun _ => pure _

theorem runReplay (settings : Settings) (host : Host σ) (classMap : Option ClassMap)
    (includeOnly checkEnvironment : Option Bool) :
    Mirrors (settings.runReplay host.watched classMap includeOnly checkEnvironment)
      (settings.runReplay host classMap includeOnly checkEnvironment) := by
  apply (ofAction _).bind
  intro replay
  cases checkEnvironment.getD settings.loader.checkEnvironment with
  | true => exact (check host).bind fun _ => run replay host _
  | false => exact run replay host _

end Mirrors

/-! ## Calls -/

/-- Steps on a steady host are done to the end. -/
theorem Steady.perform_takeAll_watched (steady : host.Steady surroundings) (steps : List Step)
    (calls : List Call) (state : σ) (session : Session) :
    ∃ state' session', (Replay.takeAll host.watched steps).perform surroundings (calls, state)
      session = ((.ok (), calls ++ steps.map .take, state'), session') := by
  induction steps generalizing calls state session with
  | nil => exact ⟨state, session, by simp [Replay.takeAll]⟩
  | cons step rest ih =>
      obtain ⟨state', session', taken⟩ := ih (calls ++ [.take step])
        ((host.take step).perform surroundings state session).1.2
        ((host.take step).perform surroundings state session).2
      refine ⟨state', session', ?_⟩
      simp only [Replay.takeAll, HostAction.perform_bind, take_watched, perform_noting,
        steady.take_ok, taken, List.append_assoc, List.map_cons, List.singleton_append]

/-- A check asks a steady host for its capabilities and nothing else. It ends well, or with a fault
of the environment. -/
theorem Steady.perform_check_watched (steady : host.Steady surroundings) (calls : List Call)
    (state : σ) (session : Session) :
    ∃ result state' session', host.watched.check.perform surroundings (calls, state) session =
        ((result, calls ++ [.capabilities], state'), session') ∧
      (result = .ok () ∨ ∃ fault, result = .error (.environment fault)) := by
  have asked : host.watched.capabilities = noting .capabilities host.capabilities := rfl
  simp only [check, asked, HostAction.perform_bind, perform_noting]
  rcases outcome : host.capabilities.perform surroundings state session with
    ⟨⟨failure | capabilities, state'⟩, session'⟩
  · obtain ⟨fault, rfl⟩ :=
      steady.capabilities_fault state session failure (by rw [outcome])
    exact ⟨_, state', session', rfl, .inr ⟨fault, rfl⟩⟩
  · cases lacking : capabilities.lack? with
    | none => exact ⟨_, state', session', by simp [lacking], .inl rfl⟩
    | some lack =>
        exact ⟨.error (.environment (.lacking capabilities.cacheName
          capabilities.compilePrimitive lack)), state', session', by simp [lacking], .inr ⟨_, rfl⟩⟩

end Host

/-! ## Courses -/

namespace Settings

open Host

/-- How a replay can go: the calls that it makes of its host, in order, and how it ends. -/
inductive Course (settings : Settings) (classMap : Option ClassMap) (checked includeOnly : Bool)
    (surroundings : Surroundings) (session : Session) :
    List Call → Except Failure Replay.Summary → Prop where
  /-- There is no class map. -/
  | noClassMap {failure : Failure} {after : Session}
      (fails : (settings.classMapOr classMap).perform surroundings session =
        (.error failure, after)) :
      Course settings classMap checked includeOnly surroundings session [] (.error failure)
  /-- There is a class map but no manifest. -/
  | noManifest {map : ClassMap} {failure : Failure} {between after : Session}
      (loaded : (settings.classMapOr classMap).perform surroundings session = (.ok map, between))
      (fails : (settings.manifestPath none >>= Manifest.load).perform surroundings between =
        (.error failure, after)) :
      Course settings classMap checked includeOnly surroundings session [] (.error failure)
  /-- The host is checked, and the environment is at fault. -/
  | unfit {replay : Replay} {after : Session} {fault : EnvironmentFault}
      (ready : (settings.replay classMap none).perform surroundings session = (.ok replay, after))
      (wanted : checked = true) :
      Course settings classMap checked includeOnly surroundings session [.capabilities]
        (.error (.environment fault))
  /-- A class of the manifest is the first one that the class map does not know. -/
  | unknownClass {replay : Replay} {after : Session} {before behind : List String} {name : String}
      (ready : (settings.replay classMap none).perform surroundings session = (.ok replay, after))
      (listed : replay.manifest.classes = before ++ name :: behind)
      (known : ∀ earlier ∈ before, earlier ∈ replay.classMap.keys)
      (absent : name ∉ replay.classMap.keys) :
      Course settings classMap checked includeOnly surroundings session
        (if checked then [.capabilities] else []) (.error (.unknownClass name))
  /-- Everything is handed over, and counted. -/
  | complete {replay : Replay} {after : Session} {files compile : List String}
      {summary : Replay.Summary}
      (ready : (settings.replay classMap none).perform surroundings session = (.ok replay, after))
      (found : files.map some = replay.manifest.classes.map replay.classMap.get?)
      (compiled : compile = if includeOnly then [] else replay.manifest.compile)
      (classes_counted : summary.classes = files.length)
      (files_counted : summary.files = replay.manifest.files.length)
      (compiles_counted : summary.compiles = compile.length) :
      Course settings classMap checked includeOnly surroundings session
        ((if checked then [.capabilities] else []) ++
          files.map (.take <| .load · true) ++ replay.manifest.files.map (.take <| .load · false) ++
          compile.map (.take <| .compile ·))
        (.ok summary)

variable {σ : Type} {settings : Settings} {classMap : Option ClassMap} {host : Host σ}
  {checked includeOnly : Bool} {surroundings : Surroundings} {session : Session}

@[simp]
theorem perform_manifestPath (output : Option Path) (surroundings : Surroundings)
    (session : Session) :
    (settings.manifestPath output).perform surroundings session =
      (.ok (resolveIn surroundings.environment settings.root
        (toString (output.getD settings.manifest))), session) :=
  rfl

/-- Nothing is asked of the host before there are a class map and a manifest. -/
theorem course_of_replay_error {failure : Failure} {after : Session}
    (fails : (settings.replay classMap none).perform surroundings session =
      (.error failure, after)) :
    Course settings classMap checked includeOnly surroundings session [] (.error failure) := by
  rcases loaded : (settings.classMapOr classMap).perform surroundings session with
    ⟨problem | map, between⟩
  · simp only [replay, Action.perform_bind, loaded, Prod.mk.injEq, Except.error.injEq] at fails
    obtain ⟨rfl, rfl⟩ := fails
    exact .noClassMap loaded
  · rcases read : (settings.manifestPath none >>= Manifest.load).perform surroundings between with
      ⟨problem | manifest, last⟩
    all_goals
      have outcome := read
      simp only [Action.perform_bind, perform_manifestPath] at outcome
      simp only [replay, Replay.ofFile, Action.perform_bind, perform_manifestPath, loaded, outcome,
        Action.perform_pure, Prod.mk.injEq, Except.error.injEq, reduceCtorEq, false_and] at fails
    obtain ⟨rfl, rfl⟩ := fails
    exact .noManifest loaded read

/-- Once the manifest is there, and the host checked if that is wanted, a run either finds a class
without a file or hands over everything. -/
theorem course_of_run (steady : host.Steady surroundings) {replay : Replay} {after : Session}
    (ready : (settings.replay classMap none).perform surroundings session = (.ok replay, after))
    (state : σ) (current : Session) :
    let outcome := (replay.run host.watched includeOnly).perform surroundings
      (if checked then [.capabilities] else [], state) current
    Course settings classMap checked includeOnly surroundings session outcome.1.2.1
      outcome.1.1 := by
  cases found : Replay.filesOf replay.classMap replay.manifest.classes with
  | error name =>
      obtain ⟨before, behind, listed, known, absent⟩ := Replay.filesOf_eq_error_iff.mp found
      obtain ⟨session', ends⟩ := Replay.perform_run_of_error found includeOnly surroundings
        (if checked then [Call.capabilities] else [], state) current
      rw [ends]
      exact .unknownClass ready listed known absent
  | ok files =>
      obtain ⟨state', between, taken⟩ := steady.perform_takeAll_watched
        (Replay.steps replay.manifest files includeOnly)
        (if checked then [.capabilities] else []) state current
      obtain ⟨session', ends⟩ := Replay.perform_run_of_ok found taken
      have handed_over : (if checked then [.capabilities] else []) ++
          (Replay.steps replay.manifest files includeOnly).map Call.take =
            (if checked then [.capabilities] else []) ++ files.map (.take <| .load · true) ++
              replay.manifest.files.map (.take <| .load · false) ++
              (if includeOnly then [] else replay.manifest.compile).map (.take <| .compile ·) := by
        cases includeOnly <;> simp [Replay.steps, Function.comp_def]
      rw [ends, handed_over]
      apply Course.complete ready (Replay.filesOf_eq_ok_iff.mp found) rfl rfl rfl
      cases includeOnly <;> rfl

/-- A replay on a host that neither fails to load nor to compile takes one of the courses, and
watching the host does not change what comes of it. -/
theorem course_of_runReplay (steady : host.Steady surroundings)
    (includeOnly checkEnvironment : Option Bool) (state : σ) :
    let outcome := (settings.runReplay host.watched classMap includeOnly
      checkEnvironment).perform surroundings ([], state) session
    Course settings classMap (checkEnvironment.getD settings.loader.checkEnvironment)
        (includeOnly.getD settings.loader.includeOnly) surroundings session
        outcome.1.2.1 outcome.1.1 ∧
      (settings.runReplay host classMap includeOnly checkEnvironment).perform surroundings state
        session = ((outcome.1.1, outcome.1.2.2), outcome.2) := by
  constructor
  · rcases ready : (settings.replay classMap none).perform surroundings session with
      ⟨failure | replay, after⟩
    · simp only [runReplay, HostAction.perform_bind, HostAction.perform_ofAction, ready]
      exact course_of_replay_error ready
    · simp only [runReplay, HostAction.perform_bind, HostAction.perform_ofAction, ready]
      cases checkEnvironment.getD settings.loader.checkEnvironment with
      | false => exact course_of_run steady ready state after
      | true =>
          obtain ⟨result, state', session', checked, ends⟩ :=
            steady.perform_check_watched [] state after
          simp only [if_true, HostAction.perform_bind, checked]
          rcases ends with rfl | ⟨fault, rfl⟩
          · exact course_of_run steady ready state' session'
          · exact .unfit ready rfl
  · exact Mirrors.runReplay settings host classMap includeOnly checkEnvironment
      surroundings [] state
      session

/-! ## Replays into a script -/

/-- Surroundings in which the PHP binary can preload. -/
def sampleSurroundings : Surroundings :=
  ⟨["srv"], .empty, .finished ("\x7b\"enable\": true, \"enable_cli\": true, " ++
    "\"compile_file\": true, \"sapi\": \"cli\"\x7d") 0, false, .ordinary⟩

/-- A project with a class map of two classes, and with a manifest that lists some classes, a file
and a file to compile. -/
def sampleSession (classes : String) : Session where
  files := ⟨[
    (["srv"], .directory),
    (["srv", "cm.json"], .file (Text.Utf8.encode
      "\x7b\"A\": \"/srv/a.php\", \"B\": \"/srv/b.php\"\x7d".toList)),
    (["srv", "var"], .directory),
    (["srv", "var", "preload.json"], .file (Text.Utf8.encode ("\x7b\"classes\": [" ++ classes ++
      "], \"files\": [\"/srv/f.php\"], \"compile\": [\"/srv/c.php\"]\x7d").toList))]⟩

/-- Its settings. -/
def sampleSettings : Settings := { classMap := .ofString "cm.json" }

/-- What comes of replaying it into a watched script, and the calls that were made. -/
def sampleReplay (classes : String) : Except Failure Replay.Summary × List Call :=
  let outcome := (sampleSettings.runReplay (Script.host {}).watched none none none).perform
    sampleSurroundings ([], .empty true) (sampleSession classes)
  (outcome.1.1, outcome.1.2.1)

/-- Where the class map knows both classes of the manifest, the environment is checked and
everything is handed over. Where the second of three classes is unknown, the environment is checked
and nothing else is asked of the script. -/
theorem course_of_runReplay_sample :
    (Script.host {}).Steady sampleSurroundings ∧
      (∃ summary : Replay.Summary,
        (summary.classes = 2 ∧ summary.files = 1 ∧ summary.compiles = 1) ∧
        Course sampleSettings none true false sampleSurroundings (sampleSession "\"B\", \"A\"")
          [.capabilities, .take (.load "/srv/b.php" true), .take (.load "/srv/a.php" true),
            .take (.load "/srv/f.php" false), .take (.compile "/srv/c.php")] (.ok summary)) ∧
      Course sampleSettings none true false sampleSurroundings
        (sampleSession "\"A\", \"C\", \"B\"") [.capabilities] (.error (.unknownClass "C")) := by
  have steady : (Script.host {}).Steady sampleSurroundings := by
    have answered :
      (Probe.capabilitiesOf {} sampleSurroundings.process).toOption.isSome = true := by
      decide +kernel
    apply steady_script
    intro failure fails
    rw [fails] at answered
    cases answered
  have course (classes : String) : Course sampleSettings none true false sampleSurroundings
      (sampleSession classes) (sampleReplay classes).2 (sampleReplay classes).1 := by
    have ran := @course_of_runReplay _ sampleSettings none _ _ (sampleSession classes) steady none
      none (.empty true)
    dsimp only [sampleReplay]
    exact ran.1
  refine ⟨steady, ?_, ?_⟩
  · have counted : (sampleReplay "\"B\", \"A\"").1.toOption.map
        (fun summary => (summary.classes, summary.files, summary.compiles)) = some (2, 1, 1) := by
      decide +kernel
    have calls : (sampleReplay "\"B\", \"A\"").2 =
        [.capabilities, .take (.load "/srv/b.php" true), .take (.load "/srv/a.php" true),
          .take (.load "/srv/f.php" false), .take (.compile "/srv/c.php")] := by
      decide +kernel
    have complete := course "\"B\", \"A\""
    rw [calls] at complete
    cases ends : (sampleReplay "\"B\", \"A\"").1 with
    | error failure =>
        rw [ends] at counted
        cases counted
    | ok summary =>
        rw [ends] at counted complete
        have counts := Option.some.inj counted
        simp only [Prod.mk.injEq] at counts
        exact ⟨summary, counts, complete⟩
  · have unknown : (sampleReplay "\"A\", \"C\", \"B\"").1 = .error (.unknownClass "C") :=
      Replay.eq_error_of_unknown? (by decide +kernel)
    have calls : (sampleReplay "\"A\", \"C\", \"B\"").2 = [.capabilities] := by decide +kernel
    have stops := course "\"A\", \"C\", \"B\""
    rwa [calls, unknown] at stops

end Settings

end OpcachePreload
