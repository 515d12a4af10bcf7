import OpcachePreload.Proofs.Module.Load
import OpcachePreload.Proofs.Module.Sources
import OpcachePreload.Proofs.OrderedMap

/-!
# What a host of modules remembers

A host of modules remembers what was completed and nothing else: a call that fails leaves what was
loaded and compiled as it was, and the modules of the process too. A file is executed to its end
once at most, however its path is spelled, and one that failed is executed again. All this is read
off what a single call does, on the assumption that executing or compiling a file does not itself
meddle with the modules.
-/

namespace OpcachePreload.Module

open OpcachePreload.Action

variable {interpreter : Interpreter} {surroundings : Surroundings} {state state' : State}
  {session after : Session} {file : String} {required : Bool} {path : Path}
  {result : Except Failure Unit}

/-! ## Interpreters -/

/-- The modules of a session, and what was noted of their execution. -/
def modulesOf (session : Session) : OrderedMap String Path × List Execution :=
  (session.modules, session.executions)

/-- An interpreter that does not meddle with the modules of the process. -/
structure Interpreter.Contained (interpreter : Interpreter) : Prop where
  run : ∀ path, Keeps modulesOf (interpreter.run path)
  compile : ∀ file, Keeps modulesOf (interpreter.compile file)

theorem Interpreter.Contained.of_run (contained : interpreter.Contained)
    (runs : (interpreter.run path).perform surroundings (session.entering path) =
      (result, after)) :
    after.modules = session.modules.insert (name path) path ∧
      after.executions = session.executions := by
  have kept := contained.run path surroundings (session.entering path)
  rw [runs] at kept
  exact Prod.mk.inj kept

theorem Interpreter.Contained.of_compile (contained : interpreter.Contained)
    (compiles : (interpreter.compile file).perform surroundings session = (result, after)) :
    after.modules = session.modules ∧ after.executions = session.executions := by
  have kept := contained.compile file surroundings session
  rw [compiles] at kept
  exact Prod.mk.inj kept

/-- Executing or compiling a source does not meddle with the modules. -/
theorem contained_sources : sources.Contained where
  run path := (observes_run path).keeps fun _ _ => rfl
  compile file := (observes_compile file).keeps fun _ _ => rfl

/-! ## One call -/

/-- What comes of a call: what it gives, and the state and the session after it. -/
def Interpreter.taken (interpreter : Interpreter) (surroundings : Surroundings)
    (now : State × Session) (call : Step) : Except Failure Unit × State × Session :=
  let outcome := (interpreter.host.take call).perform surroundings now.1 now.2
  (outcome.1.1, outcome.1.2, outcome.2)

/-- What a call can do to what is remembered. -/
inductive Progress (state : State) (session : Session) :
    Except Failure Unit → State → Session → Prop where
  /-- Nothing. -/
  | nothing {result : Except Failure Unit} {after : Session}
      (modules_eq : after.modules = session.modules)
      (executions_eq : after.executions = session.executions) :
      Progress state session result state after
  /-- A file is compiled. -/
  | compiled {after : Session} (file : String) (modules_eq : after.modules = session.modules)
      (executions_eq : after.executions = session.executions) :
      Progress state session (.ok ()) { state with compiled := state.compiled ++ [file] } after
  /-- A module that is there is taken for that of a file. -/
  | reused {path : Path} (resolved : Resolved path) (named : name path ∈ session.modules.keys) :
      Progress state session (.ok ()) (state.loading path) session
  /-- A file is executed to its end. -/
  | completed {path : Path} {after : Session} (resolved : Resolved path)
      (unnamed : name path ∉ session.modules.keys)
      (modules_eq : after.modules = session.modules.insert (name path) path)
      (executions_eq : after.executions = session.executions ++ [⟨path, true⟩]) :
      Progress state session (.ok ()) (state.loading path) after
  /-- A file fails while it is executed. -/
  | failed {path : Path} {failure : Failure} {after : Session}
      (modules_eq : after.modules = session.modules)
      (executions_eq : after.executions = session.executions ++ [⟨path, false⟩]) :
      Progress state session (.error failure) state after

/-- The modules after a file failed are those before it was executed. -/
theorem modules_abandoning (contained : interpreter.Contained)
    (unnamed : name path ∉ session.modules.keys)
    (runs : (interpreter.run path).perform surroundings (session.entering path) =
      (result, after)) :
    (after.abandoning path).modules = session.modules := by
  change after.modules.erase (name path) = session.modules
  rw [(contained.of_run runs).1]
  exact OrderedMap.erase_insert_of_not_mem path unnamed

theorem Loading.progress (contained : interpreter.Contained)
    (loading : Loading interpreter surroundings state session file required result state' after) :
    Progress state session result state' after := by
  cases loading with
  | unresolved => exact .nothing rfl rfl
  | known => exact .nothing rfl rfl
  | unanswered => exact .nothing rfl rfl
  | missing => exact .nothing (session.modules_noting _) (session.executions_noting _)
  | skipped => exact .nothing (session.modules_noting _) (session.executions_noting _)
  | reused leads _ _ named => exact .reused (resolved_of_resolution leads) named
  | refused => exact .nothing rfl rfl
  | completed leads _ _ unnamed _ runs =>
      obtain ⟨modules_eq, executions_eq⟩ := contained.of_run runs
      exact .completed (resolved_of_resolution leads) unnamed modules_eq
        (congrArg (· ++ [_]) executions_eq)
  | failed _ _ _ unnamed _ runs =>
      exact .failed (modules_abandoning contained unnamed runs)
        (congrArg (· ++ [_]) (contained.of_run runs).2)

/-- Every call does one of these things. -/
theorem progress_taken (contained : interpreter.Contained) (surroundings : Surroundings)
    (now : State × Session) (call : Step) :
    let outcome := interpreter.taken surroundings now call
    Progress now.1 now.2 outcome.1 outcome.2.1 outcome.2.2 := by
  cases call with
  | load file required =>
      exact (loading_load interpreter surroundings now.1 now.2 file required).progress contained
  | compile file =>
      simp only [Interpreter.taken, Host.take, Interpreter.host, HostAction.perform_bind,
        HostAction.perform_ofAction]
      rcases compiles : (interpreter.compile file).perform surroundings now.2 with
        ⟨failure | _, after⟩
      all_goals obtain ⟨modules_eq, executions_eq⟩ := contained.of_compile compiles
      · exact .nothing modules_eq executions_eq
      · exact .compiled file modules_eq executions_eq

/-- A call that fails leaves what is remembered as it was. -/
theorem Progress.eq_of_error {failure : Failure}
    (progress : Progress state session (.error failure) state' after) :
    state' = state ∧ after.modules = session.modules := by
  cases progress with
  | nothing modules_eq => exact ⟨rfl, modules_eq⟩
  | failed modules_eq => exact ⟨rfl, modules_eq⟩

/-! ## What calls preserve -/

theorem get?_loading (state : State) (path : Path) (key : String) :
    (state.loading path).loaded.get? key =
      if toString path = key then some (name path) else state.loaded.get? key :=
  OrderedMap.get?_insert _ _ _ _

theorem mem_keys_loading {key : String} :
    key ∈ (state.loading path).loaded.keys ↔ key ∈ state.loaded.keys ∨ key = toString path := by
  change key ∈ (state.loaded.insert (toString path) (name path)).keys ↔ _
  rw [OrderedMap.mem_keys_insert]

/-- What was loaded is known by resolved paths, each with the name of a module that is there. -/
structure State.Remembers (state : State) (session : Session) : Prop where
  loaded : ∀ key ∈ state.loaded.keys, ∃ path, Resolved path ∧ toString path = key ∧
    state.loaded.get? key = some (name path) ∧ name path ∈ session.modules.keys

theorem remembers_nothing (session : Session) : State.Remembers {} session :=
  ⟨fun _ present => absurd present List.not_mem_nil⟩

/-- Modules may be added. -/
theorem State.Remembers.mono (remembers : state.Remembers session)
    (grows : ∀ known ∈ session.modules.keys, known ∈ after.modules.keys) :
    state.Remembers after := by
  constructor
  intro key present
  obtain ⟨path, resolved, same, found, named⟩ := remembers.loaded key present
  exact ⟨path, resolved, same, found, grows _ named⟩

/-- A file may be loaded whose module is there. -/
theorem State.Remembers.loading (remembers : state.Remembers session) (resolved : Resolved path)
    (named : name path ∈ session.modules.keys) : (state.loading path).Remembers session := by
  constructor
  intro key present
  rw [get?_loading]
  by_cases here : toString path = key
  · exact ⟨path, resolved, here, if_pos here, named⟩
  · rw [if_neg here]
    exact remembers.loaded key ((mem_keys_loading.mp present).resolve_right (Ne.symm here))

theorem Progress.names_grow (progress : Progress state session result state' after) :
    ∀ known ∈ session.modules.keys, known ∈ after.modules.keys := by
  intro known present
  cases progress with
  | nothing modules_eq => rwa [modules_eq]
  | compiled _ modules_eq => rwa [modules_eq]
  | reused => exact present
  | completed _ _ modules_eq =>
      rw [modules_eq, OrderedMap.mem_keys_insert]
      exact .inl present
  | failed modules_eq => rwa [modules_eq]

theorem Progress.remembers (progress : Progress state session result state' after)
    (remembers : state.Remembers session) : state'.Remembers after := by
  have grown := remembers.mono progress.names_grow
  cases progress with
  | nothing => exact grown
  | compiled => exact ⟨grown.loaded⟩
  | reused resolved named => exact remembers.loading resolved named
  | completed resolved _ modules_eq =>
      apply grown.loading resolved
      rw [modules_eq, OrderedMap.mem_keys_insert]
      exact .inr rfl
  | failed => exact grown

/-- How often a file was executed to its end, or can be at most: not again once a module of its name
is there. -/
def completionLimit (session : Session) (path : Path) : Nat :=
  session.executions.count ⟨path, true⟩ + if name path ∈ session.modules.keys then 0 else 1

/-- No call lifts the limit. -/
theorem Progress.completionLimit_le (progress : Progress state session result state' after)
    (path : Path) : completionLimit after path ≤ completionLimit session path := by
  unfold completionLimit
  cases progress with
  | nothing modules_eq executions_eq => simp only [modules_eq, executions_eq, Nat.le_refl]
  | compiled _ modules_eq executions_eq => simp only [modules_eq, executions_eq, Nat.le_refl]
  | reused => exact Nat.le_refl _
  | @completed executed _ _ unnamed modules_eq executions_eq =>
      rw [modules_eq, executions_eq, List.count_append]
      by_cases same : executed = path
      · subst same
        simp [OrderedMap.mem_keys_insert, unnamed]
      · have fewer : List.count (⟨path, true⟩ : Execution) [⟨executed, true⟩] = 0 := by
          simp [same]
        simp only [fewer, OrderedMap.mem_keys_insert]
        split <;> split <;> simp_all
  | failed modules_eq executions_eq =>
      rw [modules_eq, executions_eq, List.count_append]
      simp

/-- What is loaded by a call has a module that was there, or was executed to its end. -/
theorem Progress.completed_of_loaded {key : String}
    (progress : Progress state session result state' after) (present : key ∈ state'.loaded.keys)
    (new : key ∉ state.loaded.keys) :
    ∃ path, Resolved path ∧ toString path = key ∧ (name path ∈ session.modules.keys ∨
      after.executions = session.executions ++ [⟨path, true⟩]) := by
  cases progress with
  | nothing => exact absurd present new
  | compiled => exact absurd present new
  | reused resolved named =>
      have same := (mem_keys_loading.mp present).resolve_left new
      exact ⟨_, resolved, same.symm, .inl named⟩
  | completed resolved _ _ executions_eq =>
      have same := (mem_keys_loading.mp present).resolve_left new
      exact ⟨_, resolved, same.symm, .inr executions_eq⟩
  | failed => exact absurd present new

/-! ## Files that are missing, and files that fail -/

/-- A file that is not required and not there changes nothing. -/
theorem perform_load_of_absent (interpreter : Interpreter) (state : State)
    (leads : resolution surroundings (.ofString file) = .ok path)
    (answers : session.files.Answers surroundings.directory path)
    (absent : session.files.leadsToFile surroundings.directory path = false) :
    ∃ records, (interpreter.host.load file false).perform surroundings state session =
      ((.ok (), state), { session with records }) := by
  by_cases loaded : toString path ∈ state.loaded.keys
  · exact ⟨session.records, perform_load_of_mem leads loaded⟩
  obtain ⟨records, noted⟩ :=
    session.exists_noting_eq ⟨.warning, "Skipping missing file: " ++ toString path, none⟩
  refine ⟨records, ?_⟩
  rw [perform_load_of_new leads loaded]
  simp only [Interpreter.loadResolved, perform_bind, perform_isFile answers, absent,
    Bool.false_eq_true, if_false, warn, perform_note, perform_pure, noted]

/-- A file that failed was not loaded, has no module and can be executed, and the call changed
nothing of that. -/
theorem Loading.unremembered_of_failed (contained : interpreter.Contained)
    (loading : Loading interpreter surroundings state session file required result state' after)
    (fails : after.executions = session.executions ++ [⟨path, false⟩]) :
    toString path ∉ state'.loaded.keys ∧ name path ∉ after.modules.keys ∧
      interpreter.accepts path = true := by
  cases loading with
  | unresolved | known | unanswered | reused | refused => simp at fails
  | missing | skipped => simp at fails
  | completed _ _ _ _ _ runs =>
      simp [Session.completing, (contained.of_run runs).2] at fails
  | failed _ new _ unnamed accepted runs =>
      have same := fails
      simp only [Session.abandoning, (contained.of_run runs).2, List.append_cancel_left_eq,
        List.cons.injEq, Execution.mk.injEq, and_true] at same
      subst same
      rw [modules_abandoning contained unnamed runs]
      exact ⟨new, unnamed, accepted⟩

/-- A file that was not loaded and has no module is executed. -/
theorem exists_executions_load (contained : interpreter.Contained) (required : Bool)
    (leads : resolution surroundings (.ofString file) = .ok path)
    (there : session.files.leadsToFile surroundings.directory path = true)
    (new : toString path ∉ state.loaded.keys) (unnamed : name path ∉ session.modules.keys)
    (accepted : interpreter.accepts path = true) :
    ∃ completed,
      ((interpreter.host.load file required).perform surroundings state session).2.executions =
        session.executions ++ [⟨path, completed⟩] := by
  rw [perform_load_of_new leads new]
  simp only [Interpreter.loadResolved, perform_bind, perform_isFile_of_leads there, if_true,
    perform_execute_of_new unnamed accepted, perform_enter]
  rcases runs : (interpreter.run path).perform surroundings (session.entering path) with
    ⟨failure | _, after⟩
  · exact ⟨false, congrArg (· ++ [_]) (contained.of_run runs).2⟩
  · exact ⟨true, congrArg (· ++ [_]) (contained.of_run runs).2⟩

/-! ## Any calls -/

/-- The state and the session after calls, each of them made whatever came of those before it. -/
def Interpreter.takenAll (interpreter : Interpreter) (surroundings : Surroundings)
    (start : State × Session) (calls : List Step) : State × Session :=
  calls.foldl (fun now call => (interpreter.taken surroundings now call).2) start

theorem remembers_takenAll (contained : interpreter.Contained) (surroundings : Surroundings)
    {start : State × Session} (remembers : start.1.Remembers start.2) (calls : List Step) :
    let now := interpreter.takenAll surroundings start calls
    now.1.Remembers now.2 := by
  induction calls generalizing start with
  | nil => exact remembers
  | cons call rest ih =>
      exact ih ((progress_taken contained surroundings start call).remembers remembers)

theorem completionLimit_takenAll_le (contained : interpreter.Contained)
    (surroundings : Surroundings) (start : State × Session) (calls : List Step) (path : Path) :
    completionLimit (interpreter.takenAll surroundings start calls).2 path ≤
      completionLimit start.2 path := by
  induction calls generalizing start with
  | nil => exact Nat.le_refl _
  | cons call rest ih =>
      exact Nat.le_trans (ih _)
        ((progress_taken contained surroundings start call).completionLimit_le path)

/-- However often and however spelled its path is passed, a file is executed to its end once at
most. -/
theorem count_executions_takenAll_le (contained : interpreter.Contained)
    (surroundings : Surroundings) (start : State × Session) (calls : List Step) (path : Path) :
    (interpreter.takenAll surroundings start calls).2.executions.count ⟨path, true⟩ ≤
      start.2.executions.count ⟨path, true⟩ + 1 := by
  have limit := completionLimit_takenAll_le contained surroundings start calls path
  unfold completionLimit at limit
  have one : (if name path ∈ start.2.modules.keys then 0 else 1) ≤ 1 := by split <;> decide
  omega

/-- What a host of modules does by the next call: only what is completed is remembered. -/
structure Interpreter.Careful (interpreter : Interpreter) (surroundings : Surroundings)
    (now : State × Session) : Prop where
  /-- A call that fails leaves what is remembered as it was. -/
  failing : ∀ call failure after,
    interpreter.taken surroundings now call = (.error failure, after) →
      after.1 = now.1 ∧ after.2.modules = now.2.modules
  /-- A file that is neither required nor there changes nothing. -/
  absent : ∀ file path, resolution surroundings (.ofString file) = .ok path →
    now.2.files.Answers surroundings.directory path →
    now.2.files.leadsToFile surroundings.directory path = false →
      ∃ records, interpreter.taken surroundings now (.load file false) =
        (.ok (), now.1, { now.2 with records })
  /-- What is loaded has a module that was there, or was executed to its end. -/
  loading : ∀ call key, let after := (interpreter.taken surroundings now call).2
    key ∈ after.1.loaded.keys → key ∉ now.1.loaded.keys →
      ∃ path, Resolved path ∧ toString path = key ∧ (name path ∈ now.2.modules.keys ∨
        after.2.executions = now.2.executions ++ [⟨path, true⟩])
  /-- A file that failed is executed again by the call after that, however its path is spelled. -/
  again : ∀ file required path,
    let failed := (interpreter.taken surroundings now (.load file required)).2
    failed.2.executions = now.2.executions ++ [⟨path, false⟩] →
      ∀ other required', resolution surroundings (.ofString other) = .ok path →
        failed.2.files.leadsToFile surroundings.directory path = true →
          ∃ completed,
            (interpreter.taken surroundings failed (.load other required')).2.2.executions =
              failed.2.executions ++ [⟨path, completed⟩]

theorem Interpreter.Contained.careful (contained : interpreter.Contained)
    (surroundings : Surroundings) (now : State × Session) :
    interpreter.Careful surroundings now where
  failing call failure after fails := by
    have progress := progress_taken contained surroundings now call
    rw [fails] at progress
    exact progress.eq_of_error
  absent file path leads answers absent := by
    obtain ⟨records, performed⟩ := perform_load_of_absent interpreter now.1 leads answers absent
    refine ⟨records, ?_⟩
    simp only [taken, Host.take, performed]
  loading call key present new :=
    (progress_taken contained surroundings now call).completed_of_loaded present new
  again file required path fails other required' leads there := by
    have loading := loading_load interpreter surroundings now.1 now.2 file required
    obtain ⟨new, unnamed, accepted⟩ := loading.unremembered_of_failed contained fails
    exact exists_executions_load contained required' leads there new unnamed accepted

/-- A host of modules remembers only what was completed. From any state and after any calls, the
next call is careful; what was loaded is known by resolved paths, each with a module that is there,
as it is in the beginning; and every file was executed to its end once more at most. -/
theorem remembers_only_completed (contained : interpreter.Contained)
    (surroundings : Surroundings) (start : State × Session) (calls : List Step) :
    let now := interpreter.takenAll surroundings start calls
    interpreter.Careful surroundings now ∧
      State.Remembers {} start.2 ∧ (start.1.Remembers start.2 → now.1.Remembers now.2) ∧
      ∀ path, now.2.executions.count ⟨path, true⟩ ≤ start.2.executions.count ⟨path, true⟩ + 1 :=
  ⟨contained.careful surroundings _, remembers_nothing start.2,
    fun remembers => remembers_takenAll contained surroundings remembers calls,
    fun path => count_executions_takenAll_le contained surroundings start calls path⟩

/-- A file that is passed under two spellings, and one that fails. -/
theorem remembers_only_completed_sample :
    let surroundings : Surroundings := ⟨["w"], .empty, .notFound, true, .ordinary⟩
    let files : FileTree := ⟨[(["w"], .directory), (["w", "a.py"], .file []),
      (["w", "b.py"], .file (Text.Utf8.encode "raise E(\"\")".toList))]⟩
    let now := sources.takenAll surroundings ({}, { files })
      [.load "a.py" true, .load "b.py" true, .load "/w/./a.py" true]
    sources.Contained ∧ sources.Careful surroundings now ∧ now.1.Remembers now.2 ∧
      now.2.executions.count ⟨⟨.slash, ["w", "a.py"]⟩, true⟩ ≤ 1 := by
  intro surroundings files now
  obtain ⟨careful, empty, remembers, once⟩ := remembers_only_completed contained_sources
    surroundings ({}, { files })
    [.load "a.py" true, .load "b.py" true, .load "/w/./a.py" true]
  exact ⟨contained_sources, careful, remembers empty, once _⟩

end OpcachePreload.Module
