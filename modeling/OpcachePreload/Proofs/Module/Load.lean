import Mathlib.Data.List.Induction
import OpcachePreload.Module.Host
import OpcachePreload.Proofs.Action.Find
import OpcachePreload.Proofs.Action.Frame
import OpcachePreload.Replay

/-!
# Calls of a host of modules

What a call to load a file comes to is told by where its path leads, by what was loaded before, and
by the modules of the process. A file is executed only if neither its path was loaded nor a module
of its name is there.
-/

namespace OpcachePreload

namespace Session

@[simp]
theorem modules_noting (session : Session) (record : Record) :
    (session.noting record).modules = session.modules := by
  unfold noting
  split <;> rfl

@[simp]
theorem executions_noting (session : Session) (record : Record) :
    (session.noting record).executions = session.executions := by
  unfold noting
  split <;> rfl

end Session

namespace Module

open OpcachePreload.Action

variable {interpreter : Interpreter} {surroundings : Surroundings} {state : State}
  {session : Session} {file : String} {required : Bool} {path : Path}

/-! ## Resolved paths -/

/-- The path from the ordinary root that a path means from a directory. Names with null characters
lead nowhere. -/
def resolution (surroundings : Surroundings) (path : Path) : Except Failure Path :=
  if path.names.any (·.toList.contains (Char.ofNat 0)) then
    .error (.unusablePath .nullCharacter (toString path))
  else
    .ok ⟨.slash, surroundings.system.resolver.resolve
      ((⟨.slash, surroundings.directory⟩ : Path) / path).names⟩

@[simp]
theorem perform_resolve (path : Path) (surroundings : Surroundings) (session : Session) :
    (resolve path).perform surroundings session =
      (resolution surroundings path, session) := by
  unfold resolve resolution
  split <;> simp [absolute, workingDirectory, Except.map]

/-- A path from the ordinary root that goes down only. -/
structure Resolved (path : Path) : Prop where
  root : path.root = .slash
  down : ".." ∉ path.names

theorem resolved_of_resolution {given : Path}
    (leads : resolution surroundings given = .ok path) : Resolved path := by
  unfold resolution at leads
  split at leads
  · contradiction
  · obtain rfl := Except.ok.inj leads
    exact ⟨rfl, surroundings.system.resolver.down _⟩

/-! ## Executing -/

/-- A file is executed as a module: its name is taken while that lasts, and stays taken only if the
file is executed to its end. -/
theorem perform_enter (interpreter : Interpreter) (path : Path) (surroundings : Surroundings)
    (session : Session) :
    (interpreter.enter path).perform surroundings session =
      match (interpreter.run path).perform surroundings (session.entering path) with
      | (.ok (), after) => (.ok (), after.completing path)
      | (.error failure, after) => (.error failure, after.abandoning path) := by
  simp only [Interpreter.enter, perform_bind, perform_modify, perform_tryCatch]
  rcases (interpreter.run path).perform surroundings (session.entering path) with ⟨_ | _, after⟩ <;>
    simp

theorem perform_execute_of_mem (named : name path ∈ session.modules.keys) :
    (interpreter.execute path).perform surroundings session = (.ok (), session) := by
  have found : session.modules.contains (name path) = true := decide_eq_true named
  simp [Interpreter.execute, found]

theorem perform_execute_of_not_accepted (unnamed : name path ∉ session.modules.keys)
    (refused : interpreter.accepts path = false) :
    (interpreter.execute path).perform surroundings session =
      (.error (.moduleFault .unknownSuffix), session) := by
  have absent : session.modules.contains (name path) = false := decide_eq_false unnamed
  simp [Interpreter.execute, absent, refused]

theorem perform_execute_of_new (unnamed : name path ∉ session.modules.keys)
    (accepted : interpreter.accepts path = true) :
    (interpreter.execute path).perform surroundings session =
      (interpreter.enter path).perform surroundings session := by
  have absent : session.modules.contains (name path) = false := decide_eq_false unnamed
  simp [Interpreter.execute, absent, accepted]

/-! ## Loading -/

/-- The state in which the file at a path is loaded. -/
def State.loading (state : State) (path : Path) : State :=
  { state with loaded := state.loaded.insert (toString path) (name path) }

/-- How a call to load a file can go: what it gives, and the state and the session after it. -/
inductive Loading (interpreter : Interpreter) (surroundings : Surroundings) (state : State)
    (session : Session) (file : String) (required : Bool) :
    Except Failure Unit → State → Session → Prop where
  /-- The path cannot be resolved. -/
  | unresolved {failure : Failure}
      (fails : resolution surroundings (.ofString file) = .error failure) :
      Loading interpreter surroundings state session file required (.error failure) state session
  /-- It was loaded before. -/
  | known {path : Path} (leads : resolution surroundings (.ofString file) = .ok path)
      (loaded : toString path ∈ state.loaded.keys) :
      Loading interpreter surroundings state session file required (.ok ()) state session
  /-- The files do not answer whether it is there. -/
  | unanswered {path : Path} {fault : PathFault}
      (leads : resolution surroundings (.ofString file) = .ok path)
      (new : toString path ∉ state.loaded.keys)
      (fails : session.files.probe surroundings.directory path = .error fault) :
      Loading interpreter surroundings state session file required
        (.error (.unusablePath fault (toString path))) state session
  /-- It is not there but required. -/
  | missing {path : Path} (leads : resolution surroundings (.ofString file) = .ok path)
      (new : toString path ∉ state.loaded.keys)
      (absent : session.files.leadsToFile surroundings.directory path = false)
      (wanted : required = true) :
      Loading interpreter surroundings state session file required
        (.error (.moduleFault (.missing path))) state
        (session.noting ⟨.error, "Module not found: " ++ toString path, none⟩)
  /-- It is not there and not required. -/
  | skipped {path : Path} (leads : resolution surroundings (.ofString file) = .ok path)
      (new : toString path ∉ state.loaded.keys)
      (absent : session.files.leadsToFile surroundings.directory path = false)
      (optional : required = false) :
      Loading interpreter surroundings state session file required (.ok ()) state
        (session.noting ⟨.warning, "Skipping missing file: " ++ toString path, none⟩)
  /-- A module of its name is there. -/
  | reused {path : Path} (leads : resolution surroundings (.ofString file) = .ok path)
      (new : toString path ∉ state.loaded.keys)
      (there : session.files.leadsToFile surroundings.directory path = true)
      (named : name path ∈ session.modules.keys) :
      Loading interpreter surroundings state session file required (.ok ()) (state.loading path)
        session
  /-- It cannot be executed. -/
  | refused {path : Path} (leads : resolution surroundings (.ofString file) = .ok path)
      (new : toString path ∉ state.loaded.keys)
      (there : session.files.leadsToFile surroundings.directory path = true)
      (unnamed : name path ∉ session.modules.keys) (refused : interpreter.accepts path = false) :
      Loading interpreter surroundings state session file required
        (.error (.moduleFault .unknownSuffix)) state session
  /-- It is executed to its end. -/
  | completed {path : Path} {after : Session}
      (leads : resolution surroundings (.ofString file) = .ok path)
      (new : toString path ∉ state.loaded.keys)
      (there : session.files.leadsToFile surroundings.directory path = true)
      (unnamed : name path ∉ session.modules.keys) (accepted : interpreter.accepts path = true)
      (runs : (interpreter.run path).perform surroundings (session.entering path) =
        (.ok (), after)) :
      Loading interpreter surroundings state session file required (.ok ()) (state.loading path)
        (after.completing path)
  /-- It fails while it is executed. -/
  | failed {path : Path} {failure : Failure} {after : Session}
      (leads : resolution surroundings (.ofString file) = .ok path)
      (new : toString path ∉ state.loaded.keys)
      (there : session.files.leadsToFile surroundings.directory path = true)
      (unnamed : name path ∉ session.modules.keys) (accepted : interpreter.accepts path = true)
      (runs : (interpreter.run path).perform surroundings (session.entering path) =
        (.error failure, after)) :
      Loading interpreter surroundings state session file required (.error failure) state
        (after.abandoning path)

/-- A call does nothing with a path that was loaded before. -/
theorem perform_load_of_mem
    (leads : resolution surroundings (.ofString file) = .ok path)
    (loaded : toString path ∈ state.loaded.keys) :
    (interpreter.host.load file required).perform surroundings state session =
      ((.ok (), state), session) := by
  have known : state.loaded.contains (toString path) = true := decide_eq_true loaded
  simp only [Interpreter.host, HostAction.perform_bind, HostAction.perform_ofAction,
    perform_resolve, leads, HostAction.perform_state, known, if_true, HostAction.perform_pure]

/-- What a call does with a path that was not loaded before. -/
theorem perform_load_of_new
    (leads : resolution surroundings (.ofString file) = .ok path)
    (new : toString path ∉ state.loaded.keys) :
    (interpreter.host.load file required).perform surroundings state session =
      match (interpreter.loadResolved path required).perform surroundings session with
      | (.ok true, after) => ((.ok (), state.loading path), after)
      | (.ok false, after) => ((.ok (), state), after)
      | (.error failure, after) => ((.error failure, state), after) := by
  have unknown : state.loaded.contains (toString path) = false := decide_eq_false new
  simp only [Interpreter.host, HostAction.perform_bind, HostAction.perform_ofAction,
    perform_resolve, leads, HostAction.perform_state, unknown, Bool.false_eq_true, if_false]
  rcases (interpreter.loadResolved path required).perform surroundings session with
    ⟨_ | _ | _, after⟩ <;> rfl

/-- What a call does with a file that is there and was not loaded before. -/
theorem loading_of_there
    (leads : resolution surroundings (.ofString file) = .ok path)
    (new : toString path ∉ state.loaded.keys)
    (there : session.files.leadsToFile surroundings.directory path = true) :
    let outcome := (interpreter.host.load file required).perform surroundings state session
    Loading interpreter surroundings state session file required outcome.1.1 outcome.1.2
      outcome.2 := by
  dsimp only
  rw [perform_load_of_new leads new]
  simp only [Interpreter.loadResolved, perform_bind, perform_isFile_of_leads there, if_true,
    perform_pure]
  by_cases named : name path ∈ session.modules.keys
  · rw [perform_execute_of_mem named]
    exact .reused leads new there named
  cases accepted : interpreter.accepts path with
  | false =>
      rw [perform_execute_of_not_accepted named accepted]
      exact .refused leads new there named accepted
  | true =>
      rw [perform_execute_of_new named accepted, perform_enter]
      rcases runs : (interpreter.run path).perform surroundings (session.entering path) with
        ⟨failure | _, after⟩
      · exact .failed leads new there named accepted runs
      · exact .completed leads new there named accepted runs

/-- Every call to load a file goes one of these ways. -/
theorem loading_load (interpreter : Interpreter) (surroundings : Surroundings) (state : State)
    (session : Session) (file : String) (required : Bool) :
    let outcome := (interpreter.host.load file required).perform surroundings state session
    Loading interpreter surroundings state session file required outcome.1.1 outcome.1.2
      outcome.2 := by
  cases leads : resolution surroundings (.ofString file) with
  | error failure =>
      simp only [Interpreter.host, HostAction.perform_bind, HostAction.perform_ofAction,
        perform_resolve, leads]
      exact .unresolved leads
  | ok path =>
      by_cases loaded : toString path ∈ state.loaded.keys
      · dsimp only
        rw [perform_load_of_mem leads loaded]
        exact .known leads loaded
      cases answer : session.files.probe surroundings.directory path with
      | error fault =>
          dsimp only
          rw [perform_load_of_new leads loaded]
          simp only [Interpreter.loadResolved, perform_bind, perform_isFile_of_error answer]
          exact .unanswered leads loaded answer
      | ok found =>
          cases there : session.files.leadsToFile surroundings.directory path with
          | true => exact loading_of_there leads loaded there
          | false =>
              have answers : session.files.Answers surroundings.directory path := ⟨found, answer⟩
              have asked := perform_isFile answers
              rw [there] at asked
              dsimp only
              rw [perform_load_of_new leads loaded]
              cases required with
              | true =>
                  simp only [Interpreter.loadResolved, perform_bind, asked, Bool.false_eq_true,
                    if_false, if_true, complain, perform_note, perform_fail]
                  exact .missing leads loaded there rfl
              | false =>
                  simp only [Interpreter.loadResolved, perform_bind, asked, Bool.false_eq_true,
                    if_false, warn, perform_note, perform_pure]
                  exact .skipped leads loaded there rfl

end Module

end OpcachePreload
