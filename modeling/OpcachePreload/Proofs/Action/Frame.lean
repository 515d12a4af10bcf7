import OpcachePreload.Proofs.Action

/-!
# What actions leave alone

Most actions leave the files, or what was printed, as they are. Whether they do follows from their
parts. An action that observes gives what the files settle and changes nothing but the log.
-/

namespace OpcachePreload

@[simp]
theorem Session.printed_noting (session : Session) (record : Record) :
    (session.noting record).printed = session.printed := by
  unfold noting
  split <;> rfl

/-- The session after a text was printed. -/
def Session.printing (session : Session) (text : String) : Session :=
  { session with printed := session.printed ++ [text] }

/-- What becomes of changes: what the device does with bytes, and what the output takes. -/
def Session.outlets (session : Session) :
    (Path → List UInt8 → Storing) × (List String → String → Bool) :=
  (session.stores, session.takes)

/-- A session whose device stores a file as a whole or leaves it as it is, and whose output takes
everything. -/
def Session.Lossless (session : Session) : Prop :=
  (∀ path bytes count, session.outlets.1 path bytes ≠ .cut count) ∧
    ∀ printed text, session.outlets.2 printed text = true

/-- A failure for which the output did not take a text, or the device did not take all bytes. -/
def Failure.isLoss : Failure → Bool
  | notPrinted _ | notStored _ => true
  | _ => false

/-- Noting a record changes nothing but the log. -/
theorem Session.exists_noting_eq (session : Session) (record : Record) :
    ∃ records, session.noting record = { session with records } := by
  unfold noting
  split
  · exact ⟨_, rfl⟩
  · exact ⟨session.records, rfl⟩

namespace Action

variable {α β : Type}

@[simp]
theorem perform_tryCatch (action : Action α) (handler : Failure → Action α)
    (surroundings : Surroundings) (session : Session) :
    perform (tryCatch action handler) surroundings session =
      match action.perform surroundings session with
      | (.ok a, session) => (.ok a, session)
      | (.error failure, session) => (handler failure).perform surroundings session := by
  change StateT.run (ExceptT.run (tryCatch (ReaderT.run action surroundings) fun failure =>
    ReaderT.run (handler failure) surroundings)) session = _
  rw [ExceptT.run_tryCatch, StateT.run_bind]
  simp only [perform]
  rcases StateT.run (ExceptT.run (ReaderT.run action surroundings)) session with ⟨_ | _, _⟩ <;> rfl

theorem perform_printText (text : String) (surroundings : Surroundings) (session : Session) :
    perform (printText text) surroundings session =
      if session.takes session.printed text then (.ok (), session.printing text)
      else (.error (.notPrinted text), session) := by
  rw [printText, perform_bind, perform_get]
  dsimp only
  split <;> rfl

/-- A line is printed unless the output does not take it. -/
theorem perform_print_cases (line : String) (surroundings : Surroundings) (session : Session) :
    (session.takes session.printed (line ++ "\n") = true ∧
      perform (print line) surroundings session = (.ok (), session.printing (line ++ "\n"))) ∨
    (session.takes session.printed (line ++ "\n") = false ∧
      perform (print line) surroundings session =
        (.error (.notPrinted (line ++ "\n")), session)) := by
  rw [print, perform_printText]
  cases session.takes session.printed (line ++ "\n") <;> simp

/-! ## Keeping -/

/-- An action that leaves a view of the session as it is, also where it fails. -/
def Keeps {γ : Type} (view : Session → γ) (action : Action α) : Prop :=
  ∀ surroundings session, view (action.perform surroundings session).2 = view session

variable {γ : Type} {view : Session → γ} {action : Action α} {next : α → Action β}

theorem keeps_pure (a : α) : Keeps view (pure a : Action α) :=
  fun _ _ => rfl

theorem keeps_fail (failure : Failure) : Keeps view (fail failure : Action α) :=
  fun _ _ => rfl

theorem keeps_read : Keeps view read :=
  fun _ _ => rfl

theorem keeps_get : Keeps view get :=
  fun _ _ => rfl

theorem keeps_modify {change : Session → Session}
    (unchanged : ∀ session, view (change session) = view session) :
    Keeps view (modify change) :=
  fun _ session => unchanged session

theorem keeps_ofExcept {ε : Type} (failure : ε → Failure) (result : Except ε α) :
    Keeps view (ofExcept failure result) := by
  cases result with
  | error e => exact keeps_fail (failure e)
  | ok a => exact keeps_pure a

theorem Keeps.bind (keeps : Keeps view action) (then_keeps : ∀ a, Keeps view (next a)) :
    Keeps view (action >>= next) := by
  intro surroundings session
  have first := keeps surroundings session
  rw [perform_bind]
  rcases outcome : action.perform surroundings session with ⟨_ | a, after⟩ <;> rw [outcome] at first
  · exact first
  · exact (then_keeps a surroundings after).trans first

theorem Keeps.map (keeps : Keeps view action) (f : α → β) : Keeps view (f <$> action) := by
  intro surroundings session
  rw [perform_map]
  exact keeps surroundings session

theorem Keeps.tryCatch {handler : Failure → Action α} (keeps : Keeps view action)
    (handler_keeps : ∀ failure, Keeps view (handler failure)) :
    Keeps view (tryCatch action handler) := by
  intro surroundings session
  have first := keeps surroundings session
  rw [perform_tryCatch]
  rcases outcome : action.perform surroundings session with ⟨failure | _, after⟩ <;>
    rw [outcome] at first
  · exact (handler_keeps failure surroundings after).trans first
  · exact first

theorem Keeps.ite {condition : Prop} [Decidable condition] {other : Action α}
    (keeps : Keeps view action) (other_keeps : Keeps view other) :
    Keeps view (if condition then action else other) := by
  split
  · exact keeps
  · exact other_keeps

theorem keeps_forM {items : List α} {each : α → Action Unit}
    (each_keeps : ∀ item, Keeps view (each item)) : Keeps view (items.forM each) := by
  induction items with
  | nil => exact keeps_pure ()
  | cons item rest ih => exact (each_keeps item).bind fun _ => ih

/-- A view that shows nothing of the log, of what was started, and of the modules. -/
def Silent (view : Session → γ) : Prop :=
  ∀ (session : Session) records started modules executions,
    view { session with records, started, modules, executions } = view session

/-- A view that shows nothing of what was printed either. -/
structure Quiet (view : Session → γ) : Prop where
  silent : Silent view
  unprinted : ∀ (session : Session) printed, view { session with printed } = view session

theorem quiet_files : Quiet Session.files :=
  ⟨fun _ _ _ _ _ => rfl, fun _ _ => rfl⟩

theorem quiet_outlets : Quiet Session.outlets :=
  ⟨fun _ _ _ _ _ => rfl, fun _ _ => rfl⟩

theorem keeps_note (silent : Silent view) (record : Record) : Keeps view (note record) := by
  intro surroundings session
  obtain ⟨records, noted⟩ := session.exists_noting_eq record
  rw [perform_note, noted]
  exact silent session records _ _ _

theorem keeps_print (quiet : Quiet view) (line : String) : Keeps view (print line) := by
  intro surroundings session
  rcases perform_print_cases line surroundings session with ⟨_, performed⟩ | ⟨_, performed⟩ <;>
    rw [performed]
  exact quiet.unprinted session (session.printed ++ [line ++ "\n"])

theorem keeps_files_note (record : Record) : Keeps Session.files (note record) :=
  keeps_note quiet_files.silent record

theorem keeps_files_print (line : String) : Keeps Session.files (print line) :=
  keeps_print quiet_files line

/-- What an action gives in a session that holds nothing but files. -/
def outcome (action : Action α) (surroundings : Surroundings) (files : FileTree) :
    Except Failure α :=
  (action.perform surroundings { files }).1

/-! ## Finishing -/

variable {done : α → Prop}

/-- An action that leaves the files and where changes go alone, and can only fail because the output
does not take a text. -/
def Finishes (done : α → Prop) (action : Action α) : Prop :=
  ∀ surroundings session, ∃ after,
    after.files = session.files ∧ after.outlets = session.outlets ∧
      ((∃ a, action.perform surroundings session = (.ok a, after) ∧ done a) ∨
        ∃ text, action.perform surroundings session = (.error (.notPrinted text), after) ∧
          ¬session.Lossless)

theorem finishes_pure {a : α} (holds : done a) : Finishes done (pure a) :=
  fun _ session => ⟨session, rfl, rfl, .inl ⟨a, rfl, holds⟩⟩

theorem finishes_print (line : String) : Finishes (fun _ => True) (print line) := by
  intro surroundings session
  rcases perform_print_cases line surroundings session with ⟨_, performed⟩ | ⟨refused, performed⟩
  · exact ⟨session.printing _, rfl, rfl, .inl ⟨(), performed, trivial⟩⟩
  · refine ⟨session, rfl, rfl, .inr ⟨_, performed, fun lossless => ?_⟩⟩
    cases (lossless.2 _ _).symm.trans refused

theorem finishes_note (record : Record) : Finishes (fun _ => True) (note record) :=
  fun surroundings session => ⟨_, keeps_note quiet_files.silent record surroundings session,
    keeps_note quiet_outlets.silent record surroundings session, .inl ⟨(), rfl, trivial⟩⟩

theorem Finishes.bind {done' : β → Prop} (finishes : Finishes done action)
    (then_finishes : ∀ a, done a → Finishes done' (next a)) : Finishes done' (action >>= next) := by
  intro surroundings session
  obtain ⟨between, same, outlets, ⟨a, performed, holds⟩ | ⟨text, performed, lossy⟩⟩ :=
    finishes surroundings session
  · obtain ⟨after, then_same, then_outlets, ends⟩ := then_finishes a holds surroundings between
    refine ⟨after, then_same.trans same, then_outlets.trans outlets, ?_⟩
    rwa [perform_bind, performed, Session.Lossless, ← outlets]
  · refine ⟨between, same, outlets, .inr ⟨text, ?_, lossy⟩⟩
    rw [perform_bind, performed]

theorem Finishes.keeps_files (finishes : Finishes done action) : Keeps Session.files action := by
  intro surroundings session
  obtain ⟨_, same, _, ⟨_, performed, _⟩ | ⟨_, performed, _⟩⟩ := finishes surroundings session <;>
    rw [performed, same]

/-! ## Observing -/

/-- An action that changes nothing but the log, and gives what the files settle. -/
structure Observes (action : Action α) : Prop where
  observed : ∀ surroundings files, ∃ result, ∀ session : Session, session.files = files →
    ∃ records, action.perform surroundings session = (result, { session with records })

theorem Observes.perform_eq (observes : Observes action) (surroundings : Surroundings)
    (session : Session) : ∃ records, action.perform surroundings session =
      (action.outcome surroundings session.files, { session with records }) := by
  obtain ⟨result, observed⟩ := observes.observed surroundings session.files
  obtain ⟨records, performed⟩ := observed session rfl
  obtain ⟨_, performed'⟩ := observed { files := session.files } rfl
  exact ⟨records, by rw [outcome, performed', performed]⟩

/-- What an action that observes gives on files is settled by them. -/
theorem Observes.settles (observes : Observes action) (surroundings : Surroundings)
    (files : FileTree) : Settles surroundings files action (action.outcome surroundings files) := by
  rintro session rfl
  obtain ⟨records, performed⟩ := observes.perform_eq surroundings session
  exact ⟨_, performed, rfl⟩

/-- Every view that does not show the log stays as it is. -/
theorem Observes.keeps (observes : Observes action)
    (blind : ∀ (session : Session) (records : List Record),
      view { session with records } = view session) : Keeps view action := by
  intro surroundings session
  obtain ⟨records, performed⟩ := observes.perform_eq surroundings session
  rw [performed]
  exact blind session records

theorem Observes.keeps_silent (observes : Observes action) (silent : Silent view) :
    Keeps view action :=
  observes.keeps fun session records => silent session records _ _ _

theorem Observes.keeps_quiet (observes : Observes action) (quiet : Quiet view) :
    Keeps view action :=
  observes.keeps_silent quiet.silent

theorem Observes.keeps_files (observes : Observes action) : Keeps Session.files action :=
  observes.keeps_quiet quiet_files

theorem observes_pure (a : α) : Observes (pure a : Action α) :=
  ⟨fun _ _ => ⟨.ok a, fun session _ => ⟨session.records, rfl⟩⟩⟩

theorem observes_fail (failure : Failure) : Observes (fail failure : Action α) :=
  ⟨fun _ _ => ⟨.error failure, fun session _ => ⟨session.records, rfl⟩⟩⟩

theorem observes_read : Observes read :=
  ⟨fun surroundings _ => ⟨.ok surroundings, fun session _ => ⟨session.records, rfl⟩⟩⟩

theorem observes_note (record : Record) : Observes (note record) := by
  refine ⟨fun _ _ => ⟨.ok (), fun session _ => ?_⟩⟩
  obtain ⟨records, noted⟩ := session.exists_noting_eq record
  exact ⟨records, by rw [perform_note, noted]⟩

theorem observes_ofExcept {ε : Type} (failure : ε → Failure) (result : Except ε α) :
    Observes (ofExcept failure result) := by
  cases result with
  | error e => exact observes_fail (failure e)
  | ok a => exact observes_pure a

theorem observes_ask (text : String) (question : FileTree → Location → Except PathFault α) :
    Observes (ask text question) := by
  refine ⟨fun surroundings files =>
    ⟨(question files surroundings.directory).mapError (.unusablePath · text), ?_⟩⟩
  rintro session rfl
  exact ⟨session.records, perform_ask text question surroundings session⟩

theorem Observes.bind (observes : Observes action) (then_observes : ∀ a, Observes (next a)) :
    Observes (action >>= next) := by
  constructor
  intro surroundings files
  obtain ⟨result, observed⟩ := observes.observed surroundings files
  cases result with
  | error failure =>
      refine ⟨.error failure, fun session held => ?_⟩
      obtain ⟨records, performed⟩ := observed session held
      exact ⟨records, by rw [perform_bind, performed]⟩
  | ok a =>
      obtain ⟨last, then_observed⟩ := (then_observes a).observed surroundings files
      refine ⟨last, fun session held => ?_⟩
      obtain ⟨records, performed⟩ := observed session held
      obtain ⟨more, then_performed⟩ := then_observed { session with records } held
      exact ⟨more, by rw [perform_bind, performed]; exact then_performed⟩

theorem Observes.ite {condition : Prop} [Decidable condition] {other : Action α}
    (observes : Observes action) (other_observes : Observes other) :
    Observes (if condition then action else other) := by
  split
  · exact observes
  · exact other_observes

theorem Observes.map (observes : Observes action) (f : α → β) : Observes (f <$> action) := by
  rw [← bind_pure_comp]
  exact observes.bind fun a => observes_pure (f a)

theorem Observes.tryCatch {handler : Failure → Action α} (observes : Observes action)
    (handler_observes : ∀ failure, Observes (handler failure)) :
    Observes (tryCatch action handler) := by
  constructor
  intro surroundings files
  obtain ⟨result, observed⟩ := observes.observed surroundings files
  cases result with
  | ok a =>
      refine ⟨.ok a, fun session held => ?_⟩
      obtain ⟨records, performed⟩ := observed session held
      exact ⟨records, by rw [perform_tryCatch, performed]⟩
  | error failure =>
      obtain ⟨last, then_observed⟩ := (handler_observes failure).observed surroundings files
      refine ⟨last, fun session held => ?_⟩
      obtain ⟨records, performed⟩ := observed session held
      obtain ⟨more, then_performed⟩ := then_observed { session with records } held
      exact ⟨more, by rw [perform_tryCatch, performed]; exact then_performed⟩

/-- Outcomes are threaded as the actions are. -/
theorem Observes.outcome_bind (observes : Observes action)
    (then_observes : ∀ a, Observes (next a)) (surroundings : Surroundings) (files : FileTree) :
    (action >>= next).outcome surroundings files =
      action.outcome surroundings files >>= fun a => (next a).outcome surroundings files := by
  obtain ⟨records, performed⟩ := observes.perform_eq surroundings { files }
  rw [outcome, perform_bind, performed]
  cases action.outcome surroundings files with
  | error failure => rfl
  | ok a =>
      obtain ⟨more, then_performed⟩ := (then_observes a).perform_eq surroundings
        { files, records }
      change ((next a).perform surroundings { files, records }).1 =
        (next a).outcome surroundings files
      rw [then_performed]

/-! ## Observing paths and files -/

variable {path : Path}

theorem observes_expanded (text : String) : Observes (expanded text) :=
  observes_read.bind fun _ => observes_pure _

theorem observes_workingDirectory : Observes workingDirectory :=
  observes_read.bind fun _ => observes_pure _

theorem observes_absolute (path : Path) : Observes (absolute path) :=
  observes_workingDirectory.bind fun _ => observes_pure _

theorem observes_find (path : Path) : Observes (find path) :=
  observes_ask _ _

theorem observes_exists? (path : Path) : Observes (exists? path) :=
  (observes_find path).bind fun _ => observes_pure _

theorem observes_isDirectory (path : Path) : Observes (isDirectory path) :=
  (observes_find path).bind fun _ => observes_pure _

theorem observes_isFile (path : Path) : Observes (isFile path) := by
  refine (observes_find path).bind fun found => ?_
  rcases found with _ | _ | _ <;> exact observes_pure _

theorem observes_readBytes (path : Path) : Observes (readBytes path) :=
  observes_ask _ _

theorem observes_readText (path : Path) : Observes (readText path) :=
  (observes_readBytes path).bind fun _ => observes_ofExcept _ _

end Action

/-! ## Actions on hosts -/

namespace HostAction

variable {σ α β γ : Type} {view : Session → γ} {action : HostAction σ α}
  {next : α → HostAction σ β}

/-- An action on a host that leaves a view of the session as it is, also where it fails. -/
def Keeps (view : Session → γ) (action : HostAction σ α) : Prop :=
  ∀ surroundings state session, view (action.perform surroundings state session).2 = view session

theorem keeps_pure (a : α) : Keeps view (pure a : HostAction σ α) :=
  fun _ _ _ => rfl

theorem keeps_throw (failure : Failure) : Keeps view (throw failure : HostAction σ α) :=
  fun _ _ _ => rfl

theorem keeps_read : Keeps view (read : HostAction σ Surroundings) :=
  fun _ _ _ => rfl

theorem keeps_state : Keeps view (state : HostAction σ σ) :=
  fun _ _ _ => rfl

theorem keeps_update (change : σ → σ) : Keeps view (update change) :=
  fun _ _ _ => rfl

theorem keeps_ofAction {action : Action α} (keeps : action.Keeps view) :
    Keeps view (ofAction action : HostAction σ α) :=
  fun surroundings _ session => keeps surroundings session

theorem Keeps.bind (keeps : Keeps view action) (then_keeps : ∀ a, Keeps view (next a)) :
    Keeps view (action >>= next) := by
  intro surroundings state session
  have first := keeps surroundings state session
  rw [perform_bind]
  rcases outcome : action.perform surroundings state session with ⟨⟨_ | a, between⟩, after⟩ <;>
    rw [outcome] at first
  · exact first
  · exact (then_keeps a surroundings between after).trans first

end HostAction

end OpcachePreload
