import OpcachePreload.Host

/-!
# Doing actions

What comes of doing an action, and of doing an action on a host, in terms of what comes of its
parts.
-/

namespace OpcachePreload

theorem bind_eq_ok_iff {ε α β : Type} {result : Except ε α} {next : α → Except ε β} {b : β} :
    result >>= next = .ok b ↔ ∃ a, result = .ok a ∧ next a = .ok b := by
  cases result <;> simp [bind, Except.bind]

theorem bind_eq_error_iff {ε α β : Type} {result : Except ε α} {next : α → Except ε β} {e : ε} :
    result >>= next = .error e ↔ result = .error e ∨ ∃ a, result = .ok a ∧ next a = .error e := by
  cases result <;> simp [bind, Except.bind]

theorem map_eq_ok_iff {ε α β : Type} {f : α → β} {result : Except ε α} {b : β} :
    f <$> result = .ok b ↔ ∃ a, result = .ok a ∧ f a = b := by
  cases result <;> simp [Functor.map, Except.map]

theorem mapError_ok {ε ε' α : Type} (f : ε → ε') (a : α) :
    (Except.ok a : Except ε α).mapError f = .ok a :=
  rfl

theorem mapError_error {ε ε' α : Type} (f : ε → ε') (fault : ε) :
    (Except.error fault : Except ε α).mapError f = .error (f fault) :=
  rfl

theorem mapError_eq_ok_iff {ε ε' α : Type} {f : ε → ε'} {result : Except ε α} {a : α} :
    result.mapError f = .ok a ↔ result = .ok a := by
  cases result <;> simp [mapError_ok, mapError_error]

theorem mapError_eq_error_iff {ε ε' α : Type} {f : ε → ε'} {result : Except ε α} {fault : ε'} :
    result.mapError f = .error fault ↔ ∃ cause, result = .error cause ∧ f cause = fault := by
  cases result <;> simp [mapError_ok, mapError_error]

theorem mapError_id {ε α : Type} (result : Except ε α) : result.mapError id = result := by
  cases result <;> rfl

theorem eq_ok_of_toOption {ε α : Type} {result : Except ε α} {a : α}
    (given : result.toOption = some a) : result = .ok a := by
  cases result with
  | error fault => cases given
  | ok b => exact congrArg Except.ok (Option.some.inj given)

/-! ## Actions -/

namespace Action

variable {α β : Type}

@[simp]
theorem perform_pure (a : α) (surroundings : Surroundings) (session : Session) :
    perform (pure a) surroundings session = (.ok a, session) :=
  rfl

/-- An action is followed by the next one unless it fails. -/
@[simp]
theorem perform_bind (action : Action α) (next : α → Action β) (surroundings : Surroundings)
    (session : Session) :
    perform (action >>= next) surroundings session =
      match action.perform surroundings session with
      | (.ok a, session) => (next a).perform surroundings session
      | (.error failure, session) => (.error failure, session) := by
  simp only [perform, ReaderT.run_bind, ExceptT.run_bind, StateT.run_bind]
  rcases StateT.run (ExceptT.run (ReaderT.run action surroundings)) session with ⟨_ | _, _⟩ <;> rfl

@[simp]
theorem perform_map (f : α → β) (action : Action α) (surroundings : Surroundings)
    (session : Session) :
    perform (f <$> action) surroundings session =
      ((action.perform surroundings session).1.map f,
        (action.perform surroundings session).2) := by
  rw [← bind_pure_comp, perform_bind]
  rcases action.perform surroundings session with ⟨_ | _, _⟩ <;> rfl

@[simp]
theorem perform_fail (failure : Failure) (surroundings : Surroundings) (session : Session) :
    perform (fail failure : Action α) surroundings session = (.error failure, session) :=
  rfl

@[simp]
theorem perform_ofExcept {ε : Type} (failure : ε → Failure) (result : Except ε α)
    (surroundings : Surroundings) (session : Session) :
    perform (ofExcept failure result) surroundings session =
      (result.mapError failure, session) := by
  cases result <;> rfl

@[simp]
theorem perform_read (surroundings : Surroundings) (session : Session) :
    perform read surroundings session = (.ok surroundings, session) :=
  rfl

@[simp]
theorem perform_get (surroundings : Surroundings) (session : Session) :
    perform get surroundings session = (.ok session, session) :=
  rfl

@[simp]
theorem perform_modify (change : Session → Session) (surroundings : Surroundings)
    (session : Session) :
    perform (modify change) surroundings session = (.ok (), change session) :=
  rfl

end Action

/-- The session after noting a record. -/
def Session.noting (session : Session) (record : Record) : Session :=
  if session.threshold.rank ≤ record.level.rank then
    { session with records := session.records ++ [record] }
  else session

@[simp]
theorem Action.perform_note (record : Record) (surroundings : Surroundings) (session : Session) :
    perform (note record) surroundings session = (.ok (), session.noting record) :=
  rfl

@[simp]
theorem Session.files_noting (session : Session) (record : Record) :
    (session.noting record).files = session.files := by
  unfold noting
  split <;> rfl

namespace Action

variable {α β : Type} {action : Action α} {next : α → Action β}

@[simp]
theorem perform_ask (text : String) (question : FileTree → Location → Except PathFault α)
    (surroundings : Surroundings) (session : Session) :
    perform (ask text question) surroundings session =
      ((question session.files surroundings.directory).mapError (.unusablePath · text),
        session) := by
  simp [ask]

/-! ## Results that the files settle -/

/-- An action that, whatever else the session holds, gives a certain result on certain files and
leaves them as they are. -/
def Settles (surroundings : Surroundings) (files : FileTree) (action : Action α)
    (result : Except Failure α) : Prop :=
  ∀ session : Session, session.files = files →
    ∃ after : Session, action.perform surroundings session = (result, after) ∧ after.files = files

variable {surroundings : Surroundings} {files : FileTree} {result : Except Failure α}

theorem settles_pure (a : α) : Settles surroundings files (pure a) (.ok a) :=
  fun session held => ⟨session, rfl, held⟩

theorem settles_read : Settles surroundings files read (.ok surroundings) :=
  fun session held => ⟨session, rfl, held⟩

theorem settles_note (record : Record) : Settles surroundings files (note record) (.ok ()) :=
  fun session held => ⟨session.noting record, rfl, (session.files_noting record).trans held⟩

theorem settles_ask (text : String) (question : FileTree → Location → Except PathFault α) :
    Settles surroundings files (ask text question)
      ((question files surroundings.directory).mapError (.unusablePath · text)) := by
  rintro session rfl
  exact ⟨session, perform_ask text question surroundings session, rfl⟩

/-- What the files answer is the result. -/
theorem settles_ask_of_ok {question : FileTree → Location → Except PathFault α} {a : α}
    (answered : question files surroundings.directory = .ok a) (text : String) :
    Settles surroundings files (ask text question) (.ok a) := by
  have settles := @settles_ask α surroundings files text question
  rwa [answered] at settles

/-- Nothing is done after an action that fails. -/
theorem Settles.stop {failure : Failure}
    (settles : Settles surroundings files action (.error failure)) (next : α → Action β) :
    Settles surroundings files (action >>= next) (.error failure) := by
  intro session held
  obtain ⟨after, performed, kept⟩ := settles session held
  rw [perform_bind, performed]
  exact ⟨after, rfl, kept⟩

/-- An action after one that does not fail. -/
theorem Settles.follow {a : α} {last : Except Failure β}
    (settles : Settles surroundings files action (.ok a))
    (then_settles : Settles surroundings files (next a) last) :
    Settles surroundings files (action >>= next) last := by
  intro session held
  obtain ⟨after, performed, kept⟩ := settles session held
  rw [perform_bind, performed]
  exact then_settles after kept

/-- One action after the other: the results are threaded as the actions are. -/
theorem Settles.bind {results : α → Except Failure β}
    (settles : Settles surroundings files action result)
    (then_settles : ∀ a, result = .ok a → Settles surroundings files (next a) (results a)) :
    Settles surroundings files (action >>= next) (result >>= results) := by
  cases result with
  | error failure => exact settles.stop next
  | ok a => exact settles.follow (then_settles a rfl)

/-- The same where the first result is made of something else. -/
theorem Settles.bind_map {γ : Type} {f : γ → α} {found : Except Failure γ}
    {results : γ → Except Failure β} (settles : Settles surroundings files action (found.map f))
    (then_settles : ∀ c, found = .ok c → Settles surroundings files (next (f c)) (results c)) :
    Settles surroundings files (action >>= next) (found >>= results) := by
  cases found with
  | error failure => exact settles.stop next
  | ok c => exact settles.follow (then_settles c rfl)

/-- An action gives one result on the same files. -/
theorem Settles.unique {result' : Except Failure α}
    (settles : Settles surroundings files action result)
    (settles' : Settles surroundings files action result') : result = result' := by
  obtain ⟨_, performed, _⟩ := settles { files } rfl
  obtain ⟨_, performed', _⟩ := settles' { files } rfl
  rw [performed] at performed'
  exact congrArg Prod.fst performed'

/-! ## What actions give -/

/-- An action all of whose results are as they should be. -/
structure Gives (action : Action α) (good : α → Prop) : Prop where
  holds : ∀ surroundings session a, (action.perform surroundings session).1 = .ok a → good a

theorem gives_pure {good : α → Prop} {a : α} (holds : good a) : Gives (pure a) good := by
  constructor
  rintro surroundings session _ ⟨⟩
  exact holds

theorem Gives.bind {good : α → Prop} {better : β → Prop} (gives : Gives action good)
    (then_gives : ∀ a, good a → Gives (next a) better) : Gives (action >>= next) better := by
  constructor
  intro surroundings session b given
  rw [perform_bind] at given
  have first := gives.holds surroundings session
  rcases outcome : action.perform surroundings session with ⟨_ | a, after⟩ <;>
    rw [outcome] at given first
  · contradiction
  · exact (then_gives a (first a rfl)).holds surroundings after b given

theorem gives_anything (action : Action α) : Gives action fun _ => True :=
  ⟨fun _ _ _ _ => trivial⟩

end Action

/-! ## Actions on hosts -/

namespace HostAction

variable {σ α β : Type}

@[simp]
theorem perform_pure (a : α) (surroundings : Surroundings) (state : σ) (session : Session) :
    perform (pure a) surroundings state session = ((.ok a, state), session) :=
  rfl

/-- An action on a host is followed by the next one unless it fails. -/
@[simp]
theorem perform_bind (action : HostAction σ α) (next : α → HostAction σ β)
    (surroundings : Surroundings) (state : σ) (session : Session) :
    perform (action >>= next) surroundings state session =
      match action.perform surroundings state session with
      | ((.ok a, state), session) => (next a).perform surroundings state session
      | ((.error failure, state), session) => ((.error failure, state), session) := by
  simp only [perform, ReaderT.run_bind, ExceptT.run_bind, StateT.run_bind]
  rcases StateT.run (StateT.run (ExceptT.run (ReaderT.run action surroundings)) state) session with
    ⟨⟨_ | _, _⟩, _⟩ <;> rfl

@[simp]
theorem perform_map (f : α → β) (action : HostAction σ α) (surroundings : Surroundings)
    (state : σ) (session : Session) :
    perform (f <$> action) surroundings state session =
      (((action.perform surroundings state session).1.1.map f,
        (action.perform surroundings state session).1.2),
        (action.perform surroundings state session).2) := by
  rw [← bind_pure_comp, perform_bind]
  rcases action.perform surroundings state session with ⟨⟨_ | _, _⟩, _⟩ <;> rfl

@[simp]
theorem perform_throw (failure : Failure) (surroundings : Surroundings) (state : σ)
    (session : Session) :
    perform (throw failure : HostAction σ α) surroundings state session =
      ((.error failure, state), session) :=
  rfl

@[simp]
theorem perform_ofAction (action : Action α) (surroundings : Surroundings) (state : σ)
    (session : Session) :
    perform (ofAction action) surroundings state session =
      (((action.perform surroundings session).1, state),
        (action.perform surroundings session).2) :=
  rfl

@[simp]
theorem perform_state (surroundings : Surroundings) (held : σ) (session : Session) :
    perform state surroundings held session = ((.ok held, held), session) :=
  rfl

@[simp]
theorem perform_update (change : σ → σ) (surroundings : Surroundings) (state : σ)
    (session : Session) :
    perform (update change) surroundings state session = ((.ok (), change state), session) :=
  rfl

end HostAction

end OpcachePreload
