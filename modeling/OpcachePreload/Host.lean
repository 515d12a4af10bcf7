import OpcachePreload.Action.Basic

/-!
# Hosts

A host is what preloaded files are handed to. It has a state of its own, which stays changed when it
fails later on. It loads files once, compiles files without running them, and reports its
capabilities.
-/

namespace OpcachePreload

/-- An action that also changes the state of a host. -/
abbrev HostAction (σ α : Type) :=
  ReaderT Surroundings (ExceptT Failure (StateT σ (StateM Session))) α

namespace HostAction

variable {σ α : Type}

/-- Do an action on a host: what comes of it, the state and the session after it. -/
def perform (action : HostAction σ α) (surroundings : Surroundings) (state : σ)
    (session : Session) : (Except Failure α × σ) × Session :=
  (((action.run surroundings).run).run state).run session

/-- An action that leaves the state of the host alone. -/
def ofAction (action : Action α) : HostAction σ α := fun surroundings =>
  ExceptT.mk fun state session =>
    let (result, session) := action.perform surroundings session
    ((result, state), session)

/-- Change the state of the host. -/
def update (change : σ → σ) : HostAction σ Unit := fun _ =>
  ExceptT.mk fun state session => ((.ok (), change state), session)

/-- The state of the host. -/
def state : HostAction σ σ := fun _ =>
  ExceptT.mk fun state session => ((.ok state, state), session)

end HostAction

/-- What preloaded files are handed to. -/
structure Host (σ : Type) where
  /-- Load a file once. One that is not required may be missing. -/
  load : (file : String) → (required : Bool) → HostAction σ Unit
  /-- Compile a file without running it. -/
  compile : (file : String) → HostAction σ Unit
  /-- What the host can do. -/
  capabilities : HostAction σ Capabilities

end OpcachePreload
