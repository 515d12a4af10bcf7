import OpcachePreload.Proofs.Action.Frame

/-!
# What an action gave

An action that gave a result did so by way of results of its parts. As long as the parts leave the
files alone, all of these are results on the same files.
-/

namespace OpcachePreload.Action

variable {α β : Type} {surroundings : Surroundings} {files : FileTree} {action : Action α}
  {next : α → Action β}

/-- An action that gives a result in some session with certain files. -/
def Yields (surroundings : Surroundings) (files : FileTree) (action : Action α) (a : α) : Prop :=
  ∃ session : Session, session.files = files ∧ (action.perform surroundings session).1 = .ok a

theorem yields_of_outcome {a : α} (given : action.outcome surroundings files = .ok a) :
    Yields surroundings files action a :=
  ⟨{ files }, rfl, given⟩

theorem Yields.parts {b : β} (yields : Yields surroundings files (action >>= next) b)
    (keeps : Keeps Session.files action) :
    ∃ a, Yields surroundings files action a ∧ Yields surroundings files (next a) b := by
  obtain ⟨session, held, given⟩ := yields
  have kept := keeps surroundings session
  rw [perform_bind] at given
  rcases done : action.perform surroundings session with ⟨failure | a, between⟩ <;>
    rw [done] at given kept
  · cases given
  · exact ⟨a, ⟨session, held, congrArg Prod.fst done⟩, between, kept.trans held, given⟩

theorem not_yields_fail {failure : Failure} {a : α} :
    ¬ Yields surroundings files (fail failure) a := by
  rintro ⟨session, _, given⟩
  cases given

theorem not_yields_fail_bind {failure : Failure} {b : β} :
    ¬ Yields surroundings files ((fail failure : Action α) >>= next) b := by
  rintro ⟨session, _, given⟩
  cases given

theorem Yields.of_read {found : Surroundings} (yields : Yields surroundings files read found) :
    found = surroundings := by
  obtain ⟨_, _, given⟩ := yields
  exact (Except.ok.inj given).symm

theorem Yields.of_expanded {text : String} {path : Path}
    (yields : Yields surroundings files (expanded text) path) :
    path = surroundings.environment.path text := by
  obtain ⟨_, _, given⟩ := yields
  exact (Except.ok.inj given).symm

theorem Yields.of_absolute {path whole : Path}
    (yields : Yields surroundings files (absolute path) whole) :
    whole = ⟨.slash, surroundings.directory⟩ / path := by
  obtain ⟨_, _, given⟩ := yields
  exact (Except.ok.inj given).symm

theorem Yields.of_ofExcept {ε : Type} {failure : ε → Failure} {result : Except ε α} {a : α}
    (yields : Yields surroundings files (ofExcept failure result) a) : result = .ok a := by
  obtain ⟨_, _, given⟩ := yields
  rw [perform_ofExcept] at given
  exact mapError_eq_ok_iff.mp given

theorem Yields.of_readBytes {path : Path} {bytes : List UInt8}
    (yields : Yields surroundings files (readBytes path) bytes) :
    files.read surroundings.directory path = .ok bytes := by
  obtain ⟨session, rfl, given⟩ := yields
  rw [readBytes, perform_ask] at given
  exact mapError_eq_ok_iff.mp given

end OpcachePreload.Action
