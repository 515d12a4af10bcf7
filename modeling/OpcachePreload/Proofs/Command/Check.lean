import OpcachePreload.Proofs.Command.Outcome
import OpcachePreload.Proofs.Probe

/-!
# Checks that fail

What the command that checks a PHP binary makes of a fault of the environment: it prints the wording
of the fault, and ends with the status of a failure. Other failures come through.
-/

namespace OpcachePreload

open OpcachePreload.Action
open OpcachePreload.Text (IsLine)

namespace Probe

variable {probe : Probe} {outcome : ProcessOutcome} {failure : Failure} {fault : EnvironmentFault}

/-- A fault of asking a binary tells the name of the binary only. -/
theorem names_of_capabilitiesOf
    (fails : probe.capabilitiesOf outcome = .error (.environment fault)) :
    fault.names = [probe.binary] := by
  unfold capabilitiesOf at fails
  rcases bind_eq_error_iff.mp fails with unprinted | ⟨output, _, unread⟩
  · unfold Probe.output at unprinted
    split at unprinted
    · split at unprinted <;> cases unprinted
      rfl
    · cases unprinted
      rfl
    · cases unprinted
      rfl
    · cases unprinted
    · cases unprinted
  · rcases bind_eq_error_iff.mp unread with unread | ⟨entries, _, given⟩
    · unfold settings at unread
      split at unread <;> cases unread
      rfl
    · cases given

theorem verdict_of_capabilitiesOf (fails : probe.capabilitiesOf outcome = .error failure) :
    probe.verdict outcome = .error failure := by
  rw [verdict, fails]
  rfl

end Probe

namespace Command.Check

variable {interpreter : Module.Interpreter} {surroundings : Surroundings} {session : Session}
  {context : Context} {loader : Settings.Loader}

/-- What becomes of a fault that is reported in a session after which the binary was started: it is
printed in a line, and the status is that of a failure, unless the output does not take the line. -/
def reporting (session : Session) (fault : EnvironmentFault) : Except Failure Status × Session :=
  if session.takes session.printed (fault.message ++ "\n") then
    (.ok failed, session.printing (fault.message ++ "\n"))
  else (.error (.notPrinted (fault.message ++ "\n")), session)

theorem perform_run_of_fault {fault : EnvironmentFault} (scripted : loader.runtime = .script)
    (fails : loader.probe.verdict surroundings.process = .error (.environment fault)) :
    (run interpreter loader).perform surroundings session =
      reporting { session with started := session.started ++ [loader.probe.command] } fault := by
  rw [run, perform_tryCatch, perform_bind, perform_checkHost scripted, fails]
  dsimp only
  generalize ({ session with started := _ } : Session) = asked
  rw [perform_bind, print, perform_printText, reporting]
  cases asked.takes asked.printed (fault.message ++ "\n") <;> rfl

/-- The loader settings with the host that is asked for. -/
def chosen (name : Option String) (loader : Settings.Loader) : Option Settings.Loader :=
  match name with
  | none => some loader
  | some name => (Settings.HostKind.ofName? name).map fun runtime => { loader with runtime }

/-- The command comes to check certain loader settings. -/
def Comes (surroundings : Surroundings) (files : FileTree) (context : Context)
    (loader : Settings.Loader) : Prop :=
  ∃ name loaded, readRuntime none context.arguments = .ok name ∧
    (loaderSettings context).outcome surroundings files = .ok (some loaded) ∧
    chosen name loaded = some loader

theorem Comes.perform_execute (comes : Comes surroundings session.files context loader) :
    ∃ records, (execute interpreter context).perform surroundings session =
      (run interpreter loader).perform surroundings { session with records } := by
  obtain ⟨name, loaded, asked, settled, given⟩ := comes
  obtain ⟨records, performed⟩ :=
    (observes_loaderSettings context).perform_eq surroundings session
  rw [settled] at performed
  refine ⟨records, ?_⟩
  rw [execute, asked]
  simp only [perform_bind, performed]
  cases name with
  | none =>
      obtain rfl := Option.some.inj given
      rfl
  | some name =>
      simp only [chosen] at given
      cases known : Settings.HostKind.ofName? name with
      | none => simp [known] at given
      | some runtime =>
          rw [known] at given
          obtain rfl := Option.some.inj given
          simp only [known]

/-- A binary that fails to tell its capabilities fails with a fault of the environment, but for the
failures that escape, and those do come of it. The command prints the wording of the fault, which is
a single line if the name of the binary is, and ends with the status of a failure; but with an
output that does not take it the command fails. -/
theorem failed_probe_is_reported (probe : Probe) (outcome : ProcessOutcome)
    (uninterrupted : outcome ≠ .interrupted) :
    probe.Reported outcome (probe.capabilitiesOf outcome) ∧
      ∀ failure, probe.capabilitiesOf outcome = .error failure →
        ¬probe.Escapes outcome failure →
          ∃ fault, failure = .environment fault ∧ (IsLine probe.binary → IsLine fault.message) ∧
            ∀ interpreter context surroundings session (loader : Settings.Loader),
              surroundings.process = outcome → Comes surroundings session.files context loader →
              loader.runtime = .script → loader.probe = probe →
                ∃ records, (execute interpreter context).perform surroundings session =
                  if session.takes session.printed (fault.message ++ "\n") then
                    (.ok 1,
                      { session with
                        records
                        started := session.started ++ [probe.command]
                        printed := session.printed ++ [fault.message ++ "\n"] })
                  else (.error (.notPrinted (fault.message ++ "\n")),
                    { session with records, started := session.started ++ [probe.command] }) := by
  have reported := probe.reported_capabilitiesOf uninterrupted
  refine ⟨reported, fun failure fails not_escaping => ?_⟩
  obtain ⟨fault, rfl⟩ := (reported.error failure fails).resolve_right not_escaping
  refine ⟨fault, rfl, fun line => EnvironmentFault.isLine_message ?_, ?_⟩
  · rw [Probe.names_of_capabilitiesOf fails, List.forall_mem_singleton]
    exact line
  · intro interpreter context surroundings session loader same comes scripted asked
    obtain ⟨records, performed⟩ := comes.perform_execute
    have judged : loader.probe.verdict surroundings.process = .error (.environment fault) := by
      rw [asked, same]
      exact Probe.verdict_of_capabilitiesOf fails
    refine ⟨records, ?_⟩
    rw [performed, perform_run_of_fault scripted judged, asked]
    rfl

/-- Without a PHP binary and without a configuration, the command says that the binary is not there.
-/
theorem failed_probe_is_reported_of_notFound :
    Probe.capabilitiesOf {} .notFound = .error (.environment (.binaryNotFound "php")) ∧
      ∃ records, (execute Module.sources {}).perform ⟨[], .empty, .notFound, false, .ordinary⟩
          { files := .empty } =
        (.ok 1,
          { files := .empty
            records
            started := [Probe.command {}]
            printed := ["PHP binary php was not found.\n"] }) := by
  have fails : Probe.capabilitiesOf {} .notFound = .error (.environment (.binaryNotFound "php")) :=
    rfl
  obtain ⟨_, reported⟩ := failed_probe_is_reported {} .notFound nofun
  obtain ⟨fault, same, _, printed⟩ := reported _ fails nofun
  obtain rfl := Failure.environment.inj same
  exact ⟨fails, printed Module.sources {} ⟨[], .empty, .notFound, false, .ordinary⟩
    { files := .empty } {} rfl ⟨none, {}, rfl, rfl, rfl⟩ rfl rfl⟩

/-- A binary that ends well and prints an array fails to tell its capabilities, and with no fault of
the environment. -/
theorem capabilitiesOf_emptyArray :
    Probe.capabilitiesOf {} (.finished "[]" 0) = .error (.replyKind "list") ∧
      ¬((∃ capabilities, Probe.capabilitiesOf {} (.finished "[]" 0) = .ok capabilities) ∨
        ∃ fault, Probe.capabilitiesOf {} (.finished "[]" 0) = .error (.environment fault)) := by
  have fails : Probe.capabilitiesOf {} (.finished "[]" 0) = .error (.replyKind "list") :=
    (Probe.reported_finished {} "[]").escapes _ (.notAnObject Json.spelledText_emptyArray nofun)
  refine ⟨fails, ?_⟩
  rw [fails]
  simp

end Command.Check

end OpcachePreload
