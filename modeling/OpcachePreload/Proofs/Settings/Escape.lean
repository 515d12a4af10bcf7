import OpcachePreload.Proofs.Settings.Abort
import OpcachePreload.Proofs.Settings.Read

/-!
# Settings that cannot be loaded

Which failures loading the settings of a configuration file can end with that do not count as faults
of the configuration.
-/

namespace OpcachePreload

open OpcachePreload.Action

namespace Settings

variable {library : SettingsLibrary} {files : FileTree} {directory : Location} {env : Environment}
  {path : Path} {failure : Failure} {given : List (Value × Value)}

/-- The failures of loading settings that do not count as faults of the configuration: nothing can
be read where the path of the file leads once the variables in it are replaced; a value in YAML
cannot be made for a cause that does not count as one of its content; a name is no text; a name is
an argument of the library that checks the settings, and the library fails for a cause that is no
fault of a value; or a count in a pattern is too large, whether the pattern comes from the file or
from variables. -/
inductive Escapes (library : SettingsLibrary) (env : Environment) (files : FileTree)
    (directory : Location) (path : Path) : Failure → Prop where
  | unanswered {fault : PathFault} (unanswered : files.probe directory path = .error fault) :
      Escapes library env files directory path (.unusablePath fault (toString path))
  | missing (absent : files.probe directory path = .ok none) :
      Escapes library env files directory path (.dataFileMissing (⟨.slash, directory⟩ / path))
  | directory (there : files.probe directory path = .ok (some .directory)) :
      Escapes library env files directory path (.dataFileIsDirectory (⟨.slash, directory⟩ / path))
  | unconstructed {bytes : List UInt8} {text : String} {fault : Yaml.Fault}
      (held : files.read directory path = .ok bytes) (yaml : DataFile.format? path = some .yaml)
      (unconstructed : DataFile.Unconstructed bytes text fault) :
      Escapes library env files directory path (.content (.yaml fault))
  | unnamed {given : List (Value × Value)} {entry : Value × Value}
      (gives : readGiven env files directory path = .ok given) (listed : entry ∈ given)
      (not_text : entry.1.isText = false) : Escapes library env files directory path .fieldNotText
  | argument {given : List (Value × Value)} {fault : ForeignFault}
      (gives : readGiven env files directory path = .ok given)
      (named : ∀ entry ∈ given, entry.1.isText = true)
      (among : hasArgument library given = true)
      (fails : library.make env directory files given = .error fault)
      (uncaught : (Failure.foreign fault).isConfiguration = false) :
      Escapes library env files directory path (.foreign fault)
  | uncountable {given fields : List (Value × Value)} {known : Variables} {pattern : String}
      (gives : readGiven env files directory path = .ok given)
      (named : ∀ entry ∈ given, entry.1.isText = true)
      (plain : hasArgument library given = false)
      (knows : readVariables env files directory = .ok known)
      (merged : mergedEntries env known given = .ok fields)
      (too_large : Uncountable fields "exclude" pattern ∨
        (∀ other, ¬Uncountable fields "exclude" other) ∧ Uncountable fields "preload" pattern) :
      Escapes library env files directory path (.pattern pattern .countTooLarge)

/-- Escaping failures do come of the file. -/
theorem Escapes.readFrom_eq (escapes : Escapes library env files directory path failure) :
    readFrom library env files directory path = .error failure := by
  cases escapes with
  | unanswered unanswered =>
      apply readFrom_of_unread
      rw [DataFile.read, unanswered]
  | missing absent =>
      apply readFrom_of_unread
      rw [DataFile.read, absent]
  | directory there =>
      apply readFrom_of_unread
      rw [DataFile.read, there]
  | unconstructed held yaml unconstructed =>
      apply readFrom_of_unread
      rw [DataFile.read, FileTree.probe_of_lookup (FileTree.lookup_of_read held)]
      dsimp only
      rw [yaml, DataFile.ofFormat, unconstructed.ofBytes_eq, mapError_error]
  | @unnamed given entry gives listed not_text =>
      have some_unnamed : (given.any fun entry => !entry.1.isText) = true :=
        List.any_eq_true.mpr ⟨entry, listed, by rw [not_text]; rfl⟩
      rw [readFrom_of_given gives, makeFrom, if_pos some_unnamed]
  | @argument given fault gives named among fails _ =>
      rw [readFrom_of_given gives, makeFrom_of_named named, if_pos among, fails, mapError_error]
  | @uncountable given fields known pattern gives named plain knows merged too_large =>
      have given_up : ofEntries env fields = .aborted pattern .countTooLarge :=
        ofEntries_eq_aborted_iff.mpr ⟨rfl, too_large⟩
      rw [readFrom_of_given gives, makeFrom_of_named named, if_neg (by simp [plain]), knows]
      change ofSources env known given = _
      rw [ofSources, merged]
      change (ofEntries env fields).result = _
      rw [given_up, Checked.result]

/-- A data file that cannot be read, for a cause that is no fault of a configuration. -/
theorem escapes_of_read (fails : DataFile.read files directory path = .error failure)
    (uncaught : failure.isConfiguration = false) :
    Escapes library env files directory path failure := by
  cases probed : files.probe directory path with
  | error fault =>
      rw [DataFile.read, probed] at fails
      obtain rfl := Except.error.inj fails
      exact .unanswered probed
  | ok found =>
      rcases found with _ | _ | bytes
      · rw [DataFile.read, probed] at fails
        obtain rfl := Except.error.inj fails
        exact .missing probed
      · rw [DataFile.read, probed] at fails
        obtain rfl := Except.error.inj fails
        exact .directory probed
      · rw [DataFile.read, probed] at fails
        dsimp only at fails
        cases known : DataFile.format? path with
        | none =>
            rw [known, DataFile.ofFormat] at fails
            obtain rfl := Except.error.inj fails
            cases uncaught
        | some format =>
            rw [known, DataFile.ofFormat] at fails
            obtain ⟨fault, made, rfl⟩ := mapError_eq_error_iff.mp fails
            obtain ⟨text, cause, rfl, rfl, unconstructed⟩ :=
              DataFile.exists_unconstructed made (ne_true_of_eq_false uncaught)
            exact .unconstructed (FileTree.read_of_probe probed) known unconstructed

theorem isConfiguration_of_readVariables
    (fails : readVariables env files directory = .error failure) :
    failure.isConfiguration = true := by
  unfold readVariables at fails
  split at fails
  · cases fails
  · split at fails
    · obtain rfl := Except.error.inj fails
      rfl
    · cases fails

theorem isConfiguration_of_mergedEntries {known : Variables}
    (fails : mergedEntries env known given = .error failure) : failure.isConfiguration = true := by
  rcases bind_eq_error_iff.mp fails with unread | ⟨_, _, fails⟩
  · obtain ⟨_, _, rfl⟩ := mapError_eq_error_iff.mp unread
    rfl
  · rcases bind_eq_error_iff.mp fails with unread | ⟨_, _, given⟩
    · obtain ⟨_, _, rfl⟩ := mapError_eq_error_iff.mp unread
      rfl
    · cases given

/-- The file gives no entries for a cause that is a fault of the configuration, unless the data file
itself cannot be read. -/
theorem readGiven_cases (fails : readGiven env files directory path = .error failure) :
    DataFile.read files directory path = .error failure ∨ failure.isConfiguration = true := by
  rcases bind_eq_error_iff.mp fails with unread | ⟨value, _, fails⟩
  · exact .inl unread
  rcases bind_eq_error_iff.mp fails with shapeless | ⟨entries, _, fails⟩
  · unfold entriesOf at shapeless
    split at shapeless
    · cases shapeless
    · split at shapeless
      · cases shapeless
      · obtain rfl := Except.error.inj shapeless
        exact .inr rfl
  rcases bind_eq_error_iff.mp fails with rootless | ⟨written, _, fails⟩
  · unfold writtenRoot at rootless
    dsimp only at rootless
    split at rootless
    · cases rootless
    · obtain rfl := Except.error.inj rootless
      exact .inr rfl
  · cases fails

theorem escapes_of_makeFrom (gives : readGiven env files directory path = .ok given)
    (fails : makeFrom library env files directory given = .error failure)
    (uncaught : failure.isConfiguration = false) :
    Escapes library env files directory path failure := by
  by_cases named : ∀ entry ∈ given, entry.1.isText = true
  · rw [makeFrom_of_named named] at fails
    split at fails
    · rename_i among
      obtain ⟨fault, made, rfl⟩ := mapError_eq_error_iff.mp fails
      exact .argument gives named among made uncaught
    rename_i plain
    rcases bind_eq_error_iff.mp fails with unknown | ⟨known, knows, fails⟩
    · simp [isConfiguration_of_readVariables unknown] at uncaught
    rcases bind_eq_error_iff.mp fails with unmerged | ⟨fields, merged, fails⟩
    · simp [isConfiguration_of_mergedEntries unmerged] at uncaught
    cases checked : ofEntries env fields with
    | valid settings => simp [checked, Checked.result] at fails
    | invalid faults =>
        rw [checked, Checked.result] at fails
        obtain rfl := Except.error.inj fails
        cases uncaught
    | aborted pattern rejection =>
        obtain ⟨rfl, too_large⟩ := ofEntries_eq_aborted_iff.mp checked
        rw [checked, Checked.result] at fails
        obtain rfl := Except.error.inj fails
        exact .uncountable gives named (eq_false_of_ne_true plain) knows merged too_large
  · simp only [not_forall] at named
    obtain ⟨entry, listed, not_text⟩ := named
    have not_text := eq_false_of_ne_true not_text
    have unnamed :
      Escapes library env files directory path .fieldNotText := .unnamed gives listed not_text
    have given_up := unnamed.readFrom_eq
    rw [readFrom_of_given gives, fails] at given_up
    obtain rfl := Except.error.inj given_up
    exact unnamed

/-- The failures that escape are those that do not count as faults of the configuration. -/
theorem escapes_iff :
    Escapes library env files directory path failure ↔
      readFrom library env files directory path = .error failure ∧
        failure.isConfiguration = false := by
  constructor
  · intro escapes
    refine ⟨escapes.readFrom_eq, ?_⟩
    cases escapes with
    | unanswered unanswered =>
        have not_absence := FileTree.not_isAbsence_of_probe unanswered
        rename_i fault
        cases fault <;> first | rfl | cases not_absence
    | unconstructed _ _ unconstructed => exact unconstructed.uncaught
    | argument _ _ _ _ uncaught => exact uncaught
    | missing | directory | unnamed | uncountable => rfl
  · rintro ⟨fails, uncaught⟩
    rcases bind_eq_error_iff.mp fails with ungiven | ⟨given, gives, fails⟩
    · rcases readGiven_cases ungiven with unread | caught
      · exact escapes_of_read unread uncaught
      · simp [caught] at uncaught
    · exact escapes_of_makeFrom gives fails uncaught

end Settings

end OpcachePreload
