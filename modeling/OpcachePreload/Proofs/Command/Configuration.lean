import OpcachePreload.Command.Context
import OpcachePreload.Proofs.Path.Text
import OpcachePreload.Proofs.Settings.Escape
import OpcachePreload.Proofs.Settings.Root

/-!
# Configurations that cannot be used

What comes of the configuration file of a command. A fault of the configuration is noted, and the
command goes without settings; the session is not changed in any other way.
-/

namespace OpcachePreload

open OpcachePreload.Action

variable {surroundings : Surroundings} {session : Session} {path : Path} {bytes : List UInt8}

/-- The text of a path that is read is not empty. -/
theorem Path.Proper.isEmpty_toString (proper : path.Proper) : (toString path).isEmpty = false := by
  rw [String.isEmpty_eq_false_iff]
  intro empty
  have same := Path.ofString_toString proper
  rw [empty] at same
  rw [← same] at empty
  exact absurd empty (by decide)

theorem Action.perform_exists?_of_read
    (held : session.files.read surroundings.directory path = .ok bytes) :
    (exists? path).perform surroundings session = (.ok true, session) := by
  rw [exists?, perform_bind, perform_find_of_read held]
  rfl

namespace Command

/-- The configuration file of a command. -/
def configFile (context : Context) (directory : Location) : Path :=
  match context.configPath.filter (!·.isEmpty) with
  | some text => .ofString text
  | none => (⟨.slash, directory⟩ : Path) / .ofString Settings.fileName

theorem perform_configPath (context : Context) (surroundings : Surroundings) (session : Session) :
    (configPath context).perform surroundings session =
      (.ok (configFile context surroundings.directory), session) := by
  unfold configPath configFile
  cases context.configPath.filter (!·.isEmpty) <;> rfl

theorem isEmpty_configFile (context : Context) (directory : Location) :
    (toString (configFile context directory)).isEmpty = false := by
  unfold configFile
  cases context.configPath.filter (!·.isEmpty) with
  | some text => exact (Path.proper_ofString text).isEmpty_toString
  | none => exact Path.isEmpty_toString rfl

/-- The path that a configuration file is read from: variables in its path are replaced once more.
-/
def configSource (surroundings : Surroundings) (context : Context) : Path :=
  surroundings.environment.path (toString (configFile context surroundings.directory))

/-- The record of a configuration that cannot be used. -/
def invalidConfiguration (path : Path) : Record :=
  ⟨.error, "Invalid configuration " ++ toString path, none⟩

/-- The configuration file of a command is there. What comes of it is noted if it is a fault of the
configuration. -/
theorem perform_loadSettings_of_read (context : Context)
    (held : session.files.read surroundings.directory
      (configFile context surroundings.directory) = .ok bytes) :
    (loadSettings context).perform surroundings session =
      match Settings.readFrom surroundings.system.library surroundings.environment session.files
          surroundings.directory (configSource surroundings context) with
      | .ok settings => (.ok (some settings), session)
      | .error failure =>
        if failure.isConfiguration then
          (.ok none,
            session.noting (invalidConfiguration (configFile context surroundings.directory)))
        else (.error failure, session) := by
  have named := isEmpty_configFile context surroundings.directory
  simp only [loadSettings, perform_bind, perform_configPath, perform_exists?_of_read held, if_true,
    loadSettingsAt, perform_tryCatch, perform_map, Settings.perform_load named, configSource]
  cases Settings.readFrom surroundings.system.library surroundings.environment session.files
      surroundings.directory
        (surroundings.environment.path (toString (configFile context surroundings.directory))) with
  | ok settings => rfl
  | error failure =>
      simp only [Except.map]
      split <;> rfl

/-- The failures that a command does not note when it loads its configuration. -/
abbrev Escapes (surroundings : Surroundings) (files : FileTree) (context : Context) :
    Failure → Prop :=
  Settings.Escapes surroundings.system.library surroundings.environment files surroundings.directory
    (configSource surroundings context)

/-- Where the configuration file of a command is there, loading it gives settings or notes, in one
record and in no other way, that the configuration cannot be used, but for the failures that escape,
and those do come of it. -/
theorem bad_configuration_is_reported (context : Context) (surroundings : Surroundings)
    (session : Session) (bytes : List UInt8)
    (held : session.files.read surroundings.directory
      (configFile context surroundings.directory) = .ok bytes) :
    ∃ result after, (loadSettings context).perform surroundings session = (result, after) ∧
      ((∃ settings, result = .ok (some settings) ∧ after = session) ∨
        (result = .ok none ∧ after = session.noting
          ⟨.error, "Invalid configuration " ++
            toString (configFile context surroundings.directory), none⟩) ∨
        ∃ failure, Escapes surroundings session.files context failure ∧ result = .error failure ∧
          after = session) ∧
      ∀ failure, Escapes surroundings session.files context failure → result = .error failure := by
  rw [perform_loadSettings_of_read context held]
  have escapes_iff {failure : Failure} :
      Escapes surroundings session.files context failure ↔
        Settings.readFrom surroundings.system.library surroundings.environment session.files
          surroundings.directory (configSource surroundings context) = .error failure ∧
            failure.isConfiguration = false :=
    Settings.escapes_iff
  cases read : Settings.readFrom surroundings.system.library surroundings.environment session.files
      surroundings.directory (configSource surroundings context) with
  | ok settings =>
      refine ⟨_, _, rfl, .inl ⟨settings, rfl, rfl⟩, fun failure escapes => ?_⟩
      have fails := (escapes_iff.mp escapes).1
      rw [read] at fails
      cases fails
  | error failure =>
      by_cases caught : failure.isConfiguration = true
      · simp only [if_pos caught]
        refine ⟨_, _, rfl, .inr (.inl ⟨rfl, rfl⟩), fun other escapes => ?_⟩
        obtain ⟨fails, uncaught⟩ := escapes_iff.mp escapes
        obtain rfl := Except.error.inj (read.symm.trans fails)
        simp [caught] at uncaught
      · simp only [if_neg caught]
        have escapes := escapes_iff.mpr ⟨read, eq_false_of_ne_true caught⟩
        refine ⟨_, _, rfl, .inr (.inr ⟨failure, escapes, rfl, rfl⟩), fun other escapes => ?_⟩
        exact congrArg _ (Except.error.inj (read.symm.trans (escapes_iff.mp escapes).1))

/-- A configuration file that holds a word with the tag of truth values. -/
theorem bad_configuration_is_reported_of_taggedWord :
    (Session.holding "preload.yaml" (Text.Utf8.encode "!!bool maybe".toList)).files.read []
        (configFile {} []) = .ok (Text.Utf8.encode "!!bool maybe".toList) ∧
      ((loadSettings {}).perform ⟨[], .empty, .notFound, false, .ordinary⟩
        (.holding "preload.yaml" (Text.Utf8.encode "!!bool maybe".toList))).1 =
          .error (.content (.yaml (.notABoolean "maybe"))) := by
  have held : (Session.holding "preload.yaml"
      (Text.Utf8.encode "!!bool maybe".toList)).files.read [] (configFile {} []) =
        .ok (Text.Utf8.encode "!!bool maybe".toList) := rfl
  obtain ⟨result, after, performed, _, escape⟩ := bad_configuration_is_reported {}
    ⟨[], .empty, .notFound, false, .ordinary⟩
    (.holding "preload.yaml" (Text.Utf8.encode "!!bool maybe".toList)) _ held
  refine ⟨held, ?_⟩
  rw [performed]
  exact escape _ (.unconstructed held (by decide) DataFile.unconstructed_taggedWord)

/-- A configuration file in which a name is a number makes loading it fail, and nothing is noted. -/
theorem loadSettings_of_numberedEntry :
    (Session.holding "preload.yaml" (Text.Utf8.encode "1: x".toList)).files.read []
        (configFile {} []) = .ok (Text.Utf8.encode "1: x".toList) ∧
      (loadSettings {}).perform ⟨[], .empty, .notFound, false, .ordinary⟩
        (.holding "preload.yaml" (Text.Utf8.encode "1: x".toList)) =
          (.error .fieldNotText, .holding "preload.yaml" (Text.Utf8.encode "1: x".toList)) ∧
      ¬∃ settings?, ((loadSettings {}).perform ⟨[], .empty, .notFound, false, .ordinary⟩
        (.holding "preload.yaml" (Text.Utf8.encode "1: x".toList))).1 = .ok settings? := by
  have held : (Session.holding "preload.yaml" (Text.Utf8.encode "1: x".toList)).files.read []
      (configFile {} []) = .ok (Text.Utf8.encode "1: x".toList) := rfl
  have fails : (loadSettings {}).perform ⟨[], .empty, .notFound, false, .ordinary⟩
      (.holding "preload.yaml" (Text.Utf8.encode "1: x".toList)) =
        (.error .fieldNotText, .holding "preload.yaml" (Text.Utf8.encode "1: x".toList)) := by
    have made : DataFile.ofBytes .yaml (Text.Utf8.encode "1: x".toList) =
        .ok (.mapping [(.int 1, .text "x")]) := by
      rw [DataFile.ofBytes, Action.textOfBytes_encode (by decide)]
      change DataFile.valueOf .yaml "1: x" = _
      rw [DataFile.valueOf, if_neg (by decide), DataFile.parse,
        Yaml.read_numberedEntry, mapError_ok]
    have read :
      DataFile.read (Session.holding "preload.yaml" (Text.Utf8.encode "1: x".toList)).files
        [] (configFile {} []) = .ok (.mapping [(.int 1, .text "x")]) := by
      rw [DataFile.read, FileTree.probe_of_lookup (FileTree.lookup_of_read held)]
      dsimp only
      rw [show DataFile.format? (configFile {} []) = some .yaml by decide, DataFile.ofFormat, made,
        mapError_ok]
    have gives : Settings.readGiven .empty
        (Session.holding "preload.yaml" (Text.Utf8.encode "1: x".toList)).files []
          (configFile {} []) =
          .ok [(.int 1, .text "x"), (.text "root", .text "/")] := by
      rw [Settings.readGiven, read]
      rfl
    have escapes : Escapes ⟨[], .empty, .notFound, false, .ordinary⟩
        (Session.holding "preload.yaml" (Text.Utf8.encode "1: x".toList)).files {} .fieldNotText :=
      .unnamed gives List.mem_cons_self rfl
    rw [perform_loadSettings_of_read {} held, escapes.readFrom_eq]
    rfl
  refine ⟨held, fails, ?_⟩
  rw [fails]
  simp

end Command

end OpcachePreload
