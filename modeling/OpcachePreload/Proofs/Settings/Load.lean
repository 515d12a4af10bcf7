import OpcachePreload.Command.Context
import OpcachePreload.Project
import OpcachePreload.Proofs.Settings.Expand

/-!
# Loading only observes

Loading data files, settings, class maps and manifests changes nothing but the log, and what is
loaded depends on the files alone.
-/

namespace OpcachePreload

open OpcachePreload.Action

theorem DataFile.observes_load (path : Path) : Observes (load path) := by
  refine (observes_find path).bind fun found => ?_
  rcases found with _ | _ | _
  · exact (observes_absolute path).bind fun _ => observes_fail _
  · exact (observes_absolute path).bind fun _ => observes_fail _
  · dsimp only
    split
    · exact observes_fail _
    · exact (observes_readText path).bind fun _ => observes_ofExcept _ _

theorem Manifest.observes_load (path : Path) : Observes (load path) :=
  (observes_readBytes path).bind fun _ => observes_ofExcept _ _

/-! ## Class maps -/

namespace ClassMap

theorem observes_firstFile (paths : List Path) : Observes (firstFile paths) := by
  induction paths with
  | nil => exact observes_pure none
  | cons path rest ih =>
      refine (observes_isFile path).bind fun found => ?_
      cases found with
      | true => exact observes_pure _
      | false => exact ih

theorem observes_locate (path : Path) : Observes (locate path) := by
  refine (observes_isDirectory path).bind fun directory => ?_
  cases directory with
  | true =>
      refine (observes_firstFile _).bind fun found => ?_
      cases found with
      | none => exact observes_fail _
      | some file => exact observes_pure file
  | false => exact observes_pure path

theorem observes_loadData (path : Path) : Observes (loadData path) :=
  ((DataFile.observes_load path).tryCatch fun _ => observes_fail _).bind fun _ =>
    observes_ofExcept _ _

theorem observes_loadFile (path : Path) : Observes (loadFile path) := by
  unfold loadFile
  split
  · exact observes_loadData path
  split
  · exact (observes_readText path).bind fun _ => (observes_absolute path).bind fun _ =>
      (observes_ofExcept _ _).map coded
  · exact observes_fail _

theorem observes_load (path : Path) : Observes (load path) := by
  refine (observes_locate path).bind fun file => (observes_isFile file).bind fun found => ?_
  have rest : Observes (do
      let map ← loadFile file
      Action.info ("Loaded " ++ toString map.size ++ " class(es) from " ++ toString file)
      return map) :=
    (observes_loadFile file).bind fun _ => (observes_note _).bind fun _ => observes_pure _
  cases found with
  | true => exact rest
  | false => exact (observes_fail _).bind fun _ => rest

end ClassMap

/-! ## Settings -/

namespace Settings

variable (settings : Settings)

theorem observes_fileVariables : Observes fileVariables := by
  refine (observes_isFile variableFile).bind fun found => ?_
  cases found with
  | true =>
      exact (observes_readText variableFile).bind fun _ => observes_read.bind fun _ =>
        observes_pure _
  | false => exact observes_pure _

theorem perform_makeByLibrary (given : List (Value × Value)) (surroundings : Surroundings)
    (session : Session) :
    (makeByLibrary given).perform surroundings session =
      ((surroundings.system.library.make surroundings.environment surroundings.directory
        session.files given).mapError .foreign, session) := by
  simp only [makeByLibrary, perform_bind, perform_read, perform_get, perform_ofExcept]

theorem observes_makeByLibrary (given : List (Value × Value)) : Observes (makeByLibrary given) := by
  refine ⟨fun surroundings files => ⟨(surroundings.system.library.make surroundings.environment
    surroundings.directory files given).mapError .foreign, ?_⟩⟩
  rintro session rfl
  exact ⟨session.records, perform_makeByLibrary given surroundings session⟩

theorem observes_make (given : List (Value × Value)) : Observes (make given) := by
  unfold make
  have sources : Observes (do
      let file ← fileVariables
      Action.ofExcept id (ofSources (← read).environment file given)) :=
    observes_fileVariables.bind fun _ => observes_read.bind fun _ => observes_ofExcept _ _
  have rest : Observes (do
      if hasArgument (← read).system.library given then makeByLibrary given
      else
        let file ← fileVariables
        Action.ofExcept id (ofSources (← read).environment file given)) :=
    observes_read.bind fun _ => (observes_makeByLibrary given).ite sources
  split
  · exact (observes_fail _).bind fun _ => rest
  · exact rest

theorem observes_load (path : Option String) : Observes (load path) :=
  (observes_expanded _).bind fun _ => (DataFile.observes_load _).bind fun _ =>
    (observes_ofExcept _ _).bind fun _ => (observes_ofExcept _ _).bind fun _ =>
      (observes_expanded _).bind fun _ => (observes_absolute _).bind fun _ => observes_make _

@[simp]
theorem perform_resolve (text : String) (surroundings : Surroundings) (session : Session) :
    (settings.resolve text).perform surroundings session =
      (.ok (resolveIn surroundings.environment settings.root text), session) :=
  rfl

theorem observes_loadClassMap : Observes settings.loadClassMap :=
  (settings.observes_resolve _).bind fun path => (ClassMap.observes_load path).bind fun _ =>
    observes_pure _

theorem observes_manifestPath (output : Option Path) : Observes (settings.manifestPath output) :=
  settings.observes_resolve _

end Settings

namespace Command

theorem observes_configPath (context : Context) : Observes (configPath context) := by
  unfold configPath
  split
  · exact observes_pure _
  · exact observes_workingDirectory.bind fun _ => observes_pure _

theorem observes_loadSettingsAt (path : Path) : Observes (loadSettingsAt path) := by
  refine ((Settings.observes_load _).map some).tryCatch fun failure => ?_
  split
  · exact (observes_note _).bind fun _ => observes_pure none
  · exact observes_fail failure

/-- Loading the configuration of a command. -/
theorem observes_loadSettings (context : Context) : Observes (loadSettings context) := by
  refine (observes_configPath context).bind fun path => (observes_exists? path).bind fun found => ?_
  cases found with
  | true => exact observes_loadSettingsAt path
  | false => exact (observes_note _).bind fun _ => observes_pure none

end Command

end OpcachePreload
