import OpcachePreload.Proofs.Command.Configuration
import OpcachePreload.Proofs.Command.Outcome
import OpcachePreload.Proofs.Environment.Path
import OpcachePreload.Proofs.Settings.Environment

/-!
# Where a path may be written

The same text may name the manifest in the configuration or after an option, the class map, and a
file to list. An entry for a file is expanded once. The configuration expands its own paths when it
is loaded, and they are expanded again when they are used; after an option a path is read before it
is expanded.
-/

namespace OpcachePreload.Command

open OpcachePreload.Action
open OpcachePreload.Environment (Regular Settled)
open OpcachePreload.Settings (Fields Holds InOrder Kept given? resolveIn)

variable {surroundings : Surroundings} {files : FileTree} {context : Context} {settings : Settings}
  {entries : List (Value × Value)} {text : String}

/-! ## What the configuration sets -/

theorem yields_load_of_loadSettingsAt {path : Path}
    (yields : Yields surroundings files (loadSettingsAt path) (some settings)) :
    Yields surroundings files (Settings.load (some (toString path))) settings := by
  obtain ⟨session, held, given⟩ := yields
  rw [loadSettingsAt, perform_tryCatch, perform_map] at given
  rcases done : (Settings.load (some (toString path))).perform surroundings session with
    ⟨failure | loaded, after⟩
  · simp only [done, Except.map] at given
    split at given <;> cases given
  · simp only [done, Except.map] at given
    obtain rfl := Option.some.inj (Except.ok.inj given)
    exact ⟨session, held, congrArg Prod.fst done⟩

/-- The settings of a command are loaded from its configuration file. -/
theorem Loads.yields (loads : Loads surroundings files context settings) :
    Yields surroundings files
      (Settings.load (some (toString (configFile context surroundings.directory)))) settings := by
  obtain ⟨path, placed, loads⟩ :=
    (yields_of_outcome loads).parts (observes_configPath context).keeps_files
  obtain rfl : configFile context surroundings.directory = path := by
    obtain ⟨session, _, given⟩ := placed
    rw [perform_configPath] at given
    exact Except.ok.inj given
  obtain ⟨found, _, loads⟩ := loads.parts (observes_exists? _).keeps_files
  cases found with
  | true => exact yields_load_of_loadSettingsAt loads
  | false =>
      obtain ⟨_, _, given⟩ := loads
      cases given

/-- Settings that are loaded come of entries in which all that the configuration sets prevails, but
for the root. -/
theorem Loads.exists_fields (loads : Loads surroundings files context settings)
    (holds : Holds surroundings files (configSource surroundings context) entries)
    (ordered : ∀ root, InOrder surroundings.system.library (Settings.withRoot root entries)) :
    ∃ merged, Fields surroundings.environment merged settings ∧
      ∀ name ∈ Settings.fieldNames, name ≠ "root" → Kept entries merged name := by
  have place : Settings.placeOf surroundings.environment
      (some (toString (configFile context surroundings.directory))) =
        configSource surroundings context := by
    have named := isEmpty_configFile context surroundings.directory
    simp [Settings.placeOf, configSource, Option.filter, named]
  rw [← place] at holds
  obtain ⟨_, _, merged, fields, kept⟩ := Settings.comesOf_of_load holds ordered loads.yields
  exact ⟨merged, fields, fun name known differs => (kept name known).of_assign_root differs⟩

/-- A text that the configuration gives to a field for a path is expanded once. -/
theorem Loads.path_eq {name : String} {usual path : Path}
    (loads : Loads surroundings files context settings)
    (holds : Holds surroundings files (configSource surroundings context) entries)
    (ordered : ∀ root, InOrder surroundings.system.library (Settings.withRoot root entries))
    (known : name ∈ Settings.fieldNames) (differs : name ≠ "root")
    (checked : ∀ merged, Fields surroundings.environment merged settings →
      Settings.field merged name (Settings.expandedPath surroundings.environment) usual =
        .valid path)
    (set : given? entries name = some (.text text)) :
    path = surroundings.environment.path text := by
  obtain ⟨merged, fields, kept⟩ := loads.exists_fields holds ordered
  have expanded := (kept name known differs).check_eq
    (Settings.refusesMappings_expandedPath _) set (checked merged fields)
  exact (Settings.Checked.valid.inj expanded).symm

/-! ## What a build writes to -/

theorem target_build_iff {request : Build.Request} {path : Path}
    (asked : Build.Request.read {} context.arguments = .ok request)
    (written : request.dryRun = false)
    (loads : Loads surroundings files context settings) :
    Target surroundings files context .build path ↔
      path = resolveIn surroundings.environment settings.root
        (toString (request.output.getD settings.manifest)) := by
  constructor
  · rintro ⟨other_asked, _, other_loads⟩
    obtain rfl := Except.ok.inj (asked.symm.trans other_asked)
    obtain rfl := loads.unique other_loads
    rfl
  · rintro rfl
    exact .manifest asked written loads

/-- Words for a command make no difference to its configuration. -/
theorem Loads.withArguments (loads : Loads surroundings files context settings)
    (arguments : List String) : Loads surroundings files { context with arguments } settings :=
  loads

/-- A literal entry stands for what it means below the root. -/
theorem perform_pathsOf_of_literal (literal : Glob.isWildcard text = false) (settings : Settings)
    (surroundings : Surroundings) (session : Session) :
    (settings.pathsOf text).perform surroundings session =
      (.ok [resolveIn surroundings.environment settings.root text], session) := by
  rw [Settings.pathsOf, perform_bind, Settings.perform_resolve]
  simp only [literal]
  rfl

/-! ## One text in different places -/

/-- An entry for a file stands for what its text means below the root. As the manifest or the class
map of the configuration the same text is replaced a second time, and after an option it is read as
a path before it is replaced. It is the same path in all places if nothing is left to replace after
the first time, and if it can be read before. -/
theorem written_path_targets {configPath : Option String}
    (loads : Loads surroundings files { configPath } settings)
    (holds : Holds surroundings files (configSource surroundings { configPath }) entries)
    (ordered : ∀ root, InOrder surroundings.system.library (Settings.withRoot root entries))
    (text : String) :
    let env := surroundings.environment
    let once := resolveIn env settings.root text
    let twice := resolveIn env settings.root (toString (env.path text))
    let read_first := resolveIn env settings.root (toString (Path.ofString text))
    (given? entries "manifest" = some (.text text) → ∀ path,
        Target surroundings files { configPath } .build path ↔ path = twice) ∧
      (∀ option ∈ ["-o", "--output"], ∀ path,
        Target surroundings files { arguments := [option, text], configPath } .build path ↔
          path = read_first) ∧
      (given? entries "class_map" = some (.text text) → ∀ session,
        settings.loadClassMap.perform surroundings session =
          (ClassMap.ofCoded <$> ClassMap.load twice).perform surroundings session) ∧
      (Glob.isWildcard text = false → ∀ session,
        (settings.pathsOf text).perform surroundings session = (.ok [once], session)) ∧
      (Settled env (toString (env.path text)).toList → twice = once) ∧
      (Regular env text → read_first = once) := by
  intro env once twice read_first
  refine ⟨fun set path => ?_, fun option listed path => ?_, fun set session => ?_,
    fun literal => perform_pathsOf_of_literal literal settings surroundings,
    fun settled => congrArg (settings.root / ·) (Environment.path_path settled),
    fun regular => congrArg (settings.root / ·) regular.path_eq⟩
  · rw [target_build_iff rfl rfl loads]
    change path = resolveIn env settings.root (toString settings.manifest) ↔ path = twice
    rw [loads.path_eq holds ordered (by decide) (by decide) (fun _ fields => fields.manifest) set]
  · have asked :
      Build.Request.read {} [option, text] = .ok { output := some (.ofString text) } := by
      simp only [List.mem_cons, List.not_mem_nil, or_false] at listed
      rcases listed with rfl | rfl <;> rfl
    have loads : Loads surroundings files { arguments := [option, text], configPath } settings :=
      loads.withArguments [option, text]
    rw [target_build_iff asked rfl loads]
    rfl
  · rw [Settings.loadClassMap, perform_bind, Settings.perform_resolve,
      loads.path_eq holds ordered (by decide) (by decide) (fun _ fields => fields.classMap) set]

/-! ## A configuration with one text for both paths -/

/-- A directory with a configuration in which a text is both the manifest and the class map. -/
def filesNaming (text : String) : FileTree :=
  let configuration :=
    "\x7b\"manifest\": \"" ++ text ++ "\", \"class_map\": \"" ++ text ++ "\"\x7d"
  ⟨[(["srv"], .directory),
    (["srv", "preload.json"], .file (Text.Utf8.encode configuration.toList))]⟩

/-- That directory is the working directory, and some variables are set. -/
def surroundingsOf (known : List (String × String)) : Surroundings :=
  ⟨["srv"], .ofList known, .notFound, false, .ordinary⟩

/-- Whether entries give a text to a field. -/
def givesText (entries : List (Value × Value)) (field text : String) : Bool :=
  match given? entries field with
  | some (.text written) => written = text
  | _ => false

theorem given?_of_givesText {field : String} (gives : givesText entries field text = true) :
    given? entries field = some (.text text) := by
  unfold givesText at gives
  split at gives
  · rename_i found
    rw [found, of_decide_eq_true gives]
  · cases gives

/-- Entries that give a text to both paths, and hold no argument of the library. -/
structure Names (surroundings : Surroundings) (text : String) (entries : List (Value × Value)) :
    Prop where
  manifest : given? entries "manifest" = some (.text text)
  classMap : given? entries "class_map" = some (.text text)
  plain : Settings.hasArgument surroundings.system.library entries = false

/-- The entries that a file holds, where they give a text to both paths. -/
theorem exists_entries_of_any {place : Path}
    (given : ((DataFile.load place).outcome surroundings files >>=
      Settings.entriesOf place).toOption.any (fun entries =>
        givesText entries "manifest" text && givesText entries "class_map" text &&
          !Settings.hasArgument surroundings.system.library entries) = true) :
    ∃ entries, Holds surroundings files place entries ∧ Names surroundings text entries := by
  obtain ⟨entries, found, passes⟩ := Settings.exists_of_any given
  obtain ⟨value, reads, read⟩ := bind_eq_ok_iff.mp found
  obtain ⟨gives, plain⟩ := Bool.and_eq_true_iff.mp passes
  obtain ⟨manifest, class_map⟩ := Bool.and_eq_true_iff.mp gives
  exact ⟨entries, ⟨value, yields_of_outcome reads, read⟩, given?_of_givesText manifest,
    given?_of_givesText class_map, (Bool.not_eq_true' _).mp plain⟩

/-- A text with a variable and a piece that gives no name means the same path in all places. -/
theorem written_path_targets_of_variable :
    let surroundings := surroundingsOf [("DATA", "/var")]
    let files := filesNaming "$DATA/./m.json"
    let context : Context := { configPath := some "preload.json" }
    let target : Path := ⟨.slash, ["var", "m.json"]⟩
    let settings : Settings := { root := ⟨.slash, ["srv"]⟩, classMap := target, manifest := target }
    Loads surroundings files context settings ∧
      (∃ entries, Holds surroundings files (configSource surroundings context) entries ∧
        Names surroundings "$DATA/./m.json" entries) ∧
      (∀ path, Target surroundings files context .build path ↔ path = target) ∧
      (∀ path, Target surroundings files { context with arguments := ["-o", "$DATA/./m.json"] }
        .build path ↔ path = target) ∧
      (∀ session, settings.loadClassMap.perform surroundings session =
        (ClassMap.ofCoded <$> ClassMap.load target).perform surroundings session) ∧
      ∀ session, (settings.pathsOf "$DATA/./m.json").perform surroundings session =
        (.ok [target], session) := by
  intro surroundings files context target settings
  have loads : Loads surroundings files context settings := eq_ok_of_toOption (by decide +kernel)
  obtain ⟨entries, holds, names⟩ :
      ∃ entries, Holds surroundings files (configSource surroundings context) entries ∧
        Names surroundings "$DATA/./m.json" entries :=
    exists_entries_of_any (by decide +kernel)
  obtain ⟨manifest, output, classMap, file, settled, regular⟩ :=
    written_path_targets loads holds (Settings.inOrder_of_plain names.plain) "$DATA/./m.json"
  have settled := settled ⟨by decide +kernel, by decide +kernel⟩
  have regular := regular ⟨by decide +kernel, by decide +kernel, by decide +kernel⟩
  have aimed : resolveIn surroundings.environment settings.root "$DATA/./m.json" = target := by
    decide +kernel
  rw [settled, aimed] at manifest classMap
  rw [regular, aimed] at output
  rw [aimed] at file
  exact ⟨loads, ⟨entries, holds, names⟩, manifest names.manifest, output "-o" (by decide),
    classMap names.classMap, file (by decide)⟩

/-- A variable whose value has a variable is replaced with it in the configuration only. -/
theorem written_path_differs_by_place :
    let surroundings := surroundingsOf [("A", "$B"), ("B", "x")]
    let files := filesNaming "$A"
    let context : Context := { configPath := some "preload.json" }
    (∃ entries, Holds surroundings files (configSource surroundings context) entries ∧
        Names surroundings "$A" entries) ∧
      (∀ path, Target surroundings files context .build path ↔ path = ⟨.slash, ["srv", "x"]⟩) ∧
      (∀ path, Target surroundings files { context with arguments := ["-o", "$A"] } .build path ↔
        path = ⟨.slash, ["srv", "$B"]⟩) ∧
      ∃ settings, Loads surroundings files context settings ∧
        resolveIn surroundings.environment settings.root (toString settings.classMap) =
          ⟨.slash, ["srv", "x"]⟩ ∧
        ∀ session, (settings.pathsOf "$A").perform surroundings session =
          (.ok [⟨.slash, ["srv", "$B"]⟩], session) := by
  intro surroundings files context
  let settings : Settings :=
    { root := ⟨.slash, ["srv"]⟩, classMap := ⟨.relative, ["$B"]⟩, manifest := ⟨.relative, ["$B"]⟩ }
  have loads : Loads surroundings files context settings := eq_ok_of_toOption (by decide +kernel)
  have again : resolveIn surroundings.environment settings.root "$B" = ⟨.slash, ["srv", "x"]⟩ := by
    decide +kernel
  have once : resolveIn surroundings.environment settings.root "$A" = ⟨.slash, ["srv", "$B"]⟩ := by
    decide +kernel
  refine ⟨exists_entries_of_any (by decide +kernel), fun path => ?_,
    fun path => ?_, settings, loads, again, fun session => ?_⟩
  · rw [target_build_iff rfl rfl loads, ← again]
    rfl
  · rw [target_build_iff rfl rfl (loads.withArguments ["-o", "$A"]), ← once]
    rfl
  · rw [perform_pathsOf_of_literal (by decide), once]

end OpcachePreload.Command
