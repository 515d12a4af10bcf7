import OpcachePreload.Project
import OpcachePreload.Proofs.Builder.Run
import OpcachePreload.Proofs.Pattern.Literal
import OpcachePreload.Proofs.Settings.Accepted
import OpcachePreload.Proofs.Settings.Expand

/-!
# What the builder of a project lists

Building is described without a builder. The settings name candidates, one source of them after the
other; a candidate is wanted if the class map knows it and nothing in the settings excludes it. The
manifest lists the first occurrences of the wanted candidates, and the files that the settings name.

Building does its steps on a builder that changes. This file proves that it gives what the
description gives, and that it fails as the description fails.
-/

namespace OpcachePreload.Settings

open OpcachePreload.Action
open Builder (occurs turns)

/-! ## The description -/

/-- What entries stand for, as far as that can be told. -/
def expansion (settings : Settings) (surroundings : Surroundings) (files : FileTree)
    (entries : List String) : Except Failure (List Path) :=
  ((settings.expand entries).perform surroundings { files }).1

/-- The classes that the settings name by pattern and by namespace. -/
def selected (settings : Settings) (classMap : ClassMap) : List String :=
  (settings.preload.flatMap fun pattern => classMap.keys.filter (occurs pattern)) ++
    settings.preloadNamespaces.flatMap fun name =>
      classMap.keys.filter (ClassName.isWithin [name])

/-- The classes that files name: what is used as a type in some, then what others import. -/
def scanned (read : SourceReader) (types imports : List Path) : Except Failure (List String) := do
  let typeTexts ← types.mapM read
  let importTexts ← imports.mapM read
  return typeTexts.flatMap Usage.typeNames ++ importTexts.flatMap Usage.importedNames

/-- All names that are considered, given those that were found in files. -/
def candidates (settings : Settings) (classMap : ClassMap) (found : List String) : List String :=
  (settings.selected classMap ++ found).map ClassName.stripSeparator

/-- Whether the settings hold a name back. -/
def excludes (settings : Settings) (name : String) : Bool :=
  settings.exclude.any (occurs · name) ||
    settings.excludeNamespaces.any (ClassName.isWithin [·] name)

/-- Whether a name is known and not held back. -/
def wants (settings : Settings) (classMap : ClassMap) (name : String) : Bool :=
  !settings.excludes name && classMap.contains name

/-- The manifest that the settings describe. -/
def described (settings : Settings) (classMap : ClassMap) (surroundings : Surroundings)
    (files : FileTree) : Except Failure Manifest := do
  let types ← settings.expansion surroundings files settings.scan.types
  let imports ← settings.expansion surroundings files settings.scan.imports
  let found ← scanned (files.sourceText surroundings.directory) types imports
  let listed ← settings.expansion surroundings files settings.files
  let targets ← settings.expansion surroundings files settings.compile
  return {
    classes := ((settings.candidates classMap found).filter (settings.wants classMap)).eraseDups
    files := listed.map toString
    compile := targets.map toString }

theorem wants_iff {settings : Settings} {classMap : ClassMap} {name : String} :
    settings.wants classMap name = true ↔
      settings.excludes name = false ∧ name ∈ classMap.keys := by
  simp [wants, OrderedMap.contains]

variable {settings : Settings} {classMap : ClassMap} {surroundings : Surroundings}
  {files : FileTree} {builder : Builder}

/-! ## Exclusions and patterns -/

/-- The pattern of a namespace occurs in the names within it. -/
theorem occurs_startsWithNamespace (parts : List String) :
    occurs (ClassName.startsWithNamespace parts) = ClassName.isWithin parts := by
  funext name
  rw [Builder.occurs_of_ok (ClassName.compile_startsWithNamespace parts)]
  exact ClassName.occursIn_namespace parts name

/-- The exclusions are those of patterns. -/
theorem exclusions_eq (settings : Settings) :
    settings.exclusions = (settings.exclude ++ settings.excludeNamespaces.map fun name =>
      ClassName.startsWithNamespace [name]).map .exclude := by
  rw [exclusions, List.map_append, List.map_map]
  rfl

theorem offers_registrations (settings : Settings) (classMap : ClassMap) (read : SourceReader) :
    settings.registrations.flatMap (Builder.Operation.offers classMap read) =
      settings.selected classMap := by
  rw [registrations, List.flatMap_append, List.flatMap_map, List.flatMap_map, selected]
  simp only [Builder.Operation.offers, occurs_startsWithNamespace]

/-! ## Steps on the builder -/

/-- Operations that cannot fail take the builder to the one after them. -/
theorem settles_applied {operations : List Builder.Operation}
    (succeeds : ∀ operation ∈ operations,
      operation.Succeeds (files.sourceText surroundings.directory)) :
    Settles surroundings files (applied builder operations)
      (.ok (builder.after (turns (files.sourceText surroundings.directory) operations))) := by
  rintro session rfl
  have done : builder.applyAll (session.files.sourceText surroundings.directory) operations = _ :=
    Builder.applyAll_of_succeeds succeeds
  exact ⟨session, by simp [applied, done], rfl⟩

theorem settles_applied_of_failed {operations : List Builder.Operation} {last : Builder}
    {failure : Failure}
    (failed : builder.applyAll (files.sourceText surroundings.directory) operations =
      (last, some failure)) :
    Settles surroundings files (applied builder operations) (.error failure) := by
  rintro session rfl
  exact ⟨session, by simp [applied, failed], rfl⟩

/-- Operations other than exclusions that cannot fail do what their offers and files do. -/
theorem settles_applied_of_ne_exclude {operations : List Builder.Operation}
    (succeeds : ∀ operation ∈ operations,
      operation.Succeeds (files.sourceText surroundings.directory))
    (plain : ∀ operation ∈ operations, ∀ pattern, operation ≠ .exclude pattern) :
    Settles surroundings files (applied builder operations) (.ok (builder.taking
      (operations.flatMap (Builder.Operation.offers builder.classMap
        (files.sourceText surroundings.directory)))
      (operations.flatMap Builder.Operation.listed)
      (operations.flatMap Builder.Operation.targets))) := by
  rw [← Builder.after_of_ne_exclude plain]
  exact settles_applied succeeds

/-- The scans offer what the files name, unless one of the files cannot be read. -/
theorem settles_scans (types imports : List Path) :
    Settles surroundings files (applied builder [.scanTypes types, .scanImports imports])
      ((scanned (files.sourceText surroundings.directory) types imports).map fun found =>
        builder.taking found [] []) := by
  have scans_types (builder : Builder) :
      builder.perform (files.sourceText surroundings.directory) (.scanTypes types) = _ :=
    rfl
  have scans_imports (builder : Builder) :
      builder.perform (files.sourceText surroundings.directory) (.scanImports imports) = _ :=
    rfl
  unfold scanned
  cases types_read : types.mapM (files.sourceText surroundings.directory) with
  | error failure =>
      have failed := Builder.fails_scan scans_types types_read builder
      exact settles_applied_of_failed (Builder.applyAll_cons_of_error failed _)
  | ok typeTexts =>
      have types_succeed := Builder.succeeds_scan scans_types types_read
      cases imports_read : imports.mapM (files.sourceText surroundings.directory) with
      | error failure =>
          obtain ⟨answer, answered⟩ := types_succeed builder
          apply settles_applied_of_failed
          rw [Builder.applyAll_cons_of_ok answered]
          exact Builder.applyAll_cons_of_error (Builder.fails_scan scans_imports imports_read _) _
      | ok importTexts =>
          have imports_succeed := Builder.succeeds_scan scans_imports imports_read
          have settled : Settles surroundings files
              (applied builder [.scanTypes types, .scanImports imports]) _ :=
            settles_applied_of_ne_exclude (by simpa using ⟨types_succeed, imports_succeed⟩)
              (by simp)
          simp only [List.flatMap_cons, List.flatMap_nil, List.append_nil,
            Builder.Operation.offers, Builder.Operation.listed, Builder.Operation.targets,
            Builder.readable_of_mapM types_read, Builder.readable_of_mapM imports_read] at settled
          exact settled

theorem settles_addFiles (listed : List String) :
    Settles surroundings files (applied builder [.addFiles listed])
      (.ok (builder.taking [] listed [])) := by
  have settled : Settles surroundings files (applied builder [.addFiles listed]) _ :=
    settles_applied_of_ne_exclude (by simpa using Builder.succeeds_addFiles listed) (by simp)
  simpa [Builder.Operation.offers, Builder.Operation.listed, Builder.Operation.targets]
    using settled

theorem settles_addCompileTargets (targets : List String) :
    Settles surroundings files (applied builder [.addCompileTargets targets])
      (.ok (builder.taking [] [] targets)) := by
  have settled : Settles surroundings files (applied builder [.addCompileTargets targets]) _ :=
    settles_applied_of_ne_exclude (by simpa using Builder.succeeds_addCompileTargets targets)
      (by simp)
  simpa [Builder.Operation.offers, Builder.Operation.listed, Builder.Operation.targets]
    using settled

/-! ## The builder that holds back -/

/-- The builder that only has the exclusions of the settings. -/
def barring (settings : Settings) (classMap : ClassMap) (read : SourceReader) : Builder :=
  (Builder.start classMap).after (turns read settings.exclusions)

theorem exists_barring_eq (settings : Settings) (classMap : ClassMap) (read : SourceReader) :
    ∃ excluded, settings.barring classMap read = { Builder.start classMap with excluded } := by
  rw [barring, exclusions_eq]
  exact Builder.after_exclusions _ read _

theorem classMap_barring (settings : Settings) (classMap : ClassMap) (read : SourceReader) :
    (settings.barring classMap read).classMap = classMap := by
  obtain ⟨excluded, same⟩ := settings.exists_barring_eq classMap read
  rw [same]
  rfl

/-- It admits what the settings want. -/
theorem admits_barring (settings : Settings) (classMap : ClassMap) (read : SourceReader) :
    (settings.barring classMap read).admits = settings.wants classMap := by
  funext name
  have held : (settings.barring classMap read).excludes name = settings.excludes name := by
    rw [barring, exclusions_eq, Builder.excludes_after_exclusions, List.any_append, List.any_map,
      excludes]
    simp only [Function.comp_def, occurs_startsWithNamespace]
  rw [Builder.admits, wants, held, classMap_barring]

/-- What it lists after names were offered to it and files were listed. -/
theorem manifest_taking_barring (settings : Settings) (classMap : ClassMap) (read : SourceReader)
    (names listed targets : List String) :
    ((settings.barring classMap read).taking names listed targets).manifest =
      { classes := ((names.map ClassName.stripSeparator).filter (settings.wants classMap)).eraseDups
        files := listed.eraseDups
        compile := targets.eraseDups } := by
  have admitted := settings.admits_barring classMap read
  obtain ⟨excluded, same⟩ := settings.exists_barring_eq classMap read
  rw [Builder.taking, admitted, same, Builder.manifest, ← OrderedSet.toList_ofList,
    ← OrderedSet.toList_ofList, ← OrderedSet.toList_ofList]
  rfl

/-! ## The first step -/

/-- The first step cannot fail, since the patterns of the settings are patterns. -/
theorem succeeds_of_mem_selection (wellFormed : settings.WellFormed) (read : SourceReader) :
    ∀ operation ∈ settings.exclusions ++ settings.registrations, operation.Succeeds read := by
  intro operation present
  simp only [exclusions, registrations, List.mem_append, List.mem_map] at present
  rcases present with (⟨pattern, listed, rfl⟩ | ⟨name, _, rfl⟩) |
    ⟨pattern, listed, rfl⟩ | ⟨name, _, rfl⟩
  · obtain ⟨compiled, compiles⟩ := wellFormed.exclude_compiles pattern listed
    exact Builder.succeeds_exclude compiles
  · exact Builder.succeeds_exclude (ClassName.compile_startsWithNamespace [name])
  · obtain ⟨compiled, compiles⟩ := wellFormed.preload_compiles pattern listed
    exact Builder.succeeds_offerMatching compiles
  · exact Builder.succeeds_offerMatching (ClassName.compile_startsWithNamespace [name])

/-- The exclusions come first, so they hold for all that is offered by pattern. -/
theorem after_selection (settings : Settings) (classMap : ClassMap) (read : SourceReader) :
    (Builder.start classMap).after (turns read (settings.exclusions ++ settings.registrations)) =
      (settings.barring classMap read).taking (settings.selected classMap) [] [] := by
  have plain : ∀ operation ∈ settings.registrations, ∀ pattern, operation ≠ .exclude pattern := by
    intro operation present
    simp only [registrations, List.mem_append, List.mem_map] at present
    rcases present with ⟨_, _, rfl⟩ | ⟨_, _, rfl⟩
    · simp
    · simp
  have listed : settings.registrations.flatMap Builder.Operation.listed = [] := by
    simp [registrations, Builder.Operation.listed]
  have targets : settings.registrations.flatMap Builder.Operation.targets = [] := by
    simp [registrations, Builder.Operation.targets]
  rw [turns, List.map_append, Builder.after_append]
  change (settings.barring classMap read).after (turns read settings.registrations) = _
  rw [Builder.after_of_ne_exclude plain, classMap_barring, offers_registrations, listed, targets]

theorem settles_selection (wellFormed : settings.WellFormed) :
    Settles surroundings files
      (applied (Builder.start classMap) (settings.exclusions ++ settings.registrations))
      (.ok ((settings.barring classMap (files.sourceText surroundings.directory)).taking
        (settings.selected classMap) [] [])) := by
  rw [← after_selection]
  exact settles_applied (succeeds_of_mem_selection wellFormed _)

/-! ## The whole -/

/-- Different paths that entries stand for have different texts. -/
theorem eraseDups_texts_of_expansion (wellFormed : settings.WellFormed) {entries : List String}
    {paths : List Path} (expanded : settings.expansion surroundings files entries = .ok paths) :
    (paths.map toString).eraseDups = paths.map toString := by
  obtain ⟨proper, distinct⟩ :=
    (gives_expand wellFormed.root_proper entries).holds surroundings _ paths expanded
  exact OrderedSet.eraseDups_of_nodup (nodup_map_toString proper distinct)

/-- Building settles on the description. -/
theorem settles_build (wellFormed : settings.WellFormed) (classMap : ClassMap)
    (surroundings : Surroundings) (files : FileTree) :
    Settles surroundings files (Builder.manifest <$> settings.build (some classMap))
      (settings.described classMap surroundings files) := by
  have expands (entries : List String) : Settles surroundings files (settings.expand entries)
      (settings.expansion surroundings files entries) :=
    (observes_expand entries).settles surroundings files
  simp only [build, classMapOr, pure_bind, map_bind, map_pure, described]
  apply (settles_selection wellFormed).follow
  apply (expands _).bind
  intro types _
  apply (expands _).bind
  intro imports _
  apply (settles_note _).follow
  apply (settles_scans types imports).bind_map
  intro found _
  apply (expands _).bind
  intro listed listed_expanded
  apply (settles_addFiles _).follow
  apply (expands _).bind
  intro targets targets_expanded
  apply (settles_addCompileTargets _).follow
  apply (settles_note _).follow
  simp only [Builder.taking_taking, List.append_nil, List.nil_append, manifest_taking_barring,
    eraseDups_texts_of_expansion wellFormed listed_expanded,
    eraseDups_texts_of_expansion wellFormed targets_expanded]
  exact settles_pure _

/-- What the description lists is known and not held back. -/
theorem wants_of_mem_described {manifest : Manifest}
    (described : settings.described classMap surroundings files = .ok manifest) :
    ∀ name ∈ manifest.classes, settings.wants classMap name = true := by
  intro name present
  simp only [Settings.described, bind_eq_ok_iff] at described
  obtain ⟨types, _, imports, _, found, _, listed, _, targets, _, ⟨⟩⟩ := described
  rw [List.mem_eraseDups] at present
  exact (List.mem_filter.mp present).2

/-- The manifest of the builder of a project is the one that its settings describe, and building
fails as the description fails. No class is listed that the class map lacks or that the settings
exclude. -/
theorem manifest_of_build {env : Environment} {entries : List (Value × Value)}
    (accepted : ofEntries env entries = .valid settings) (classMap : ClassMap)
    (surroundings : Surroundings) (session : Session) :
    ((settings.build (some classMap)).perform surroundings session).1.map Builder.manifest =
        settings.described classMap surroundings session.files ∧
      ∀ builder, ((settings.build (some classMap)).perform surroundings session).1 = .ok builder →
        ∀ name ∈ builder.manifest.classes, name ∈ classMap.keys ∧
          (∀ pattern ∈ settings.exclude, occurs pattern name = false) ∧
          ∀ excluded ∈ settings.excludeNamespaces, ClassName.isWithin [excluded] name = false := by
  have settled :=
    settles_build (wellFormed_of_ofEntries accepted) classMap surroundings session.files
  obtain ⟨after, performed, _⟩ := settled session rfl
  have same := congrArg Prod.fst performed
  rw [perform_map] at same
  constructor
  · exact same
  · intro builder built name present
    rw [built] at same
    obtain ⟨not_held, known⟩ := wants_iff.mp (wants_of_mem_described same.symm name present)
    simp only [excludes, Bool.or_eq_false_iff, List.any_eq_false, Bool.not_eq_true] at not_held
    exact ⟨known, not_held⟩

/-- Of three known classes one is in the namespace that is wanted and not in the one that is
excluded. -/
theorem manifest_of_build_namespaces :
    ofEntries .empty [(.text "preload_namespaces", .list [.text "App"]),
        (.text "exclude_namespaces", .list [.text "App\\Test\\"]),
        (.text "files", .list [.text "boot.php"])] =
      .valid {
        preloadNamespaces := ["App"]
        excludeNamespaces := ["App\\Test\\"]
        files := ["boot.php"] } ∧
    ((build {
        preloadNamespaces := ["App"]
        excludeNamespaces := ["App\\Test\\"]
        files := ["boot.php"] }
      (some (.ofList [("App\\Kernel", "kernel.php"), ("App\\Test\\Case", "case.php"),
        ("Log", "log.php")]))).perform ⟨[], .empty, .notFound, false, .ordinary⟩
          { files := .empty }).1.map Builder.manifest =
      .ok { classes := ["App\\Kernel"], files := ["boot.php"], compile := [] } := by
  have accepted : ofEntries .empty [(.text "preload_namespaces", .list [.text "App"]),
      (.text "exclude_namespaces", .list [.text "App\\Test\\"]),
      (.text "files", .list [.text "boot.php"])] = .valid {
        preloadNamespaces := ["App"]
        excludeNamespaces := ["App\\Test\\"]
        files := ["boot.php"] } :=
    rfl
  constructor
  · exact accepted
  · exact (manifest_of_build accepted _ ⟨[], .empty, .notFound, false, .ordinary⟩
      { files := .empty }).1

end OpcachePreload.Settings
