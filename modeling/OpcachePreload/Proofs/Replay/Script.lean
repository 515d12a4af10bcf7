import OpcachePreload.Proofs.Builder.History
import OpcachePreload.Proofs.Manifest.Text
import OpcachePreload.Proofs.Replay.Steps
import OpcachePreload.Script.Host

/-!
# Replaying what was built

What a builder has registered is read back from its text, every class of it has a file in the class
map it was built with, and its replay fills a script with one statement for each file in order.
-/

namespace OpcachePreload

/-! ## Statements -/

namespace Script

/-- The statement that a step adds to a script. -/
def Statement.ofStep : Step → Statement
  | .load file required => ⟨if required then .require else .include, file⟩
  | .compile file => ⟨.compile, file⟩

/-- Doing steps on a script inserts their statements. -/
theorem perform_takeAll_host (probe : Probe) (steps : List Step) (surroundings : Surroundings)
    (script : Script) (session : Session) :
    (Replay.takeAll (host probe) steps).perform surroundings script session =
      ((.ok (), { script with
        statements := script.statements.insertAll (steps.map Statement.ofStep) }), session) := by
  induction steps generalizing script with
  | nil => rfl
  | cons step rest ih =>
      have first : ((host probe).take step).perform surroundings script session =
          ((.ok (), script.record (Statement.ofStep step)), session) := by
        cases step <;> rfl
      simp only [Replay.takeAll, HostAction.perform_bind, first, ih]
      rfl

/-- The statements for class files, for other files and for files to compile. -/
def statementsFor (classFiles files compile : List String) : List Statement :=
  classFiles.map (Statement.mk .require) ++ files.map (Statement.mk .include) ++
    compile.map (Statement.mk .compile)

theorem map_ofStep_steps (manifest : Manifest) (classFiles : List String) (includeOnly : Bool) :
    (Replay.steps manifest classFiles includeOnly).map Statement.ofStep =
      statementsFor classFiles manifest.files (if includeOnly then [] else manifest.compile) := by
  cases includeOnly <;>
    simp [Replay.steps, statementsFor, Statement.ofStep, Function.comp_def]

/-- Files that are loaded for different reasons do not get into each other's way: only a class file
that is named again is dropped. -/
theorem eraseDups_statementsFor (classFiles : List String) {files compile : List String}
    (files_distinct : files.Nodup) (compile_distinct : compile.Nodup) :
    (statementsFor classFiles files compile).eraseDups =
      statementsFor classFiles.eraseDups files compile := by
  have injective (verb : Verb) (first second : String)
      (same : Statement.mk verb first = Statement.mk verb second) : first = second := by
    injection same
  have compiled_apart : ∀ statement ∈ compile.map (Statement.mk .compile),
      statement ∉ classFiles.map (Statement.mk .require) ++ files.map (Statement.mk .include) := by
    simp
  have included_apart : ∀ statement ∈ files.map (Statement.mk .include),
      statement ∉ classFiles.map (Statement.mk .require) := by
    simp
  rw [statementsFor, OrderedSet.eraseDups_append_of_disjoint compiled_apart,
    OrderedSet.eraseDups_append_of_disjoint included_apart,
    OrderedSet.eraseDups_map (injective _), OrderedSet.eraseDups_map (injective _),
    OrderedSet.eraseDups_map (injective _), OrderedSet.eraseDups_of_nodup files_distinct,
    OrderedSet.eraseDups_of_nodup compile_distinct]
  rfl

end Script

/-! ## Builders -/

namespace Builder

/-- Every class that is registered after some turns is known to the class map. -/
theorem mem_keys_of_mem_classes_after {classMap : ClassMap} {turns : List Turn} {name : String}
    (registered : name ∈ ((start classMap).after turns).classes.toList) :
    name ∈ classMap.keys := by
  obtain ⟨position, offer, _, _, known, _⟩ :=
    (((follows_start classMap).after turns).mem_classes_iff name).mp registered
  exact known

/-- What was built is read back from its text. Whatever path it is said to come from, all its
classes have their files in the class map; a replay on a script without statements gives the script
a statement for each class file, dropping those that were given before, for each other file, and,
unless they are left out, for each file to compile. -/
theorem replay_of_built (classMap : ClassMap) (turns : List Turn) (path : Path) (probe : Probe)
    (guarded includeOnly : Bool) (surroundings : Surroundings) (session : Session) :
    let builder := (start classMap).after turns
    let replay : Replay := ⟨classMap, path, builder.manifest⟩
    let statements (files : List String) := Script.statementsFor files.eraseDups
      builder.files.toList (if includeOnly then [] else builder.compile.toList)
    Manifest.parse builder.manifest.text (toString path) = .ok builder.manifest ∧
      ∃ files : List String,
        files.map some = builder.classes.toList.map classMap.get? ∧
        replay.classFiles.perform surroundings session = (.ok files, session) ∧
        ∃ summary script after,
          (replay.run (Script.host probe) includeOnly).perform surroundings (.empty guarded)
            session = ((.ok summary, script), after) ∧
          script.guarded = guarded ∧
          script.statements.toList = statements files ∧
          script.lines = (statements files).map Script.Statement.text := by
  intro builder replay statements
  obtain ⟨files, found⟩ :
      ∃ files, Replay.filesOf replay.classMap replay.manifest.classes = .ok files :=
    Replay.exists_filesOf_eq_ok fun name registered => mem_keys_of_mem_classes_after registered
  have taken := Script.perform_takeAll_host probe (Replay.steps replay.manifest files includeOnly)
    surroundings (.empty guarded) session
  obtain ⟨after, ends⟩ := Replay.perform_run_of_ok found taken
  have compile_distinct : (if includeOnly then [] else builder.compile.toList).Nodup := by
    cases includeOnly
    · exact builder.compile.nodup
    · exact List.nodup_nil
  have listed :
      (OrderedSet.ofList ((Replay.steps replay.manifest files includeOnly).map
        Script.Statement.ofStep)).toList =
          Script.statementsFor files.eraseDups builder.files.toList
            (if includeOnly then [] else builder.compile.toList) := by
    rw [OrderedSet.toList_ofList, Script.map_ofStep_steps]
    exact Script.eraseDups_statementsFor files builder.files.nodup compile_distinct
  exact ⟨Manifest.parse_text _ _, files, Replay.filesOf_eq_ok_iff.mp found,
    Replay.perform_classFiles_of_ok found surroundings session,
    _, _, after, ends, rfl, listed, congrArg (List.map Script.Statement.text) listed⟩

end Builder

end OpcachePreload
