import Mathlib.Data.List.Nodup
import OpcachePreload.Proofs.Script.Text

/-!
# Replaying again

A script that has taken a replay takes nothing more when the same manifest is replayed again. Files
to compile come last, so a replay that leaves them out gives a beginning of what a whole replay
gives, and a whole replay after it adds the rest.
-/

namespace OpcachePreload

namespace OrderedSet

variable {α : Type} [DecidableEq α]

/-- Inserting elements lists the first occurrences among the old ones and the new ones. -/
theorem toList_insertAll_eq_eraseDups (s : OrderedSet α) (items : List α) :
    (s.insertAll items).toList = (s.toList ++ items).eraseDups := by
  have others : items.removeAll s.toList = items.filter fun a => decide (a ∉ s.toList) := by
    apply List.filter_congr
    simp
  rw [toList_insertAll, List.eraseDups_append, eraseDups_of_nodup s.nodup, others]

/-- Elements that were inserted before others need not be inserted once more with them. -/
theorem insertAll_insertAll_append (s : OrderedSet α) (first second : List α) :
    (s.insertAll first).insertAll (first ++ second) = s.insertAll (first ++ second) := by
  rw [insertAll_append, insertAll_insertAll, insertAll_append]

end OrderedSet

namespace Script

variable {manifest : Manifest} {files : List String}

/-! ## Lines -/

theorem Statement.text_injective {statement other : Statement}
    (same : statement.text = other.text) : statement = other := by
  have spelled : statement.text.toList ++ [] = other.text.toList ++ [] := by rw [same]
  exact (Statement.eq_of_text_append_eq spelled).1

/-- No line of a script comes twice. -/
theorem nodup_lines (script : Script) : script.lines.Nodup :=
  List.Nodup.map (fun _ _ => Statement.text_injective) script.statements.nodup

/-! ## Taking replays -/

/-- The script after a replay of a manifest, given the files of the classes. -/
def taking (script : Script) (manifest : Manifest) (files : List String) (includeOnly : Bool) :
    Script where
  guarded := script.guarded
  statements := script.statements.insertAll
    (statementsFor files manifest.files (if includeOnly then [] else manifest.compile))

/-- A replay all of whose classes have files ends well, and the script takes it. -/
theorem perform_run_host {replay : Replay}
    (found : Replay.filesOf replay.classMap replay.manifest.classes = .ok files)
    (includeOnly : Bool) (probe : Probe) (surroundings : Surroundings) (script : Script)
    (session : Session) :
    ∃ after, (replay.run (host probe) includeOnly).perform surroundings script session =
      ((.ok (Replay.summaryOf replay.manifest files includeOnly),
        script.taking replay.manifest files includeOnly), after) := by
  have taken := perform_takeAll_host probe (Replay.steps replay.manifest files includeOnly)
    surroundings script session
  rw [map_ofStep_steps] at taken
  exact Replay.perform_run_of_ok found taken

/-- Taking the same replay again changes nothing. -/
theorem taking_taking (script : Script) (includeOnly : Bool) :
    (script.taking manifest files includeOnly).taking manifest files includeOnly =
      script.taking manifest files includeOnly :=
  congrArg (Script.mk script.guarded) (OrderedSet.insertAll_insertAll _ _)

/-- The statements of a whole replay are those of one without files to compile, and then those. -/
theorem statementsFor_append (files others compile : List String) :
    statementsFor files others [] ++ compile.map (Statement.mk .compile) =
      statementsFor files others compile := by
  simp [statementsFor]

/-- A whole replay makes up for one that left out the files to compile. -/
theorem taking_short_taking (script : Script) :
    (script.taking manifest files true).taking manifest files false =
      script.taking manifest files false := by
  apply congrArg (Script.mk script.guarded)
  have made_up := script.statements.insertAll_insertAll_append
    (statementsFor files manifest.files []) (manifest.compile.map (Statement.mk .compile))
  rwa [statementsFor_append] at made_up

/-- A whole replay adds statements for files to compile to what a short one gives. -/
theorem exists_lines_taking_eq (script : Script) :
    ∃ compiled : List String, (∀ file ∈ compiled, file ∈ manifest.compile) ∧
      (script.taking manifest files false).lines = (script.taking manifest files true).lines ++
        compiled.map fun file => (Statement.mk .compile file).text := by
  have longer := OrderedSet.toList_insertAll (script.taking manifest files true).statements
    (manifest.compile.map (Statement.mk .compile))
  set new := ((manifest.compile.map (Statement.mk .compile)).filter fun statement =>
    decide (statement ∉
      (script.taking manifest files true).statements.toList)).eraseDups with new_eq
  have compiling : ∀ statement ∈ new, ∃ file ∈ manifest.compile,
      statement = Statement.mk .compile file := by
    intro statement present
    rw [new_eq, List.mem_eraseDups, List.mem_filter, List.mem_map] at present
    obtain ⟨⟨file, listed, rfl⟩, _⟩ := present
    exact ⟨file, listed, rfl⟩
  refine ⟨new.map Statement.file, ?_, ?_⟩
  · intro file present
    obtain ⟨statement, listed, rfl⟩ := List.mem_map.mp present
    obtain ⟨file, known, rfl⟩ := compiling statement listed
    exact known
  · have whole : (script.taking manifest files false).statements =
        (script.taking manifest files true).statements.insertAll
          (manifest.compile.map (Statement.mk .compile)) := by
      change script.statements.insertAll (statementsFor files manifest.files manifest.compile) = _
      rw [← statementsFor_append, OrderedSet.insertAll_append]
      rfl
    rw [lines, lines, whole, longer, List.map_append, List.map_map]
    congr 1
    apply List.map_congr_left
    intro statement present
    obtain ⟨file, _, rfl⟩ := compiling statement present
    rfl

end Script

/-! ## Replays -/

namespace Replay

/-- A replay turns a script into another one, ending well, whatever binary the script is for and
wherever it is done. -/
def Turns (replay : Replay) (includeOnly : Bool) (script script' : Script) : Prop :=
  ∀ probe surroundings session, ∃ summary after,
    (replay.run (Script.host probe) includeOnly).perform surroundings script session =
      ((.ok summary, script'), after)

theorem turns_taking {replay : Replay} {files : List String}
    (found : filesOf replay.classMap replay.manifest.classes = .ok files) (includeOnly : Bool)
    (script : Script) :
    replay.Turns includeOnly script (script.taking replay.manifest files includeOnly) := by
  intro probe surroundings session
  obtain ⟨after, performed⟩ :=
    Script.perform_run_host found includeOnly probe surroundings script session
  exact ⟨_, after, performed⟩

/-- Replaying is idempotent. Whatever a script holds, none of its lines comes twice. If every class
of a manifest has a file, a replay without files to compile turns the script into `short`, and a
whole one turns it into `whole`. The same replay leaves either as it is, a whole one also turns
`short` into `whole`, and what `whole` has after the lines of `short` are statements for files to
compile. -/
theorem turns_again (replay : Replay)
    (known : ∀ name ∈ replay.manifest.classes, name ∈ replay.classMap.keys) (script : Script) :
    script.lines.Nodup ∧
      ∃ short whole : Script,
        replay.Turns true script short ∧ replay.Turns true short short ∧
        replay.Turns false script whole ∧ replay.Turns false whole whole ∧
        replay.Turns false short whole ∧
        (∃ files : List String, files.map some = replay.manifest.classes.map replay.classMap.get? ∧
          short.statements.toList = (script.statements.toList ++
            Script.statementsFor files replay.manifest.files []).eraseDups) ∧
        ∃ compiled : List String, (∀ file ∈ compiled, file ∈ replay.manifest.compile) ∧
          whole.lines = short.lines ++
            compiled.map fun file => (Script.Statement.mk .compile file).text := by
  obtain ⟨files, found⟩ := exists_filesOf_eq_ok known
  have short_again := turns_taking found true (script.taking replay.manifest files true)
  have whole_again := turns_taking found false (script.taking replay.manifest files false)
  have made_up := turns_taking found false (script.taking replay.manifest files true)
  rw [Script.taking_taking] at short_again whole_again
  rw [Script.taking_short_taking] at made_up
  exact ⟨script.nodup_lines, _, _, turns_taking found true script, short_again,
    turns_taking found false script, whole_again, made_up,
    ⟨files, filesOf_eq_ok_iff.mp found, script.statements.toList_insertAll_eq_eraseDups _⟩,
    script.exists_lines_taking_eq⟩

/-- A file that is a class file, another file and one to compile, and that the script has already.
-/
theorem turns_again_sample :
    let replay : Replay :=
      ⟨.ofList [("A", "/a.php")], "preload.json", ⟨["A"], ["/a.php"], ["/a.php"]⟩⟩
    let script : Script := (Script.empty true).record ⟨.include, "/a.php"⟩
    (∀ name ∈ replay.manifest.classes, name ∈ replay.classMap.keys) ∧
      ∃ short whole : Script, replay.Turns true script short ∧ replay.Turns false short whole ∧
        replay.Turns false whole whole ∧
        short.statements.toList = [⟨.include, "/a.php"⟩, ⟨.require, "/a.php"⟩] := by
  intro replay script
  have known : ∀ name ∈ replay.manifest.classes, name ∈ replay.classMap.keys := by decide
  obtain ⟨_, short, whole, shortened, _, _, whole_again, made_up, ⟨files, found, listed⟩, _⟩ :=
    turns_again replay known script
  have files_eq : files.map some = ["/a.php"].map some := found
  obtain rfl := List.map_injective_iff.mpr (Option.some_injective String) files_eq
  exact ⟨known, short, whole, shortened, made_up, whole_again, listed⟩

end Replay

end OpcachePreload
