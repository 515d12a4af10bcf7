import OpcachePreload.Proofs.Action
import OpcachePreload.Replay

/-!
# The steps of a replay

The files of classes are found as a whole or not at all. What a replay does is then a list of steps,
and what it comes to is what these come to on the host.
-/

namespace OpcachePreload.Replay

variable {classMap : ClassMap} {names files : List String} {name : String}

/-! ## Files of classes -/

/-- Files are found exactly if each of them is that of the class in its place. -/
theorem filesOf_eq_ok_iff :
    filesOf classMap names = .ok files ↔ files.map some = names.map classMap.get? := by
  induction names generalizing files with
  | nil => cases files <;> simp [filesOf]
  | cons first rest ih =>
      unfold filesOf
      cases found : classMap.get? first with
      | none => cases files <;> simp [found]
      | some file =>
          cases files with
          | nil => cases filesOf classMap rest <;> simp [Except.map]
          | cons other more =>
              simp only [List.map_cons, found, List.cons.injEq, Option.some.injEq, ← ih]
              cases filesOf classMap rest <;> simp [Except.map, eq_comm]

/-- Finding files stops at the first class that the class map does not know. -/
theorem filesOf_eq_error_iff_find? :
    filesOf classMap names = .error name ↔
      names.find? (fun other => !classMap.contains other) = some name := by
  induction names with
  | nil => simp [filesOf]
  | cons first rest ih =>
      unfold filesOf
      cases found : classMap.get? first with
      | none =>
          have unknown : first ∉ classMap.keys := by
            rw [← OrderedMap.get?_isSome_iff, found]
            simp
          simp [OrderedMap.contains, unknown]
      | some file =>
          have known : first ∈ classMap.keys := by
            rw [← OrderedMap.get?_isSome_iff, found]
            rfl
          have same : (filesOf classMap rest).map (file :: ·) = .error name ↔
              filesOf classMap rest = .error name := by
            cases filesOf classMap rest <;> simp [Except.map]
          simp [OrderedMap.contains, known, same, ih]

/-- The class that is told to have no file is the first one that the class map does not know. -/
theorem filesOf_eq_error_iff :
    filesOf classMap names = .error name ↔
      ∃ before after, names = before ++ name :: after ∧
        (∀ known ∈ before, known ∈ classMap.keys) ∧ name ∉ classMap.keys := by
  rw [filesOf_eq_error_iff_find?, List.find?_eq_some_iff_append]
  constructor
  · rintro ⟨absent, before, after, split, known⟩
    exact ⟨before, after, split, by simpa [OrderedMap.contains] using known,
      by simpa [OrderedMap.contains] using absent⟩
  · rintro ⟨before, after, split, known, absent⟩
    exact ⟨by simpa [OrderedMap.contains] using absent, before, after, split,
      by simpa [OrderedMap.contains] using known⟩

/-- Classes that the class map knows have files. -/
theorem exists_filesOf_eq_ok (known : ∀ name ∈ names, name ∈ classMap.keys) :
    ∃ files, filesOf classMap names = .ok files := by
  cases found : filesOf classMap names with
  | ok files => exact ⟨files, rfl⟩
  | error name =>
      obtain ⟨before, after, rfl, _, absent⟩ := filesOf_eq_error_iff.mp found
      exact absurd (known name (by simp)) absent

/-- The class that the class map did not know, where a result fails for one. -/
def unknown? {α : Type} : Except Failure α → Option String
  | .error (.unknownClass name) => some name
  | _ => none

theorem eq_error_of_unknown? {α : Type} {result : Except Failure α}
    (found : unknown? result = some name) : result = .error (.unknownClass name) := by
  unfold unknown? at found
  split at found
  · rw [Option.some.inj found]
  · cases found

/-! ## Runs -/

variable {σ : Type} {replay : Replay} {host : Host σ}

/-- What a replay with the given class files counts. -/
def summaryOf (manifest : Manifest) (classFiles : List String) (includeOnly : Bool) : Summary where
  classes := classFiles.length
  files := manifest.files.length
  compiles := if includeOnly then 0 else manifest.compile.length

theorem perform_classFiles_of_ok
    (found : filesOf replay.classMap replay.manifest.classes = .ok files)
    (surroundings : Surroundings) (session : Session) :
    replay.classFiles.perform surroundings session = (.ok files, session) := by
  simp [classFiles, found]

theorem perform_classFiles_of_error
    (found : filesOf replay.classMap replay.manifest.classes = .error name)
    (surroundings : Surroundings) (session : Session) :
    ∃ after, replay.classFiles.perform surroundings session =
      (.error (.unknownClass name), after) := by
  simp [classFiles, found, Action.complain]

/-- Nothing is handed over if a class has no file. -/
theorem perform_run_of_error (found : filesOf replay.classMap replay.manifest.classes = .error name)
    (includeOnly : Bool) (surroundings : Surroundings) (state : σ) (session : Session) :
    ∃ after, (replay.run host includeOnly).perform surroundings state session =
      ((.error (.unknownClass name), state), after) := by
  obtain ⟨after, ends⟩ := perform_classFiles_of_error found surroundings session
  exact ⟨after, by simp [run, ends]⟩

/-- All steps are done if every class has a file and the host does not fail. -/
theorem perform_run_of_ok (found : filesOf replay.classMap replay.manifest.classes = .ok files)
    {includeOnly : Bool} {surroundings : Surroundings} {state state' : σ}
    {session session' : Session}
    (taken : (takeAll host (steps replay.manifest files includeOnly)).perform surroundings state
      session = ((.ok (), state'), session')) :
    ∃ after, (replay.run host includeOnly).perform surroundings state session =
      ((.ok (summaryOf replay.manifest files includeOnly), state'), after) := by
  simp [run, perform_classFiles_of_ok found, taken, Action.info, summaryOf, Except.map]

end OpcachePreload.Replay
