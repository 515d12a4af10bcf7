import OpcachePreload.Proofs.Action.Write

/-!
# What does not depend on the working directory

An absolute path leads to the same place from every working directory. So an action that uses no
other paths does the same from every working directory, whether it succeeds or fails.
-/

namespace OpcachePreload

/-! ## Absolute paths -/

namespace FileTree

variable {path : Path}

theorem locate_of_isAbsolute (absolute : path.isAbsolute = true) (tree : FileTree)
    (directory other : Location) : tree.locate directory path = tree.locate other path := by
  simp [locate, absolute]

theorem lookup_of_isAbsolute (absolute : path.isAbsolute = true) (tree : FileTree)
    (directory other : Location) : tree.lookup directory path = tree.lookup other path := by
  rw [lookup, locate_of_isAbsolute absolute tree directory other, lookup]

theorem read_of_isAbsolute (absolute : path.isAbsolute = true) (tree : FileTree)
    (directory other : Location) : tree.read directory path = tree.read other path := by
  rw [read, lookup_of_isAbsolute absolute tree directory other, read]

theorem probe_of_isAbsolute (absolute : path.isAbsolute = true) (tree : FileTree)
    (directory other : Location) : tree.probe directory path = tree.probe other path := by
  rw [probe, lookup_of_isAbsolute absolute tree directory other, probe]

theorem write_of_isAbsolute (absolute : path.isAbsolute = true) (tree : FileTree)
    (directory other : Location) (bytes : List UInt8) :
    tree.write directory path bytes = tree.write other path bytes := by
  rw [write, locate_of_isAbsolute absolute tree directory other, write]

theorem ensureOne_of_isAbsolute (absolute : path.isAbsolute = true) (tree : FileTree)
    (directory other : Location) : tree.ensureOne directory path = tree.ensureOne other path := by
  rw [ensureOne, makeDirectory, locate_of_isAbsolute absolute tree directory other,
    lookup_of_isAbsolute absolute tree directory other, ensureOne, makeDirectory]

theorem ensureNames_of_isAbsolute {root : PathRoot} (absolute : root ≠ .relative)
    (tree : FileTree) (directory other : Location) (kept : List String) :
    tree.ensureNames directory root kept = tree.ensureNames other root kept := by
  have one (tree : FileTree) (names : List String) :
      tree.ensureOne directory ⟨root, names⟩ = tree.ensureOne other ⟨root, names⟩ :=
    ensureOne_of_isAbsolute (by simpa [Path.isAbsolute] using absolute) tree directory other
  induction kept with
  | nil => simp only [ensureNames, one]
  | cons name kept ih => simp only [ensureNames, one, ih]

theorem ensureDirectory_of_isAbsolute (absolute : path.isAbsolute = true) (tree : FileTree)
    (directory other : Location) :
    tree.ensureDirectory directory path = tree.ensureDirectory other path :=
  ensureNames_of_isAbsolute (by simpa [Path.isAbsolute] using absolute) tree directory other _

end FileTree

namespace Path

variable {path base : Path}

theorem isAbsolute_parent (absolute : path.isAbsolute = true) : path.parent.isAbsolute = true :=
  absolute

theorem isAbsolute_join (absolute : base.isAbsolute = true) (path : Path) :
    (base / path).isAbsolute = true := by
  change (join base path).isAbsolute = true
  unfold join
  split
  · assumption
  · exact absolute

end Path

/-! ## Actions -/

namespace Action

variable {α β : Type} {surroundings : Surroundings} {directory : Location}
  {fits : FileTree → Prop} {good : α → Prop} {better : β → Prop} {action : Action α}
  {next : α → Action β} {path : Path}

/-- On files of a kind an action does the same from another working directory, and gives results of
a kind. -/
def SameFrom (surroundings : Surroundings) (directory : Location) (fits : FileTree → Prop)
    (good : α → Prop) (action : Action α) : Prop :=
  ∀ session : Session, fits session.files →
    action.perform { surroundings with directory } session = action.perform surroundings session ∧
      ∀ a, (action.perform surroundings session).1 = .ok a → good a

/-- On all files. -/
abbrev SameFromAnywhere (surroundings : Surroundings) (directory : Location) (good : α → Prop)
    (action : Action α) : Prop :=
  SameFrom surroundings directory (fun _ => True) good action

theorem sameFrom_pure {a : α} (holds : good a) :
    SameFrom surroundings directory fits good (pure a) := by
  rintro session _
  exact ⟨rfl, by rintro _ ⟨⟩; exact holds⟩

theorem sameFrom_fail (failure : Failure) :
    SameFrom surroundings directory fits good (fail failure) :=
  fun _ _ => ⟨rfl, fun _ given => by contradiction⟩

/-- Nothing is done after a failure. -/
theorem sameFrom_fail_bind (failure : Failure) (next : α → Action β) :
    SameFrom surroundings directory fits better (fail failure >>= next) :=
  fun _ _ => ⟨rfl, fun _ given => by contradiction⟩

theorem sameFrom_ofExcept {ε : Type} {failure : ε → Failure} {result : Except ε α}
    (holds : ∀ a, result = .ok a → good a) :
    SameFrom surroundings directory fits good (ofExcept failure result) := by
  cases result with
  | error e => exact sameFrom_fail _
  | ok a => exact sameFrom_pure (holds a rfl)

theorem sameFrom_modify (change : Session → Session) :
    SameFrom surroundings directory fits (fun _ => True) (modify change) :=
  fun _ _ => ⟨rfl, fun _ _ => trivial⟩

theorem sameFrom_note (record : Record) :
    SameFrom surroundings directory fits (fun _ => True) (note record) :=
  sameFrom_modify _

theorem sameFrom_print (line : String) :
    SameFrom surroundings directory fits (fun _ => True) (print line) := by
  intro session _
  rw [print, perform_printText, perform_printText]
  exact ⟨rfl, fun _ _ => trivial⟩

theorem SameFrom.bind {fits' : FileTree → Prop}
    (same : SameFrom surroundings directory fits good action)
    (kept : ∀ session, fits session.files → fits' (action.perform surroundings session).2.files)
    (then_same : ∀ a, good a → SameFrom surroundings directory fits' better (next a)) :
    SameFrom surroundings directory fits better (action >>= next) := by
  intro session fit
  obtain ⟨equal, gives⟩ := same session fit
  have fit' := kept session fit
  rw [perform_bind, perform_bind, equal]
  rcases outcome : action.perform surroundings session with ⟨failure | a, after⟩ <;>
    rw [outcome] at gives fit'
  · exact ⟨rfl, fun _ given => by contradiction⟩
  · exact then_same a (gives a rfl) after fit'

/-- The same where the second action does not depend on the kind of the files. -/
theorem SameFrom.then (same : SameFrom surroundings directory fits good action)
    (then_same : ∀ a, good a → SameFromAnywhere surroundings directory better (next a)) :
    SameFrom surroundings directory fits better (action >>= next) :=
  same.bind (fun _ _ => trivial) then_same

/-- The same where the first action leaves the files alone. -/
theorem SameFrom.keeping (same : SameFrom surroundings directory fits good action)
    (keeps : Keeps Session.files action)
    (then_same : ∀ a, good a → SameFrom surroundings directory fits better (next a)) :
    SameFrom surroundings directory fits better (action >>= next) := by
  refine same.bind (fun session fit => ?_) then_same
  rwa [keeps surroundings session]

/-- The same where the first action leads from certain files to certain files. -/
theorem SameFrom.changing {files files' : FileTree}
    (same : SameFrom surroundings directory (· = files) good action)
    (changes : ∀ session : Session, session.files = files →
      (action.perform surroundings session).2.files = files')
    (then_same : ∀ a, good a → SameFrom surroundings directory (· = files') better (next a)) :
    SameFrom surroundings directory (· = files) better (action >>= next) :=
  same.bind changes then_same

theorem SameFrom.map (same : SameFrom surroundings directory fits good action) {f : α → β}
    (holds : ∀ a, good a → better (f a)) :
    SameFrom surroundings directory fits better (f <$> action) := by
  rw [← bind_pure_comp]
  exact same.then fun a given => sameFrom_pure (holds a given)

/-- What an action that observes gives is what it gives on these files. -/
theorem SameFrom.outcome {files : FileTree}
    (same : SameFrom surroundings directory (· = files) good action) (observes : Observes action) :
    SameFrom surroundings directory (· = files)
      (fun a => action.outcome surroundings files = .ok a) action := by
  rintro session rfl
  refine ⟨(same session rfl).1, fun a given => ?_⟩
  obtain ⟨records, performed⟩ := observes.perform_eq surroundings session
  rwa [performed] at given

theorem SameFrom.tryCatch {handler : Failure → Action α}
    (same : SameFrom surroundings directory fits good action)
    (handler_same : ∀ failure, SameFromAnywhere surroundings directory good (handler failure)) :
    SameFrom surroundings directory fits good (tryCatch action handler) := by
  intro session fit
  obtain ⟨equal, gives⟩ := same session fit
  rw [perform_tryCatch, perform_tryCatch, equal]
  rcases outcome : action.perform surroundings session with ⟨failure | a, after⟩ <;>
    rw [outcome] at gives
  · exact handler_same failure after trivial
  · exact ⟨rfl, gives⟩

/-! ## Paths and files -/

theorem sameFrom_expanded (text : String) :
    SameFrom surroundings directory fits (· = surroundings.environment.path text)
      (expanded text) :=
  fun _ _ => ⟨rfl, by rintro _ ⟨⟩; rfl⟩

theorem sameFrom_absolute (absolute : path.isAbsolute = true) :
    SameFrom surroundings directory fits (· = path) (Action.absolute path) := by
  intro session _
  have stays (directory : Location) : (⟨.slash, directory⟩ : Path) / path = path :=
    Path.join_of_isAbsolute absolute
  constructor
  · change (Except.ok ((⟨.slash, directory⟩ : Path) / path), session) =
      (Except.ok ((⟨.slash, surroundings.directory⟩ : Path) / path), session)
    rw [stays, stays]
  · rintro _ ⟨⟩
    exact stays _

theorem sameFrom_ask {question : FileTree → Location → Except PathFault α} (text : String)
    (same : ∀ tree, question tree directory = question tree surroundings.directory)
    (holds : ∀ tree a, question tree surroundings.directory = .ok a → good a) :
    SameFrom surroundings directory fits good (ask text question) := by
  intro session _
  rw [perform_ask, perform_ask, same]
  refine ⟨rfl, fun a given => holds session.files a ?_⟩
  exact mapError_eq_ok_iff.mp given

theorem sameFrom_find (absolute : path.isAbsolute = true) :
    SameFrom surroundings directory fits (fun _ => True) (find path) :=
  sameFrom_ask _ (fun tree => FileTree.probe_of_isAbsolute absolute tree _ _) fun _ _ _ => trivial

theorem sameFrom_exists? (absolute : path.isAbsolute = true) :
    SameFrom surroundings directory fits (fun _ => True) (exists? path) :=
  (sameFrom_find absolute).then fun _ _ => sameFrom_pure trivial

theorem sameFrom_isDirectory (absolute : path.isAbsolute = true) :
    SameFrom surroundings directory fits (fun _ => True) (isDirectory path) :=
  (sameFrom_find absolute).then fun _ _ => sameFrom_pure trivial

theorem sameFrom_isFile (absolute : path.isAbsolute = true) :
    SameFrom surroundings directory fits (fun _ => True) (isFile path) := by
  refine (sameFrom_find absolute).then fun found _ => ?_
  rcases found with _ | _ | _ <;> exact sameFrom_pure trivial

theorem sameFrom_readBytes (absolute : path.isAbsolute = true) :
    SameFrom surroundings directory fits (fun _ => True) (readBytes path) :=
  sameFrom_ask _ (fun tree => FileTree.read_of_isAbsolute absolute tree _ _) fun _ _ _ => trivial

theorem sameFrom_readText (absolute : path.isAbsolute = true) :
    SameFrom surroundings directory fits (fun _ => True) (readText path) :=
  (sameFrom_readBytes absolute).then fun _ _ => sameFrom_ofExcept fun _ _ => trivial

theorem sameFrom_ensureDirectory (absolute : path.isAbsolute = true) :
    SameFrom surroundings directory fits (fun _ => True) (ensureDirectory path) := by
  intro session _
  rw [perform_ensureDirectory, perform_ensureDirectory,
    FileTree.ensureDirectory_of_isAbsolute absolute _ directory surroundings.directory]
  exact ⟨rfl, fun _ _ => trivial⟩

theorem sameFrom_writeText (absolute : path.isAbsolute = true) (text : String) :
    SameFrom surroundings directory fits (fun _ => True) (writeText path text) := by
  intro session _
  have placed (directory : Location) : devicePath directory path = path :=
    Path.join_of_isAbsolute absolute
  have written (bytes : List UInt8) : session.files.write directory path bytes =
      session.files.write surroundings.directory path bytes :=
    FileTree.write_of_isAbsolute absolute _ _ _ bytes
  refine ⟨?_, fun _ _ => trivial⟩
  simp only [perform_writeText, placed, written]

theorem sameFrom_writeInto (absolute : path.isAbsolute = true) (text : String) :
    SameFrom surroundings directory fits (fun _ => True) (writeInto path text) :=
  (sameFrom_ensureDirectory (Path.isAbsolute_parent absolute)).then fun _ _ =>
    sameFrom_writeText absolute text

end Action

end OpcachePreload
