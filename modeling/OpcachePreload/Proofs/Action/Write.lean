import OpcachePreload.Proofs.Action.Frame
import OpcachePreload.Proofs.FileTree.Way

/-!
# Writing files

Writing a text into a file succeeds on exactly the writable paths, if the device takes the text. The
path then leads to the encoded text, and no other file has changed. Where there is no way to the
path, or the device refuses the file, no file has changed at all; where the device takes some of the
text only, the file has. Actions around it that leave the files alone confine the changes to where
the path leads.
-/

namespace OpcachePreload

namespace Action

variable {path : Path} {surroundings : Surroundings} {session : Session}

/-- Directories that were made stay, also if not all of them could be made. -/
theorem perform_ensureDirectory (path : Path) (surroundings : Surroundings) (session : Session) :
    perform (ensureDirectory path) surroundings session =
      ((session.files.ensureDirectory surroundings.directory path).2.elim (.ok ())
          fun fault => .error (.unusablePath fault.fault (toString fault.path)),
        { session with
          files := (session.files.ensureDirectory surroundings.directory path).1 }) := by
  rw [ensureDirectory]
  simp only [perform_bind, perform_get, perform_read, perform_modify]
  rcases session.files.ensureDirectory surroundings.directory path with ⟨files, _ | fault⟩ <;> rfl

/-- The path as it is given to the device, from a working directory. -/
def devicePath (directory : Location) (path : Path) : Path := (⟨.slash, directory⟩ : Path) / path

theorem perform_writeText (path : Path) (text : String) (surroundings : Surroundings)
    (session : Session) :
    perform (writeText path text) surroundings session =
      match session.stores (devicePath surroundings.directory path)
        (Text.Utf8.encode text.toList) with
      | .whole =>
        match session.files.write surroundings.directory path (Text.Utf8.encode text.toList) with
        | .ok files => (.ok (), { session with files })
        | .error fault => (.error (.unusablePath fault (toString path)), session)
      | .refused =>
        match session.files.write surroundings.directory path [] with
        | .ok _ => (.error (.notStored path), session)
        | .error fault => (.error (.unusablePath fault (toString path)), session)
      | .cut count =>
        match session.files.write surroundings.directory path
          ((Text.Utf8.encode text.toList).take count) with
        | .ok files => (.error (.notStored path), { session with files })
        | .error fault => (.error (.unusablePath fault (toString path)), session) := by
  have placed : (absolute path).perform surroundings session =
      (.ok (devicePath surroundings.directory path), session) := rfl
  simp only [writeText, perform_bind, perform_get, placed, perform_ask]
  generalize Text.Utf8.encode text.toList = bytes
  cases session.stores (devicePath surroundings.directory path) bytes with
  | whole =>
      simp only [Storing.kept]
      cases session.files.write surroundings.directory path bytes <;> rfl
  | refused =>
      simp only [Storing.kept]
      cases session.files.write surroundings.directory path [] <;> rfl
  | cut count =>
      simp only [Storing.kept]
      cases session.files.write surroundings.directory path (bytes.take count) <;> rfl

end Action

/-- A text can be written to a path: there is a way to it, and the device takes all of it. -/
structure Session.Stores (session : Session) (directory : Location) (path : Path) (text : String) :
    Prop where
  writable : session.files.Writable directory path
  whole : session.stores (Action.devicePath directory path) (Text.Utf8.encode text.toList) = .whole

/-- How writing a text into a file can go: what it gives, and the files after it. -/
inductive Writing (directory : Location) (path : Path) (text : String) (before : Session) :
    Except Failure Unit → FileTree → Prop where
  | stored {files : FileTree} (stores : before.Stores directory path text)
      (rewrites : before.files.Rewrites files directory path (Text.Utf8.encode text.toList)) :
      Writing directory path text before (.ok ()) files
  /-- There is no way to the path. -/
  | unreached {files : FileTree} {fault : PathFault} {place : String}
      (not_writable : ¬before.files.Writable directory path)
      (furnishes : before.files.Furnishes files) :
      Writing directory path text before (.error (.unusablePath fault place)) files
  /-- The device refuses the file. -/
  | refused {files : FileTree}
      (refuses : before.stores (Action.devicePath directory path) (Text.Utf8.encode text.toList) =
        .refused)
      (furnishes : before.files.Furnishes files) :
      Writing directory path text before (.error (.notStored path)) files
  /-- The device takes the first bytes only. -/
  | cut {files : FileTree} {count : Nat}
      (cuts : before.stores (Action.devicePath directory path) (Text.Utf8.encode text.toList) =
        .cut count)
      (rewrites : before.files.Rewrites files directory path
        ((Text.Utf8.encode text.toList).take count)) :
      Writing directory path text before (.error (.notStored path)) files

namespace Writing

variable {directory : Location} {path : Path} {text : String} {before : Session}
  {result : Except Failure Unit} {files : FileTree}

/-- A text that can be written is written. -/
theorem eq_ok_iff (writing : Writing directory path text before result files) :
    result = .ok () ↔ before.Stores directory path text := by
  constructor
  · rintro rfl
    cases writing with
    | stored stores _ => exact stores
  · intro stores
    cases writing with
    | stored => rfl
    | unreached not_writable => exact absurd stores.writable not_writable
    | refused refuses => cases refuses.symm.trans stores.whole
    | cut cuts => cases cuts.symm.trans stores.whole

theorem rewrites_of_stores (writing : Writing directory path text before result files)
    (stores : before.Stores directory path text) :
    before.files.Rewrites files directory path (Text.Utf8.encode text.toList) := by
  obtain rfl := writing.eq_ok_iff.mpr stores
  cases writing with
  | stored _ rewrites => exact rewrites

end Writing

namespace Action

variable {path : Path} {surroundings : Surroundings} {session : Session}

/-- Once the directory above it was made, writing goes as the way and the device allow. -/
theorem writing_writeInto (path : Path) (text : String) (surroundings : Surroundings)
    (session : Session) :
    ∃ result files, perform (writeInto path text) surroundings session =
        (result, { session with files }) ∧
      Writing surroundings.directory path text session result files := by
  have furnishes :=
    session.files.furnishes_ensureDirectory surroundings.directory path.parent
  rw [writeInto, perform_bind, perform_ensureDirectory]
  rcases made : session.files.ensureDirectory surroundings.directory path.parent with
    ⟨way, _ | fault⟩ <;> rw [made] at furnishes
  · -- What is written does not matter for whether there is a way.
    have unwritten {bytes : List UInt8} {fault : PathFault}
        (fails : way.write surroundings.directory path bytes = .error fault) :
        ¬session.files.Writable surroundings.directory path := by
      rw [FileTree.writable_iff bytes]
      rintro ⟨other, files, made', written⟩
      obtain ⟨rfl, _⟩ := Prod.mk.inj (made.symm.trans made')
      cases fails.symm.trans written
    have rewrites {bytes : List UInt8} {files : FileTree}
        (written : way.write surroundings.directory path bytes = .ok files) :
        session.files.Rewrites files surroundings.directory path bytes :=
      furnishes.rewrites (FileTree.rewrites_of_write written)
    simp only [Option.elim_none, perform_writeText]
    cases storing : session.stores (devicePath surroundings.directory path)
      (Text.Utf8.encode text.toList) with
    | whole =>
        cases written : way.write surroundings.directory path (Text.Utf8.encode text.toList) with
        | ok files =>
            refine ⟨_, files, rfl, .stored ⟨?_, storing⟩ (rewrites written)⟩
            exact (FileTree.writable_iff _).mpr ⟨way, files, made, written⟩
        | error fault => exact ⟨_, way, rfl, .unreached (unwritten written) furnishes⟩
    | refused =>
        cases written : way.write surroundings.directory path [] with
        | ok files => exact ⟨_, way, rfl, .refused storing furnishes⟩
        | error fault => exact ⟨_, way, rfl, .unreached (unwritten written) furnishes⟩
    | cut count =>
        dsimp only
        cases written : way.write surroundings.directory path
          ((Text.Utf8.encode text.toList).take count) with
        | ok files => exact ⟨_, files, rfl, .cut storing (rewrites written)⟩
        | error fault => exact ⟨_, way, rfl, .unreached (unwritten written) furnishes⟩
  · refine ⟨_, way, rfl, .unreached ?_ furnishes⟩
    rw [FileTree.writable_iff []]
    rintro ⟨_, _, made', _⟩
    cases made.symm.trans made'

/-! ## Confined changes -/

/-- An outcome that changed no file unless it is a result that counts as done, or the output or the
device did not take everything; and then only where certain paths lead. -/
structure Confined {α : Type} (directory : Location) (before : Session) (target : Path → Prop)
    (done : α → Prop) (outcome : Except Failure α × Session) : Prop where
  unchanged : (∀ a, outcome.1 = .ok a → ¬done a) →
    (∀ location, outcome.2.files.bytesAt? location = before.files.bytesAt? location) ∨
      ¬before.Lossless ∧ ∃ failure, outcome.1 = .error failure ∧ failure.isLoss = true
  confined : ∀ location, outcome.2.files.bytesAt? location ≠ before.files.bytesAt? location →
    ∃ path, target path ∧ outcome.2.files.locate directory path = .ok location

variable {α β : Type} {directory : Location} {before : Session} {target : Path → Prop}
  {done : α → Prop} {done' : β → Prop}
  {action : Action α} {next : α → Action β}

theorem confined_of_unchanged {outcome : Except Failure α × Session}
    (same : ∀ location, outcome.2.files.bytesAt? location = before.files.bytesAt? location) :
    Confined directory before target done outcome :=
  ⟨fun _ => .inl same, fun location changed => absurd (same location) changed⟩

/-- What leaves the files alone is confined to nothing. -/
theorem confined_of_keeps (keeps : Keeps Session.files action) :
    Confined directory session target done (action.perform surroundings session) :=
  confined_of_unchanged fun _ => by rw [keeps surroundings session]

theorem Confined.mono {better : Path → Prop} {outcome : Except Failure α × Session}
    (confined : Confined directory before target done outcome)
    (implied : ∀ path, target path → better path) :
    Confined directory before better done outcome where
  unchanged := confined.unchanged
  confined location changed := by
    obtain ⟨path, aimed, leads⟩ := confined.confined location changed
    exact ⟨path, implied path aimed, leads⟩

/-- Where a run starts matters only as far as its files and what becomes of changes. -/
theorem Confined.from {start : Session} {outcome : Except Failure α × Session}
    (confined : Confined directory before target done outcome) (files : before.files = start.files)
    (outlets : before.outlets = start.outlets) : Confined directory start target done outcome where
  unchanged undone := by
    have unchanged := confined.unchanged undone
    rwa [Session.Lossless, files, outlets] at unchanged
  confined := files ▸ confined.confined

/-- What is done before leaves the files alone, and where changes go. -/
theorem confined_bind (keeps : ∀ {γ : Type} {view : Session → γ}, Quiet view → Keeps view action)
    (confined : ∀ a after, action.perform surroundings session = (.ok a, after) →
      Confined directory after target done' ((next a).perform surroundings after)) :
    Confined directory session target done'
      ((action >>= next).perform surroundings session) := by
  have files := keeps quiet_files surroundings session
  have outlets := keeps quiet_outlets surroundings session
  rw [perform_bind]
  rcases outcome : action.perform surroundings session with ⟨_ | a, after⟩ <;>
    rw [outcome] at files outlets
  · exact confined_of_unchanged fun _ => by rw [files]
  · exact (confined a after outcome).from files outlets

/-- What is done afterwards can only fail because of the output. -/
theorem Confined.bind
    (confined : Confined directory session target done (action.perform surroundings session))
    (outlets : Keeps Session.outlets action) (finishes : ∀ a, Finishes done' (next a)) :
    Confined directory session target done'
      ((action >>= next).perform surroundings session) := by
  have kept := outlets surroundings session
  rw [perform_bind]
  rcases outcome : action.perform surroundings session with ⟨failure | a, between⟩ <;>
    rw [outcome] at confined kept
  · exact ⟨fun _ => by simpa using confined.unchanged (by simp), confined.confined⟩
  · have ends := finishes a surroundings between
    obtain ⟨after, same, _, ⟨b, performed, then_holds⟩ | ⟨text, performed, lossy⟩⟩ := ends
    · simp only [performed]
      refine ⟨fun undone => absurd then_holds (undone b rfl), ?_⟩
      rw [same]
      exact confined.confined
    · simp only [performed]
      refine ⟨fun _ => .inr ⟨?_, _, rfl, rfl⟩, ?_⟩
      · rwa [Session.Lossless, ← kept]
      · rw [same]
        exact confined.confined

/-- Writing into a file leaves alone where changes go. -/
theorem keeps_outlets_writeInto (path : Path) (text : String) :
    Keeps Session.outlets (writeInto path text) := by
  intro surroundings session
  obtain ⟨_, _, performed, _⟩ := writing_writeInto path text surroundings session
  rw [performed]
  rfl

/-- Writing into a file is confined to its path. -/
theorem confined_writeInto (path : Path) (text : String) :
    Confined surroundings.directory session (· = path) (fun _ => True)
      ((writeInto path text).perform surroundings session) := by
  obtain ⟨result, files, performed, writing⟩ := writing_writeInto path text surroundings session
  rw [performed]
  -- Where the file is rewritten, only the location that the path leads to has changed.
  have only {bytes : List UInt8}
      (rewrites : session.files.Rewrites files surroundings.directory path bytes) :
      ∀ location, files.bytesAt? location ≠ session.files.bytesAt? location →
        ∃ target, target = path ∧ files.locate surroundings.directory target = .ok location := by
    obtain ⟨here, leads, _, same⟩ := rewrites
    intro location changed
    have found : location = here := Decidable.not_not.mp fun elsewhere =>
      changed (same location elsewhere)
    exact ⟨path, rfl, found ▸ leads⟩
  cases writing with
  | stored _ rewrites =>
      exact ⟨fun undone => absurd trivial (undone () rfl), only rewrites⟩
  | unreached _ furnishes | refused _ furnishes =>
      exact confined_of_unchanged furnishes.bytesAt?_eq
  | cut cuts rewrites =>
      exact ⟨fun _ => .inr ⟨fun lossless => lossless.1 _ _ _ cuts, _, rfl, rfl⟩, only rewrites⟩

end Action

end OpcachePreload
