import OpcachePreload.Proofs.Action
import OpcachePreload.Proofs.FileTree.Listing
import OpcachePreload.Proofs.Text.Utf8

/-!
# Asking for a file

Asking whether a path leads to a file says so, or fails where the tree of files does not answer.
-/

namespace OpcachePreload

namespace Action

variable {path : Path} {surroundings : Surroundings} {session : Session}

/-- Where asking for a path does not fail, it says whether the path leads to a file. -/
theorem perform_isFile (answers : session.files.Answers surroundings.directory path) :
    (isFile path).perform surroundings session =
      (.ok (session.files.leadsToFile surroundings.directory path), session) := by
  obtain ⟨found, answered⟩ := answers
  rw [isFile, perform_bind, find, perform_ask, answered]
  unfold FileTree.probe at answered
  unfold FileTree.leadsToFile FileTree.read
  cases there : session.files.lookup surroundings.directory path with
  | ok node =>
      rw [there] at answered
      obtain rfl := Except.ok.inj answered
      cases node <;> rfl
  | error fault =>
      rw [there] at answered
      dsimp only at answered
      split at answered
      · obtain rfl := Except.ok.inj answered
        rfl
      · contradiction

theorem perform_isFile_of_leads
    (leads : session.files.leadsToFile surroundings.directory path = true) :
    (isFile path).perform surroundings session = (.ok true, session) := by
  have answers : session.files.Answers surroundings.directory path := by
    obtain ⟨bytes, held⟩ := FileTree.exists_of_leadsToFile leads
    exact FileTree.answers_of_lookup (FileTree.lookup_of_read held)
  rw [perform_isFile answers, leads]

theorem perform_isFile_of_error {fault : PathFault}
    (fails : session.files.probe surroundings.directory path = .error fault) :
    (isFile path).perform surroundings session =
      (.error (.unusablePath fault (toString path)), session) := by
  rw [isFile, perform_bind, find, perform_ask, fails]
  rfl

theorem settles_isFile {files : FileTree} (answers : files.Answers surroundings.directory path) :
    Settles surroundings files (isFile path)
      (.ok (files.leadsToFile surroundings.directory path)) := by
  rintro session rfl
  exact ⟨session, perform_isFile answers, rfl⟩

/-- Where asking for a path does not fail, it says whether the path leads to a directory. -/
theorem perform_isDirectory (answers : session.files.Answers surroundings.directory path) :
    (isDirectory path).perform surroundings session =
      (.ok (decide (session.files.lookup surroundings.directory path = .ok .directory)),
        session) := by
  obtain ⟨found, answered⟩ := answers
  simp only [isDirectory, find, perform_bind, perform_ask, answered, mapError_ok, perform_pure]
  unfold FileTree.probe at answered
  cases there : session.files.lookup surroundings.directory path with
  | ok node =>
      rw [there] at answered
      obtain rfl := Except.ok.inj answered
      cases node <;> rfl
  | error fault =>
      rw [there] at answered
      dsimp only at answered
      split at answered
      · obtain rfl := Except.ok.inj answered
        rfl
      · contradiction

/-! ## Reading a file that is there -/

variable {bytes : List UInt8}

/-- A text without carriage returns is read from its bytes as it is. -/
theorem textOfBytes_encode {text : String} (clean : '\r' ∉ text.toList) :
    textOfBytes (Text.Utf8.encode text.toList) = .ok text := by
  rw [textOfBytes, Text.Utf8.decode_encode]
  change Except.ok (String.ofList (Text.unifyNewlines text.toList)) = Except.ok text
  rw [Text.unifyNewlines_of_not_mem clean, String.ofList_toList]

theorem perform_find_of_read
    (held : session.files.read surroundings.directory path = .ok bytes) :
    (find path).perform surroundings session = (.ok (some (.file bytes)), session) := by
  rw [find, perform_ask, FileTree.probe_of_lookup (FileTree.lookup_of_read held), mapError_ok]

theorem perform_readText_of_read
    (held : session.files.read surroundings.directory path = .ok bytes) :
    (readText path).perform surroundings session =
      ((textOfBytes bytes).mapError (.content <| .undecodable ·), session) := by
  simp only [readText, readBytes, perform_bind, perform_ask, held, mapError_ok, perform_ofExcept]

theorem perform_absolute (path : Path) (surroundings : Surroundings) (session : Session) :
    (absolute path).perform surroundings session =
      (.ok (⟨.slash, surroundings.directory⟩ / path), session) :=
  rfl

end Action

/-- A session with one file, which lies at the root. -/
def Session.holding (name : String) (bytes : List UInt8) : Session where
  files := FileTree.empty.put [name] (.file bytes)

end OpcachePreload
