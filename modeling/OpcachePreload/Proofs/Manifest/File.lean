import OpcachePreload.Proofs.Action.Find
import OpcachePreload.Proofs.Action.Write
import OpcachePreload.Proofs.Manifest.Text

/-!
# Manifest files

A manifest that was written to a file is loaded from it. Unifying line ends has no part in this: the
text of a manifest has no carriage return, those of its items being escaped.
-/

namespace OpcachePreload

namespace Manifest

/-- The text that a manifest's file gets. -/
def fileText (manifest : Manifest) : String := manifest.text ++ "\n"

theorem carriageReturn_not_mem_fileText (manifest : Manifest) :
    '\r' ∉ manifest.fileText.toList := by
  rw [fileText, text, String.toList_append, String.toList_ofList]
  simp [Json.carriageReturn_not_mem_writtenObject]

theorem parse_fileText (manifest : Manifest) (path : String) :
    parse manifest.fileText path = .ok manifest := by
  rw [parse, fileText]
  exact congrArg _ (ofText_text_append manifest (rfl : Json.skipBlanks ['\n'] = []))

theorem ofBytes_fileText (manifest : Manifest) (path : String) :
    ofBytes (Text.Utf8.encode manifest.fileText.toList) path = .ok manifest := by
  rw [ofBytes, Action.textOfBytes_encode manifest.carriageReturn_not_mem_fileText]
  exact parse_fileText manifest path

variable {path : Path} {surroundings : Surroundings} {session : Session}

/-- The file that holds the bytes of a manifest's text is read as that text. -/
theorem readText_of_read (manifest : Manifest)
    (held : session.files.read surroundings.directory path =
      .ok (Text.Utf8.encode manifest.fileText.toList)) :
    (Action.readText path).perform surroundings session = (.ok manifest.fileText, session) := by
  simp only [Action.readText, Action.readBytes, Action.perform_bind, Action.perform_ask, held,
    mapError_ok, Action.perform_ofExcept,
    Action.textOfBytes_encode manifest.carriageReturn_not_mem_fileText]

/-- Loading reads the bytes of the file and leaves the session as it is. -/
theorem perform_load_of_read {bytes : List UInt8}
    (held : session.files.read surroundings.directory path = .ok bytes) :
    (load path).perform surroundings session = (ofBytes bytes (toString path), session) := by
  simp only [load, Action.readBytes, Action.perform_bind, Action.perform_ask, held, mapError_ok,
    Action.perform_ofExcept]
  cases ofBytes bytes (toString path) <;> rfl

/-- The file that holds the bytes of a manifest's text is loaded as that manifest. -/
theorem load_of_read (manifest : Manifest)
    (held : session.files.read surroundings.directory path =
      .ok (Text.Utf8.encode manifest.fileText.toList)) :
    (load path).perform surroundings session = (.ok manifest, session) := by
  rw [perform_load_of_read held, ofBytes_fileText]

theorem perform_write (manifest : Manifest) (path : Path) (surroundings : Surroundings)
    (session : Session) :
    (manifest.write path).perform surroundings session =
      match (Action.writeInto path manifest.fileText).perform surroundings session with
      | (.ok (), after) =>
        (.ok (), after.noting ⟨.info, "Wrote manifest: " ++ toString path, none⟩)
      | (.error failure, after) => (.error failure, after) := by
  rw [write, Action.perform_bind, ← fileText]
  rcases (Action.writeInto path manifest.fileText).perform surroundings session with ⟨_ | _, _⟩ <;>
    rfl

/-- What is written to a writable path is loaded from it. The file holds the encoded text of the
manifest, reading it takes back that text as it is, and it is the text of that manifest. What was at
the path before has no part in it. -/
theorem load_of_write (manifest : Manifest) (path : Path) (surroundings : Surroundings)
    (session : Session)
    (writable : session.Stores surroundings.directory path (manifest.text ++ "\n")) :
    ∃ after : Session,
      (manifest.write path).perform surroundings session = (.ok (), after) ∧
      after.files.read surroundings.directory path =
        .ok (Text.Utf8.encode (manifest.text ++ "\n").toList) ∧
      (Action.readText path).perform surroundings after = (.ok (manifest.text ++ "\n"), after) ∧
      (load path).perform surroundings after = (.ok manifest, after) := by
  obtain ⟨result, files, performed, writing⟩ :=
    Action.writing_writeInto path manifest.fileText surroundings session
  obtain rfl := writing.eq_ok_iff.mpr writable
  refine ⟨Session.noting { session with files } _, by rw [perform_write, performed], ?_⟩
  have held : (Session.noting { session with files }
      ⟨.info, "Wrote manifest: " ++ toString path, none⟩).files.read surroundings.directory path =
        .ok (Text.Utf8.encode manifest.fileText.toList) := by
    rw [Session.files_noting]
    exact (writing.rewrites_of_stores writable).read_eq
  exact ⟨held, manifest.readText_of_read held, manifest.load_of_read held⟩

/-- A manifest with characters of every kind, written below directories that are not there yet. -/
theorem load_of_write_below_nothing :
    let surroundings : Surroundings := ⟨[], .empty, .notFound, false, .ordinary⟩
    let session : Session := { files := .empty }
    let manifest : Manifest := ⟨["App\\Say\"", "\r\n"], ["\x00\x7f\u2028é"], ["𝄞"]⟩
    let path : Path := ⟨.relative, ["var", "preload.json"]⟩
    session.Stores [] path (manifest.text ++ "\n") ∧
      ∃ after : Session, (manifest.write path).perform surroundings session = (.ok (), after) ∧
        (load path).perform surroundings after = (.ok manifest, after) := by
  intro surroundings session manifest path
  have writable : session.Stores [] path (manifest.text ++ "\n") :=
    ⟨⟨FileTree.empty.put ["var"] .directory, ["var", "preload.json"], rfl, by decide, by decide⟩,
      rfl⟩
  obtain ⟨after, written, _, _, loaded⟩ := load_of_write manifest path surroundings session writable
  exact ⟨writable, after, written, loaded⟩

end Manifest

end OpcachePreload
