import OpcachePreload.Manifest.File
import OpcachePreload.Proofs.Json.Written

/-!
# The text of a manifest

The text of a manifest is read as that manifest.
-/

namespace OpcachePreload.Manifest

@[simp]
theorem textsOf_texts (items : List String) : textsOf (.list (items.map .text)) = some items := by
  change (items.map Value.text).mapM Value.toText? = some items
  induction items with
  | nil => rfl
  | cons item rest ih =>
      rw [List.map_cons, List.mapM_cons, ih]
      rfl

/-- Members with the three names in their places are read as the manifest of their items. -/
theorem ofValue_members (manifest : Manifest) :
    ofValue (.mapping (Json.assignMembers [] [("classes", manifest.classes),
      ("files", manifest.files), ("compile", manifest.compile)])) = some manifest := by
  simp [ofValue, Json.assignMembers, Value.assign, Value.field?, Value.sameKey]

/-- The text of a manifest is read as that manifest, also with blanks behind it. -/
theorem ofText_text_append (manifest : Manifest) {rest : List Char}
    (blank : Json.skipBlanks rest = []) :
    ofText (manifest.text ++ String.ofList rest) = .ok manifest := by
  simp only [ofText, text, ← String.ofList_append,
    Json.read_writtenObject _ (List.cons_ne_nil _ _) blank, ofValue_members]

theorem ofText_text (manifest : Manifest) : ofText manifest.text = .ok manifest := by
  have whole := ofText_text_append manifest (rfl : Json.skipBlanks [] = [])
  simpa using whole

/-- The text of a manifest is read as that manifest, whatever file it is said to stand in. -/
theorem parse_text (manifest : Manifest) (path : String) :
    parse manifest.text path = .ok manifest := by
  rw [parse, ofText_text]
  rfl

end OpcachePreload.Manifest
