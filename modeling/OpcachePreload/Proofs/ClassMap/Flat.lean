import OpcachePreload.Proofs.ClassMap.Load
import OpcachePreload.Proofs.Manifest.Shape
import OpcachePreload.Proofs.OrderedMap

/-!
# Class maps in JSON

A class map in JSON is an object whose values are strings, and is loaded as the entries of the
object. Whatever else counts as nothing is loaded as a map without entries, an object or not. Every
other value is reported as a class map that cannot be used.
-/

namespace OpcachePreload

/-- Assigning distinct keys puts them down in order. -/
theorem OrderedMap.toList_ofList_of_nodup {α β : Type} [DecidableEq α] {entries : List (α × β)}
    (distinct : (entries.map Prod.fst).Nodup) : (ofList entries).toList = entries := by
  induction entries using List.reverseRecOn with
  | nil => rfl
  | append_singleton entries entry ih =>
      rw [List.map_append, List.nodup_append] at distinct
      obtain ⟨earlier_distinct, _, apart⟩ := distinct
      have absent : entry.1 ∉ (ofList entries).keys := by
        rw [keys, ih earlier_distinct]
        exact fun present => apart _ present entry.1 (List.mem_singleton_self _) rfl
      rw [ofList_append_singleton, toList_insert_of_not_mem entry.2 absent, ih earlier_distinct]

namespace Json

/-! ## Objects of plain strings -/

/-- Characters that stand for themselves in a string. -/
def Plain (text : List Char) : Prop := ∀ c ∈ text, c ≠ '"' ∧ c ≠ '\\' ∧ 0x1f < c.toNat

theorem paired_map_toNat (text : List Char) :
    paired (text.map Char.toNat) = text.map Char.toNat := by
  induction text with
  | nil => rfl
  | cons c rest ih =>
      rw [List.map_cons, paired_cons, ih]
      intro low _
      rw [(not_isSurrogate_toNat c).1, Bool.false_and]

theorem quoted_of_plain {text : List Char} (plain : Plain text) :
    Quoted text (text.map Char.toNat) := by
  refine ⟨text.map fun c => ([c], c.toNat), ?_, ?_, ?_⟩
  · intro piece listed
    obtain ⟨c, present, rfl⟩ := List.mem_map.mp listed
    obtain ⟨not_quote, not_backslash, visible⟩ := plain c present
    exact .plain not_quote not_backslash visible
  · simp [List.flatMap_map]
  · rw [List.map_map]
    exact (paired_map_toNat text).symm

/-- A member that holds a text, without blanks. -/
def textMember (inside : List Char) (codes : List Nat) (text : List Char) : Member :=
  ⟨[], inside, codes, [], ⟨[], '"' :: (text ++ ['"']), [], textOfCodes (text.map Char.toNat)⟩⟩

/-- The text of an object without blanks around it. -/
def compactObject (members : List Member) : List Char :=
  '\x7b' :: (Text.joinWith ',' (members.map Member.written) ++ ['\x7d'])

/-- A member that holds a text under a name can be written if both can. -/
theorem written_textMember {inside text : List Char} {codes : List Nat}
    (named : Quoted inside codes)
    (plain : Plain text) :
    (textMember inside codes text).Padded ∧
      Spelled (textMember inside codes text).item.text
        (textMember inside codes text).item.value := by
  have nothing : Blank [] := by simp [Blank]
  exact ⟨⟨nothing, named, nothing, nothing, nothing⟩, .string (quoted_of_plain plain)⟩

theorem spelledObject_compactObject {members : List Member}
    (written : ∀ member ∈ members, member.Padded ∧ Spelled member.item.text member.item.value) :
    SpelledObject (compactObject members) members := by
  have nothing : Blank [] := by simp [Blank]
  refine ⟨written, [], _, [], nothing, nothing, ?_, rfl⟩
  split
  · rename_i no_members
    rw [no_members]
    exact nothing
  · rfl

/-! ## Texts that are not blank -/

theorem not_isBlank_of_isDigit {c : Char} (digit : c.isDigit = true) : Text.isBlank c = false := by
  have range : 48 ≤ c.toNat ∧ c.toNat ≤ 57 := by
    simpa [Char.isDigit, UInt32.le_iff_toNat_le] using digit
  apply List.any_eq_false.mpr
  intro blanks listed
  rw [Text.CodeRange.covers_iff]
  simp only [Text.blankRanges, List.mem_cons, List.not_mem_nil, or_false] at listed
  rcases listed with rfl | rfl | rfl | rfl | rfl | rfl | rfl | rfl | rfl | rfl
  all_goals
    dsimp only
    omega

/-- No value starts with a blank, of JSON or another one. -/
theorem Spelled.exists_mem_not_isBlank {text : List Char} {found : Value}
    (spelled : Spelled text found) : ∃ c ∈ text, Text.isBlank c = false := by
  cases spelled with
  | name listed =>
      simp only [names, List.mem_cons, List.not_mem_nil, or_false] at listed
      rcases listed with rfl | rfl | rfl | rfl | rfl | rfl <;>
        exact ⟨_, List.mem_cons_self, by decide⟩
  | number proper =>
      obtain ⟨c, more, digit, text_eq⟩ := proper.toFormed.exists_text_eq
      exact ⟨c, by simp [text_eq], not_isBlank_of_isDigit digit⟩
  | string | emptyArray | array | emptyObject | object =>
      exact ⟨_, List.mem_cons_self, by decide⟩

theorem SpelledText.not_isBlankText {text : String} {found : Value}
    (spelled : SpelledText text.toList found) : DataFile.isBlankText text = false := by
  obtain ⟨before, front, after, _, spelled, _, text_eq⟩ := spelled
  obtain ⟨c, present, visible⟩ := spelled.exists_mem_not_isBlank
  rw [DataFile.isBlankText, text_eq]
  apply List.all_eq_false.mpr
  exact ⟨c, by simp [present], by simp [visible]⟩

/-- The bytes of a text in JSON hold its value. -/
theorem SpelledText.ofBytes_eq {text : String} {found : Value} {bytes : List UInt8}
    (spelled : SpelledText text.toList found) (decoded : Action.textOfBytes bytes = .ok text) :
    DataFile.ofBytes .json bytes = .ok found := by
  rw [DataFile.ofBytes, decoded]
  change DataFile.valueOf .json text = .ok found
  rw [DataFile.valueOf, spelled.not_isBlankText, DataFile.parse, Json.read,
    document_eq_ok_iff.mpr spelled]
  rfl

/-- The bytes of a text that spells no value in JSON hold none, unless the text is blank. -/
theorem exists_ofBytes_eq_error {text : String} {bytes : List UInt8}
    (decoded : Action.textOfBytes bytes = .ok text) (visible : DataFile.isBlankText text = false)
    (unspelled : ∀ found, ¬SpelledText text.toList found) :
    ∃ fault, DataFile.ofBytes .json bytes = .error (.json fault) := by
  rw [DataFile.ofBytes, decoded]
  change ∃ fault, DataFile.valueOf .json text = .error (.json fault)
  rw [DataFile.valueOf, visible, DataFile.parse, Json.read]
  cases given : document text.toList with
  | ok found => exact absurd (document_eq_ok_iff.mp given) (unspelled found)
  | error fault => exact ⟨_, rfl⟩

end Json

/-! ## Values that are class maps -/

namespace ClassMap

variable {entry : Value × Value} {entries : List (Value × Value)} {pair : List Nat × List Nat}
  {pairs : List (List Nat × List Nat)} {map : CodedClassMap} {value found : Value}

theorem entryOf_eq_ok_iff :
    entryOf entry = .ok pair ↔ entry.1.codes? = some pair.1 ∧ entry.2.codes? = some pair.2 := by
  unfold entryOf
  cases entry.1.codes? <;> cases entry.2.codes? <;> simp [Prod.ext_iff]

theorem isSome_codes? (value : Value) : value.codes?.isSome = value.isText := by
  cases value <;> rfl

theorem exists_entryOf_iff :
    (∃ pair, entryOf entry = .ok pair) ↔ entry.1.isText = true ∧ entry.2.isText = true := by
  simp only [entryOf_eq_ok_iff, ← isSome_codes?, Option.isSome_iff_exists]
  constructor
  · rintro ⟨pair, name, file⟩
    exact ⟨⟨_, name⟩, _, file⟩
  · rintro ⟨⟨name, named⟩, file, held⟩
    exact ⟨(name, file), named, held⟩

theorem mapM_entryOf_cons_eq_ok_iff :
    (entry :: entries).mapM entryOf = .ok pairs ↔
      ∃ pair rest, entryOf entry = .ok pair ∧ entries.mapM entryOf = .ok rest ∧
        pair :: rest = pairs := by
  simp only [List.mapM_cons, bind_eq_ok_iff, pure, Except.pure, Except.ok.injEq]
  constructor
  · rintro ⟨pair, first, rest, others, given⟩
    exact ⟨pair, rest, first, others, given⟩
  · rintro ⟨pair, rest, first, others, given⟩
    exact ⟨pair, first, rest, others, given⟩

theorem exists_mapM_entryOf_iff :
    (∃ pairs, entries.mapM entryOf = .ok pairs) ↔
      ∀ entry ∈ entries, entry.1.isText = true ∧ entry.2.isText = true := by
  induction entries with
  | nil => simp [pure, Except.pure]
  | cons entry rest ih =>
      rw [List.forall_mem_cons, ← ih, ← exists_entryOf_iff]
      simp only [mapM_entryOf_cons_eq_ok_iff]
      constructor
      · rintro ⟨_, pair, pairs, first, others, _⟩
        exact ⟨⟨pair, first⟩, pairs, others⟩
      · rintro ⟨⟨pair, first⟩, pairs, others⟩
        exact ⟨_, pair, pairs, first, others, rfl⟩

theorem ofValue_of_nothing (nothing : value.isSomething = false) : ofValue value = .ok .empty := by
  unfold ofValue
  rw [if_pos (by rw [nothing]; rfl)]

theorem ofValue_mapping_eq_ok_iff :
    ofValue (.mapping entries) = .ok map ↔
      ∃ pairs, entries.mapM entryOf = .ok pairs ∧ OrderedMap.ofList pairs = map := by
  cases entries with
  | nil =>
      rw [ofValue_of_nothing rfl]
      simp [pure, Except.pure, OrderedMap.ofList]
  | cons entry rest => exact map_eq_ok_iff

/-- A value is a class map exactly if it counts as nothing or is a mapping of texts to texts. -/
theorem exists_ofValue_iff :
    (∃ map, ofValue value = .ok map) ↔ value.isSomething = false ∨
      ∃ entries, value = .mapping entries ∧
        ∀ entry ∈ entries, entry.1.isText = true ∧ entry.2.isText = true := by
  by_cases nothing : value.isSomething = false
  · simp [ofValue_of_nothing nothing, nothing]
  · rw [or_iff_right nothing]
    cases value with
    | mapping entries =>
        simp only [ofValue_mapping_eq_ok_iff, Value.mapping.injEq, exists_eq_left',
          ← exists_mapM_entryOf_iff]
        constructor
        · rintro ⟨_, pairs, made, _⟩
          exact ⟨pairs, made⟩
        · rintro ⟨pairs, made⟩
          exact ⟨_, pairs, made, rfl⟩
    | _ => simp [ofValue, nothing]

/-- The entries of an object keep their names, and have the texts of their values. -/
theorem mapM_entryOf_coded {coded : List (List Nat × Value)}
    (made : (coded.map Json.codedEntry).mapM entryOf = .ok pairs) :
    pairs.map Prod.fst = coded.map Prod.fst ∧
      ∀ name, (pairs.find? (·.1 = name)).map Prod.snd =
        ((coded.find? (·.1 = name)).map Prod.snd).bind Value.codes? := by
  induction coded generalizing pairs with
  | nil =>
      obtain rfl := Except.ok.inj made
      exact ⟨rfl, fun name => rfl⟩
  | cons entry rest ih =>
      obtain ⟨pair, others, first, rest_made, rfl⟩ := mapM_entryOf_cons_eq_ok_iff.mp made
      obtain ⟨name_eq, file_eq⟩ := entryOf_eq_ok_iff.mp first
      have name_eq : entry.1 = pair.1 :=
        Option.some.inj ((Json.codes?_textOfCodes entry.1).symm.trans name_eq)
      obtain ⟨names, values⟩ := ih rest_made
      refine ⟨by rw [List.map_cons, List.map_cons, names, name_eq], fun name => ?_⟩
      rw [List.find?_cons, List.find?_cons, name_eq]
      cases decide (pair.1 = name) with
      | true => exact file_eq.symm
      | false => exact values name

/-- The map of an object has each name where it stands first, with the text that the last member of
that name holds. -/
theorem entries_of_members {members : List Json.Member}
    (made : ofValue (.mapping (Json.entriesAfter [] members)) = .ok map) :
    map.keys = (members.map Json.Member.codes).eraseDups ∧
      ∀ name file, map.get? name = some file ↔
        ∃ held, Json.LastUnder name held members ∧ held.codes? = some file := by
  obtain ⟨pairs, texts, rfl⟩ := ofValue_mapping_eq_ok_iff.mp made
  rw [Json.entriesAfter_eq] at texts
  obtain ⟨names_eq, values_eq⟩ := mapM_entryOf_coded texts
  have pairs_eq : (OrderedMap.ofList pairs).toList = pairs :=
    OrderedMap.toList_ofList_of_nodup (names_eq ▸ OrderedMap.nodup _)
  constructor
  · rw [OrderedMap.keys, pairs_eq, names_eq]
    have names : (members.map Json.Member.coded).map Prod.fst = members.map Json.Member.codes := by
      rw [List.map_map]
      rfl
    have same : (instBEqOfDecidableEq : BEq (List Nat)) = List.instBEq :=
      lawful_beq_subsingleton _ _
    rw [← names, ← same]
    exact OrderedMap.keys_ofList (members.map Json.Member.coded)
  · intro name file
    rw [OrderedMap.get?, pairs_eq, values_eq, Option.bind_eq_some_iff]
    exact exists_congr fun held => and_congr_left' Json.get?_ofList_eq_some_iff

/-! ## Loading -/

/-- What comes of a class map in JSON whose text is a value. It is loaded exactly if the value
counts as nothing or is an object whose values are strings, and then has the entries of the object.
-/
structure OfJson (path : Path) (text : List Char) (found : Value)
    (result : Except Failure CodedClassMap) : Prop where
  succeeds_iff : (∃ map, result = .ok map) ↔ found.isSomething = false ∨
    ∃ entries, found = .mapping entries ∧ ∀ entry ∈ entries, entry.2.isText = true
  nothing : found.isSomething = false → result = .ok .empty
  entries : ∀ members, Json.SpelledObject text members → ∀ map, result = .ok map →
    map.keys = (members.map Json.Member.codes).eraseDups ∧
      ∀ name file, map.get? name = some file ↔
        ∃ held, Json.LastUnder name held members ∧ held.codes? = some file
  error : ∀ failure, result = .error failure → ∃ problem, failure = .classMap path problem

theorem ofJson_of_spelledText (path : Path) {text : List Char}
    (spelled : Json.SpelledText text found) :
    OfJson path text found ((ofValue found).mapError (rejection path)) := by
  constructor
  · simp only [mapError_eq_ok_iff, exists_ofValue_iff]
    refine or_congr Iff.rfl (exists_congr fun entries => and_congr_right fun mapping => ?_)
    subst mapping
    obtain ⟨members, _, rfl⟩ := Json.spelledText_mapping_iff.mp spelled
    exact forall₂_congr fun entry present =>
      and_iff_right (Json.isText_of_mem_entriesAfter present)
  · intro nothing
    rw [ofValue_of_nothing nothing, mapError_ok]
  · intro members object map made
    have spelled' := Json.spelledText_mapping_iff.mpr ⟨members, object, rfl⟩
    obtain rfl : found = .mapping (Json.entriesAfter [] members) := Except.ok.inj
      ((Json.document_eq_ok_iff.mpr spelled).symm.trans (Json.document_eq_ok_iff.mpr spelled'))
    exact entries_of_members (mapError_eq_ok_iff.mp made)
  · intro failure failed
    obtain ⟨problem, bad, rfl⟩ := mapError_eq_error_iff.mp failed
    obtain ⟨_, front, _, _, spelled, _⟩ := spelled
    exact ⟨problem, if_pos (isShowable_of_ofValue bad spelled.isShowable)⟩

theorem ofData_of_spelledText (path : Path) {text : String} {bytes : List UInt8}
    (decoded : Action.textOfBytes bytes = .ok text) (spelled : Json.SpelledText text.toList found) :
    OfJson path text.toList found (ofData path (DataFile.ofBytes .json bytes)) := by
  rw [spelled.ofBytes_eq decoded]
  exact ofJson_of_spelledText path spelled

theorem ofData_of_unspelled (path : Path) {text : String} {bytes : List UInt8}
    (decoded : Action.textOfBytes bytes = .ok text) (visible : DataFile.isBlankText text = false)
    (unspelled : ∀ found, ¬Json.SpelledText text.toList found) :
    ∃ problem, ofData path (DataFile.ofBytes .json bytes) = .error (.classMap path problem) := by
  obtain ⟨fault, given⟩ := Json.exists_ofBytes_eq_error decoded visible unspelled
  rw [given]
  exact ⟨.unreadable (.json fault), rfl⟩

/-- A file in JSON that spells a value is loaded as a class map exactly if the value counts as
nothing or is an object whose values are strings. The map has the entries of the object, each name
where it stands first and with what stands there last. Every other value is reported with the path
of the file, and so is every text that spells no value that can be read: one that is no JSON, and
one in which an integer has too many digits. -/
theorem load_of_json (path : Path) (surroundings : Surroundings) (session : Session)
    (bytes : List UInt8) (text : String)
    (json : DataFile.format? path = some .json)
    (held : session.files.read surroundings.directory path = .ok bytes)
    (decoded : Action.textOfBytes bytes = .ok text) :
    ∃ result after, (load path).perform surroundings session = (result, after) ∧
      (∀ found, Json.SpelledText text.toList found → OfJson path text.toList found result) ∧
      ((∀ found, ¬Json.SpelledText text.toList found) → DataFile.isBlankText text = false →
        ∃ problem, result = .error (.classMap path problem)) := by
  have answers := FileTree.answers_of_lookup (FileTree.lookup_of_read held)
  have of_json := fun (found : Value) (spelled : Json.SpelledText text.toList found) =>
    ofData_of_spelledText path decoded spelled
  have of_none := fun unspelled visible => ofData_of_unspelled path decoded visible unspelled
  rw [perform_load answers, loaded_of_located (located_of_read held), ofFile_of_read held,
    ofBytes_of_data json]
  cases made : ofData path (DataFile.ofBytes .json bytes) with
  | error failure =>
      rw [made] at of_json of_none
      exact ⟨_, _, rfl, of_json, of_none⟩
  | ok map =>
      rw [made] at of_json of_none
      exact ⟨_, _, rfl, of_json, of_none⟩

/-- An object in which a name is repeated, and in which two names are lone surrogates. -/
def repeated : List Json.Member :=
  [Json.textMember ['A'] ['A'.toNat] "a.php".toList,
    Json.textMember "\\ud800".toList [0xd800] "b.php".toList,
    Json.textMember "\\ud801".toList [0xd801] "c.php".toList,
    Json.textMember ['A'] ['A'.toNat] "d.php".toList]

theorem spelledObject_repeated :
    Json.SpelledObject (Json.compactObject repeated) repeated := by
  have letter : Json.Quoted ['A'] ['A'.toNat] := Json.quoted_of_plain (by simp [Json.Plain])
  have lone {digits : List Char} {code : Nat} (hex : Json.hexCode? digits = some (code, [])) :
      Json.Quoted ('\\' :: 'u' :: digits) [code] :=
    ⟨[('\\' :: 'u' :: digits, code)], by simpa using .code hex, by simp, rfl⟩
  refine Json.spelledObject_compactObject ?_
  simp only [repeated, List.forall_mem_cons]
  refine ⟨?_, ?_, ?_, ?_, nofun⟩
  · exact Json.written_textMember letter (by simp [Json.Plain])
  · exact Json.written_textMember (lone (by decide)) (by simp [Json.Plain])
  · exact Json.written_textMember (lone (by decide)) (by simp [Json.Plain])
  · exact Json.written_textMember letter (by simp [Json.Plain])

theorem load_of_json_of_repeated :
    ∃ map after,
      (load ⟨.relative, ["classes.json"]⟩).perform ⟨[], .empty, .notFound, false, .ordinary⟩
        (.holding "classes.json"
          (Text.Utf8.encode (String.ofList (Json.compactObject repeated)).toList)) =
            (.ok map, after) ∧
      map.keys = [Text.codes "A", [0xd800], [0xd801]] ∧
      map.get? (Text.codes "A") = some (Text.codes "d.php") ∧
      map.get? [0xd801] = some (Text.codes "c.php") := by
  have object :
    Json.SpelledObject (String.ofList (Json.compactObject repeated)).toList repeated := by
    rw [String.toList_ofList]
    exact spelledObject_repeated
  obtain ⟨result, after, performed, of_spelled, _⟩ := load_of_json ⟨.relative, ["classes.json"]⟩
    ⟨[], .empty, .notFound, false, .ordinary⟩ (.holding "classes.json"
      (Text.Utf8.encode (String.ofList (Json.compactObject repeated)).toList)) _ _
    (by decide) rfl (Action.textOfBytes_encode (by rw [String.toList_ofList]; decide))
  have of_json := of_spelled (.mapping (Json.entriesAfter [] repeated))
    (Json.spelledText_mapping_iff.mpr ⟨_, object, rfl⟩)
  obtain ⟨map, rfl⟩ := of_json.succeeds_iff.mpr (.inr ⟨_, rfl, by decide⟩)
  obtain ⟨keys, get⟩ := of_json.entries _ object map rfl
  refine ⟨map, after, performed, keys, (get _ _).mpr ⟨.text "d.php", ?_, rfl⟩,
    (get _ _).mpr ⟨.text "c.php", ?_, rfl⟩⟩
  · exact ⟨repeated.take 3, Json.textMember ['A'] ['A'.toNat] "d.php".toList, [], rfl, rfl, rfl,
      by simp⟩
  · exact ⟨repeated.take 2, Json.textMember "\\ud801".toList [0xd801] "c.php".toList,
      repeated.drop 3, rfl, rfl, rfl, by decide⟩

/-- An empty array, which is no object, is loaded as a map without entries. -/
theorem load_of_emptyArray :
    Json.SpelledText "[]".toList (.list []) ∧
      ((load ⟨.relative, ["classes.json"]⟩).perform ⟨[], .empty, .notFound, false, .ordinary⟩
        (.holding "classes.json" (Text.Utf8.encode "[]".toList))).1 = .ok .empty ∧
      ¬((∃ map,
        ((load ⟨.relative, ["classes.json"]⟩).perform ⟨[], .empty, .notFound, false, .ordinary⟩
          (.holding "classes.json" (Text.Utf8.encode "[]".toList))).1 = .ok map) ↔
        ∃ entries, Value.list [] = .mapping entries ∧
          ∀ entry ∈ entries, entry.2.isText = true) := by
  have held : (Session.holding "classes.json" (Text.Utf8.encode "[]".toList)).files.read []
      ⟨.relative, ["classes.json"]⟩ = .ok (Text.Utf8.encode "[]".toList) := rfl
  have loads :
    ((load ⟨.relative, ["classes.json"]⟩).perform ⟨[], .empty, .notFound, false, .ordinary⟩
      (.holding "classes.json" (Text.Utf8.encode "[]".toList))).1 = .ok .empty := by
    rw [perform_load (FileTree.answers_of_lookup (FileTree.lookup_of_read held)),
      loaded_of_located (located_of_read held), ofFile_of_read held,
      ofBytes_of_data (show DataFile.format? _ = some .json by decide),
      Json.spelledText_emptyArray.ofBytes_eq (Action.textOfBytes_encode (by decide)), ofData,
      ofValue_of_nothing rfl]
    rfl
  refine ⟨Json.spelledText_emptyArray, loads, fun accepted_iff => ?_⟩
  obtain ⟨_, mapping, _⟩ := accepted_iff.mp ⟨.empty, loads⟩
  cases mapping

end ClassMap

end OpcachePreload
