import OpcachePreload.Proofs.Json.Complete
import OpcachePreload.Proofs.Json.Members
import OpcachePreload.Proofs.Manifest.File
import OpcachePreload.Proofs.Value.Field

/-!
# The shape of a manifest

A text is read as a manifest exactly if it is an object in JSON whose last members of the three
names are lists of texts, whatever else the object holds. Every other text is reported as not in the
expected format, but for one with an integer that has too many digits.
-/

namespace OpcachePreload

namespace Manifest

variable {text path : String} {manifest : Manifest} {value : Value}

/-- A value is the list of some texts. -/
def Lists (texts : List String) (value : Value) : Prop :=
  ∃ items, value = .list items ∧ items.map Value.toText? = texts.map some

theorem mapM_toText?_eq_some_iff {items : List Value} {texts : List String} :
    items.mapM Value.toText? = some texts ↔ items.map Value.toText? = texts.map some := by
  induction items generalizing texts with
  | nil => cases texts <;> simp
  | cons item rest ih =>
      rw [List.mapM_cons]
      cases texts with
      | nil => simp [Option.bind_eq_some_iff]
      | cons first texts => simp [Option.bind_eq_some_iff, ih]

theorem textsOf_eq_some_iff {texts : List String} :
    textsOf value = some texts ↔ Lists texts value := by
  cases value with
  | list items => simp [textsOf, Lists, mapM_toText?_eq_some_iff]
  | _ => simp [textsOf, Lists]

/-- A value is a manifest exactly if it is a mapping with its lists under the three names. -/
theorem ofValue_eq_some_iff :
    ofValue value = some manifest ↔ ∃ entries, value = .mapping entries ∧
      (∃ held, Value.field? entries "classes" = some held ∧ Lists manifest.classes held) ∧
      (∃ held, Value.field? entries "files" = some held ∧ Lists manifest.files held) ∧
      ∃ held, Value.field? entries "compile" = some held ∧ Lists manifest.compile held := by
  obtain ⟨classes, files, compile⟩ := manifest
  cases value with
  | mapping entries => simp [ofValue, Option.bind_eq_some_iff, textsOf_eq_some_iff]
  | _ => simp [ofValue]

/-- The last of the members with a name holds the list of some texts. -/
def LastLists (name : String) (texts : List String) (members : List Json.Member) : Prop :=
  ∃ held, Json.LastUnder (Text.codes name) held members ∧ Lists texts held

/-- A text is an object in JSON whose last members of the three names are the lists of a manifest.
-/
def Shape (text : String) (manifest : Manifest) : Prop :=
  ∃ members, Json.SpelledObject text.toList members ∧
    LastLists "classes" manifest.classes members ∧ LastLists "files" manifest.files members ∧
    LastLists "compile" manifest.compile members

theorem exists_read_iff_shape :
    (∃ value, Json.read text = .ok value ∧ ofValue value = some manifest) ↔
      Shape text manifest := by
  simp only [Json.read, mapError_eq_ok_iff, Json.document_eq_ok_iff, ofValue_eq_some_iff, Shape,
    LastLists, ← Json.field?_entriesAfter_eq_some_iff]
  constructor
  · rintro ⟨_, spelled, entries, rfl, lists⟩
    obtain ⟨members, object, rfl⟩ := Json.spelledText_mapping_iff.mp spelled
    exact ⟨members, object, lists⟩
  · rintro ⟨members, object, lists⟩
    exact ⟨_, Json.spelledText_mapping_iff.mpr ⟨members, object, rfl⟩, _, rfl, lists⟩

/-- What comes of reading a manifest: exactly those of the given shape are returned, and every
failure is that the format is not the expected one, but for an integer with too many digits. -/
structure Reported (path : String) (shape : Manifest → Prop) (long : Nat → Prop)
    (result : Except Failure Manifest) : Prop where
  ok_iff : ∀ manifest, result = .ok manifest ↔ shape manifest
  error : ∀ failure, result = .error failure →
    failure = .manifestFormat path ∨
      ∃ count, long count ∧ failure = .content (.json (.tooManyDigits count))

theorem ofText_eq_ok_iff : ofText text = .ok manifest ↔ Shape text manifest := by
  rw [← exists_read_iff_shape, ofText]
  rcases read : Json.read text with (_ | _) | value
  · simp
  · simp
  · simp only [Except.ok.injEq, exists_eq_left']
    cases ofValue value <;> simp

/-- A text that is not read as a manifest has not the format, or has an integer with too many
digits. -/
theorem ofText_eq_error {problem : Problem} (failed : ofText text = .error problem) :
    problem = .format ∨
      ∃ count, Json.LongRun count text.toList ∧ problem = .tooManyDigits count := by
  rcases Json.document_cases text.toList with
    ⟨value, read, _⟩ | ⟨why, left, read⟩ | ⟨count, read, long⟩
  · simp only [ofText, Json.read, read, mapError_ok] at failed
    cases made : ofValue value <;> simp_all
  · simp only [ofText, Json.read, read, mapError_error, Json.Stop.fault] at failed
    exact .inl (Except.error.inj failed).symm
  · simp only [ofText, Json.read, read, mapError_error, Json.Stop.fault] at failed
    exact .inr ⟨count, long, (Except.error.inj failed).symm⟩

theorem reported_parse (text path : String) :
    Reported path (Shape text) (Json.LongRun · text.toList) (parse text path) := by
  constructor
  · intro manifest
    rw [parse, mapError_eq_ok_iff, ofText_eq_ok_iff]
  · intro failure failed
    rw [parse] at failed
    rcases read : ofText text with problem | manifest
    · rw [read, mapError_error] at failed
      obtain rfl := Except.error.inj failed
      rcases ofText_eq_error read with rfl | ⟨count, long, rfl⟩
      · exact .inl rfl
      · exact .inr ⟨count, long, rfl⟩
    · simp [read, mapError_ok] at failed

/-- Bytes that are no text are not in the format. -/
theorem reported_ofBytes (bytes : List UInt8) (path : String) :
    Reported path (fun manifest => ∃ text, Action.textOfBytes bytes = .ok text ∧
      Shape text manifest)
      (fun count => ∃ text, Action.textOfBytes bytes = .ok text ∧ Json.LongRun count text.toList)
      (ofBytes bytes path) := by
  rw [ofBytes]
  rcases decoded : Action.textOfBytes bytes with malformed | text
  · constructor
    · simp [throw, throwThe, MonadExceptOf.throw]
    · intro failure failed
      exact .inl (Except.error.inj failed).symm
  · simpa using reported_parse text path

/-- Every text is read as the manifest whose shape it has or reported as not in the format of one,
with the path of its file, unless an integer in it has too many digits, and so are the bytes of
every file that can be read. -/
theorem malformed_is_reported (text name : String) (path : Path) (surroundings : Surroundings)
    (session : Session) :
    Reported name (Shape text) (Json.LongRun · text.toList) (parse text name) ∧
      ∀ bytes, session.files.read surroundings.directory path = .ok bytes →
        ∃ result, (load path).perform surroundings session = (result, session) ∧
          Reported (toString path)
            (fun manifest => ∃ text, Action.textOfBytes bytes = .ok text ∧ Shape text manifest)
            (fun count => ∃ text, Action.textOfBytes bytes = .ok text ∧
              Json.LongRun count text.toList)
            result := by
  refine ⟨reported_parse text name, fun bytes held => ?_⟩
  exact ⟨ofBytes bytes (toString path), perform_load_of_read held, reported_ofBytes bytes _⟩

/-- A file that holds no text. -/
theorem malformed_is_reported_of_no_text :
    (FileTree.empty.put ["preload.json"] (.file [0xff])).read [] ⟨.relative, ["preload.json"]⟩ =
        .ok [0xff] ∧
      (load ⟨.relative, ["preload.json"]⟩).perform ⟨[], .empty, .notFound, false, .ordinary⟩
          { files := FileTree.empty.put ["preload.json"] (.file [0xff]) } =
        (.error (.manifestFormat "preload.json"),
          { files := FileTree.empty.put ["preload.json"] (.file [0xff]) }) := by
  have held : (FileTree.empty.put ["preload.json"] (.file [0xff])).read []
      ⟨.relative, ["preload.json"]⟩ = .ok [0xff] := by decide
  have no_text (text : String) : Action.textOfBytes [0xff] ≠ .ok text := by
    rintro ⟨⟩
  obtain ⟨result, performed, reported⟩ := (malformed_is_reported "" "" ⟨.relative, ["preload.json"]⟩
    ⟨[], .empty, .notFound, false, .ordinary⟩
    { files := FileTree.empty.put ["preload.json"] (.file [0xff]) }).2 [0xff] held
  refine ⟨held, performed.trans (congrArg (·, _) ?_)⟩
  rcases result with failure | manifest
  · rcases reported.error failure rfl with rfl | ⟨_, ⟨text, decoded, _⟩, _⟩
    · rfl
    · exact absurd decoded (no_text text)
  · obtain ⟨text, decoded, _⟩ := (reported.ok_iff manifest).mp rfl
    exact absurd decoded (no_text text)

/-! ## Integers with too many digits -/

section

open Json

variable {inside blanks rest : List Char} {codes : List Nat} {numeral : Numeral}

/-- An object that starts with an integer of too many digits is not reported as malformed, whether
or not it would have the shape of a manifest. -/
theorem parse_of_overlong (quoted : Quoted inside codes) (blank : Blank blanks)
    (formed : numeral.Formed) (overlong : numeral.Overlong) (ends : Ends rest) (path : String) :
    parse (String.ofList
        ('\x7b' :: '"' :: (inside ++ '"' :: ':' :: (blanks ++ (numeral.text ++ rest))))) path =
      .error (.content (.json (.tooManyDigits numeral.whole.length))) := by
  simp only [parse, ofText, Json.read, String.toList_ofList,
    document_of_overlong quoted blank formed overlong ends, mapError_error, Stop.fault,
    Problem.failure]

/-- An integer of ones. -/
def ones (count : Nat) : Numeral := ⟨false, List.replicate count '1', [], none⟩

theorem formed_ones {count : Nat} (some_digits : 0 < count) : (ones count).Formed where
  whole := by
    obtain ⟨count, rfl⟩ := Nat.exists_eq_succ_of_ne_zero (Nat.ne_of_gt some_digits)
    refine .inr ⟨List.cons_ne_nil _ _, by simp [ones, List.replicate_succ], fun c present => ?_⟩
    rw [List.eq_of_mem_replicate present]
    rfl
  fraction := by simp [ones, Digits]
  exponent := by simp [ones]

/-- Empty lists, and before them a member that is not a list of a manifest. -/
def besideLists (numeral : Numeral) : String :=
  String.ofList ("\x7b\"n\": ".toList ++
    (numeral.text ++ ", \"classes\": [], \"files\": [], \"compile\": []\x7d".toList))

theorem parse_besideLists_of_overlong (formed : numeral.Formed) (overlong : numeral.Overlong)
    (path : String) :
    parse (besideLists numeral) path =
      .error (.content (.json (.tooManyDigits numeral.whole.length))) := by
  have quoted : Quoted ['n'] ['n'.toNat] :=
    ⟨[(['n'], 'n'.toNat)], by simpa using .plain (by decide) (by decide) (by decide), rfl, rfl⟩
  have blank : Blank [' '] := by simp [Blank, isBlank]
  exact parse_of_overlong quoted blank formed overlong (by simp [Ends]) path

/-- A manifest with an integer of 4301 digits beside its lists. -/
theorem parse_besideLists_ones :
    parse (besideLists (ones 4301)) "/app/preload.json" =
        .error (.content (.json (.tooManyDigits 4301))) ∧
      ¬((∃ manifest, parse (besideLists (ones 4301)) "/app/preload.json" = .ok manifest) ∨
        parse (besideLists (ones 4301)) "/app/preload.json" =
          .error (.manifestFormat "/app/preload.json")) := by
  have length_eq : (ones 4301).whole.length = 4301 := List.length_replicate
  have overlong : (ones 4301).Overlong := ⟨rfl, by rw [length_eq]; decide⟩
  have parsed :=
    parse_besideLists_of_overlong (formed_ones (by decide)) overlong "/app/preload.json"
  rw [length_eq] at parsed
  rw [parsed]
  simp

end

end Manifest

end OpcachePreload
