import OpcachePreload.Builder.Operation
import OpcachePreload.Proofs.Text.Latin1
import OpcachePreload.Proofs.Usage.Import

/-!
# Scanning legacy sources

A source in Latin-1 is read as if it were UTF-8, which keeps its ASCII characters and makes
something else of the others. The names that are looked for are ASCII, but not all that stands
around them has to be: the name of a function may have letters beyond ASCII, and the blanks in
an import may be some. Where they are not, a legacy source is scanned like the same text in UTF-8.
-/

namespace OpcachePreload.Usage

open Text (blur blurFrom cutRun cutRun_eq_some_iff endsPlainly isAscii isAscii_mark mark)

theorem isAscii_of_isNameChar (c : Char) (inside : isNameChar c = true) : isAscii c = true := by
  rw [isNameChar_iff] at inside
  rw [isAscii, decide_eq_true_eq]
  omega

/-- Reading on in what is left of a text is reading on in the text, if it is so behind whatever has
been read before. -/
theorem bind_blur {α β γ δ : Type} {found : Option α} {blurred : α → β} {result : δ → γ}
    {read : β → Option γ} {read' : α → Option δ}
    (same : ∀ a, found = some a → read (blurred a) = (read' a).map result) :
    (found.map blurred).bind read = (found.bind read').map result := by
  cases found with
  | none => rfl
  | some a => exact same a rfl

/-! ## Types -/

/-- Whether the name of the public function at the front of a text, if there is one, is ASCII:
behind its ASCII characters stands no other. -/
def functionPlain (text : List Char) : Bool :=
  (text.dropPrefix? "public function ".toList).all (endsPlainly Text.isWord)

/-- Whether the names of all public functions in a text are ASCII. -/
def functionsPlain : List Char → Bool
  | [] => true
  | c :: rest => functionPlain (c :: rest) && functionsPlain rest

theorem functionPlain_blur (text : List Char) : functionPlain (blur text) = functionPlain text := by
  rw [functionPlain, functionPlain, Text.dropPrefix?_blur (by decide)]
  cases text.dropPrefix? "public function ".toList with
  | none => rfl
  | some named => exact Text.endsPlainly_blur

theorem functionsPlain_cons_of_foreign (c : Char) (rest : List Char)
    (foreign : isAscii c = false) : functionsPlain (c :: rest) = functionsPlain rest := by
  rw [functionsPlain, functionPlain, Text.dropPrefix?_of_foreign (by decide) foreign]
  rfl

theorem functionsPlain_blurFrom {inside : Bool} {text : List Char} :
    functionsPlain (blurFrom inside text) = functionsPlain text := by
  induction text generalizing inside with
  | nil => rfl
  | cons c rest ih =>
      cases known : isAscii c with
      | true =>
          rw [Text.blurFrom_cons_of_ascii known, functionsPlain, functionsPlain,
            ← Text.blur_cons_of_ascii known, functionPlain_blur, blur, ih]
      | false =>
          rw [functionsPlain_cons_of_foreign c rest known,
            Text.blurFrom_cons_of_passes functionsPlain_cons_of_foreign (fun _ => rfl) known]
          exact ih

theorem functionsPlain_blur (text : List Char) :
    functionsPlain (blur text) = functionsPlain text :=
  functionsPlain_blurFrom

theorem functionPlain_of_cons {c : Char} {rest : List Char}
    (plain : functionsPlain (c :: rest) = true) : functionPlain (c :: rest) = true :=
  (Bool.and_eq_true_iff.mp plain).1

theorem functionsPlain_of_append {front back : List Char}
    (plain : functionsPlain (front ++ back) = true) : functionsPlain back = true := by
  induction front with
  | nil => exact plain
  | cons c front ih => exact ih (Bool.and_eq_true_iff.mp plain).2

namespace Shape

variable {shape : Shape} {text : List Char}

theorem nameAt_of_foreign {c : Char} (rest : List Char) (foreign : isAscii c = false) :
    shape.nameAt (c :: rest) = none := by
  have nothing : shape.behindLead (c :: rest) = none := by
    cases shape with
    | returnType =>
        rw [behindLead, Text.dropPrefix?_of_foreign (by decide) foreign]
        rfl
    | instantiation => exact Text.dropPrefix?_of_foreign (by decide) foreign
    | implementation => exact Text.dropPrefix?_of_foreign (by decide) foreign
  rw [nameAt, nothing]
  rfl

theorem behindLead_blur (plain : shape = returnType → functionPlain text = true) :
    shape.behindLead (blur text) = (shape.behindLead text).map blur := by
  have not_closing : ∀ c, isAscii c = false → (c != ')') = true := by
    intro c foreign
    rw [bne_iff_ne]
    rintro rfl
    revert foreign
    decide
  cases shape with
  | returnType =>
      have named_plain := plain rfl
      simp only [behindLead]
      rw [Text.dropPrefix?_blur (by decide)]
      apply bind_blur
      intro named starts
      rw [functionPlain, starts, Option.all_some] at named_plain
      rw [Text.cutRun_blur_of_endsPlainly named_plain]
      apply bind_blur
      rintro ⟨_, opened⟩ _
      dsimp only
      rw [Text.dropPrefix?_blur (by decide)]
      apply bind_blur
      intro arguments _
      rw [blur, Text.dropWhile_blurFrom not_closing]
      exact Text.dropPrefix?_blur (by decide)
  | instantiation => exact Text.dropPrefix?_blur (by decide)
  | implementation => exact Text.dropPrefix?_blur (by decide)

theorem nameAt_blur (plain : shape = returnType → functionPlain text = true) :
    shape.nameAt (blur text) = (shape.nameAt text).map fun (name, rest) => (name, blur rest) := by
  rw [nameAt, nameAt, behindLead_blur plain]
  apply bind_blur
  intro named _
  exact Text.cutRun_blur isAscii_of_isNameChar

/-- Where the names of functions are plain, the scan finds the same in what is left of a text. -/
theorem scan_blurFrom (plain : shape = returnType → functionsPlain text = true) {inside : Bool} :
    shape.scan (blurFrom inside text) = shape.scan text := by
  fun_induction Shape.scan shape text generalizing inside with
  | case1 text name rest found ih =>
      have rest_plain : shape = returnType → functionsPlain rest = true := by
        intro returns
        obtain ⟨lead, _, rfl, _⟩ := nameAt_eq_some_iff.mp found
        exact functionsPlain_of_append (plain returns)
      cases text with
      | nil =>
          rw [nameAt_nil] at found
          cases found
      | cons c more =>
          cases known : isAscii c with
          | true =>
              have found_blurred := nameAt_blur fun returns => functionPlain_of_cons (plain returns)
              rw [found, Option.map_some] at found_blurred
              rw [Text.blurFrom_cons_of_ascii known, ← Text.blur_cons_of_ascii known,
                scan_of_some found_blurred, blur, ih rest_plain]
          | false =>
              rw [nameAt_of_foreign more known] at found
              cases found
  | case2 nothing =>
      rw [Text.blurFrom]
      exact scan_nil shape
  | case3 c rest nothing ih =>
      have rest_plain : shape = returnType → functionsPlain rest = true :=
        fun returns => (Bool.and_eq_true_iff.mp (plain returns)).2
      cases known : isAscii c with
      | true =>
          have nothing_blurred := nameAt_blur fun returns => functionPlain_of_cons (plain returns)
          rw [nothing, Option.map_none, Text.blur_cons_of_ascii known] at nothing_blurred
          rw [Text.blurFrom_cons_of_ascii known, scan_cons_of_none nothing_blurred, blur,
            ih rest_plain]
      | false =>
          have passes (c : Char) (rest : List Char) (foreign : isAscii c = false) :
              shape.scan (c :: rest) = shape.scan rest :=
            scan_cons_of_none (nameAt_of_foreign rest foreign)
          rw [Text.blurFrom_cons_of_passes passes (fun _ => rfl) known, ih rest_plain]

/-- Texts that agree in ASCII are scanned alike, if the names of functions in one of them are plain.
-/
theorem scan_congr {text text' : List Char} (same : blur text = blur text')
    (plain : shape = returnType → functionsPlain text' = true) :
    shape.scan text = shape.scan text' := by
  have plain_too : shape = returnType → functionsPlain text = true := by
    intro returns
    rw [← functionsPlain_blur, same, functionsPlain_blur]
    exact plain returns
  rw [← scan_blurFrom plain_too, ← scan_blurFrom plain, ← blur, same]
  rfl

end Shape

/-! ## Imports -/

/-- Whether the gaps in what closes an import are ASCII: behind their ASCII characters stand no
others. -/
def closingPlain (ending : List Char) : Bool :=
  endsPlainly Text.isBlank ending &&
    ((ending.dropWhile fun c => isAscii c && Text.isBlank c).dropPrefix? "as".toList).all
      (endsPlainly Text.isBlank)

/-- Whether the gaps in the import at the front of a text, if there is one, are ASCII. -/
def importPlain (text : List Char) : Bool :=
  (namedAt text).all fun (_, ending) => closingPlain ending

/-- Whether the gaps in the imports at the starts of the lines of a text are ASCII; `starts` says
whether a line starts with the text. -/
def importsPlain : (starts : Bool) → List Char → Bool
  | _, [] => true
  | starts, c :: rest => (!starts || importPlain (c :: rest)) && importsPlain (c == '\n') rest

theorem closingPlain_blur (ending : List Char) :
    closingPlain (blur ending) = closingPlain ending := by
  rw [closingPlain, closingPlain, Text.endsPlainly_blur, Text.dropWhile_blur Text.isAscii_of_and,
    Text.dropPrefix?_blur (by decide)]
  cases (ending.dropWhile fun c => isAscii c && Text.isBlank c).dropPrefix? "as".toList with
  | none => rfl
  | some gap => rw [Option.map_some, Option.all_some, Option.all_some, Text.endsPlainly_blur]

theorem namedAt_blur (text : List Char) :
    namedAt (blur text) = (namedAt text).map fun (name, ending) => (name, blur ending) := by
  rw [namedAt, namedAt, Text.dropPrefix?_blur (by decide)]
  apply bind_blur
  intro named _
  exact Text.cutRun_blur isAscii_of_isNameChar

theorem importPlain_blur (text : List Char) : importPlain (blur text) = importPlain text := by
  rw [importPlain, importPlain, namedAt_blur]
  cases namedAt text with
  | none => rfl
  | some found => exact closingPlain_blur found.2

theorem behindOther_blur {ending : List Char} (plain : closingPlain ending = true) :
    behindOther (blur ending) = (behindOther ending).map blur := by
  obtain ⟨gap_plain, gap'_plain⟩ := Bool.and_eq_true_iff.mp plain
  rw [behindOther, behindOther, Text.cutRun_blur_of_endsPlainly gap_plain]
  apply bind_blur
  rintro ⟨gap, renamed⟩ cut
  dsimp only
  rw [Text.dropPrefix?_blur (by decide)]
  apply bind_blur
  intro behind_as renames
  have renamed_eq : ending.dropWhile (fun c => isAscii c && Text.isBlank c) = renamed := by
    rw [Text.cutRun_of_endsPlainly gap_plain] at cut
    obtain ⟨rfl, maximal⟩ := cutRun_eq_some_iff.mp cut
    rw [List.dropWhile_append_of_pos maximal.inside, Text.dropWhile_of_ends maximal.ends]
  rw [renamed_eq, renames, Option.all_some] at gap'_plain
  rw [Text.cutRun_blur_of_endsPlainly gap'_plain]
  apply bind_blur
  rintro ⟨gap', behind_gap⟩ _
  dsimp only
  rw [Text.cutRun_blur isAscii_of_isNameChar]
  apply bind_blur
  rintro ⟨other, closed⟩ _
  exact Text.dropPrefix?_blur (by decide)

theorem behindClosing_blur {ending : List Char} (plain : closingPlain ending = true) :
    behindClosing (blur ending) = (behindClosing ending).map blur := by
  rw [behindClosing, behindClosing, Text.dropPrefix?_blur (by decide), behindOther_blur plain]
  cases ending.dropPrefix? ";".toList <;> rfl

theorem importAt_blur {text : List Char} (plain : importPlain text = true) :
    importAt (blur text) = (importAt text).map fun (name, rest) => (name, blur rest) := by
  rw [importAt, importAt, namedAt_blur]
  apply bind_blur
  rintro ⟨name, ending⟩ named
  rw [importPlain, named, Option.all_some] at plain
  dsimp only at plain ⊢
  rw [behindClosing_blur plain, Option.map_map, Option.map_map]
  rfl

theorem namedAt_of_foreign {c : Char} (foreign : isAscii c = false) (rest : List Char) :
    namedAt (c :: rest) = none := by
  rw [namedAt, Text.dropPrefix?_of_foreign (by decide) foreign]
  rfl

theorem newline_of_foreign {c : Char} (foreign : isAscii c = false) : (c == '\n') = false := by
  rw [beq_eq_false_iff_ne]
  rintro rfl
  revert foreign
  decide

theorem importsPlain_cons_of_foreign (starts : Bool) (c : Char) (rest : List Char)
    (foreign : isAscii c = false) :
    importsPlain starts (c :: rest) = importsPlain false rest := by
  rw [importsPlain, importPlain, namedAt_of_foreign foreign, newline_of_foreign foreign]
  simp

theorem importsFrom_cons_of_foreign {c : Char} (foreign : isAscii c = false) (position : Nat)
    (starts : Bool) (rest : List Char) :
    importsFrom position starts (c :: rest) = importsFrom (position + 1) false rest := by
  rw [importsFrom_cons_of_none, newline_of_foreign foreign]
  intro _
  rw [importAt, namedAt_of_foreign foreign]
  rfl

theorem importsPlain_blurFrom {inside starts : Bool} {text : List Char}
    (begun : inside = true → starts = false) :
    importsPlain starts (blurFrom inside text) = importsPlain starts text := by
  induction text generalizing inside starts with
  | nil => rfl
  | cons c rest ih =>
      cases known : isAscii c with
      | true =>
          have onward : importsPlain (c == '\n') (blur rest) = importsPlain (c == '\n') rest :=
            ih (by simp)
          rw [Text.blurFrom_cons_of_ascii known, importsPlain, importsPlain, onward,
            ← Text.blur_cons_of_ascii known, importPlain_blur]
      | false =>
          rw [importsPlain_cons_of_foreign starts c rest known,
            Text.blurFrom_cons_of_passes (importsPlain_cons_of_foreign starts)
              (fun within => by rw [begun within]) known]
          exact ih fun _ => rfl

/-- Where the gaps of imports are plain, the imports of what is left of a text are the same, up to
their positions. -/
theorem importsFrom_blurFrom {inside starts : Bool} {text : List Char}
    (begun : inside = true → starts = false) (plain : importsPlain starts text = true)
    (position position' : Nat) :
    (importsFrom position starts (blurFrom inside text)).map Prod.snd =
      (importsFrom position' starts text).map Prod.snd := by
  induction text generalizing inside starts position position' with
  | nil => rfl
  | cons c rest ih =>
      cases known : isAscii c with
      | true =>
          obtain ⟨first_plain, rest_plain⟩ := Bool.and_eq_true_iff.mp plain
          have onward : (importsFrom (position + 1) (c == '\n') (blur rest)).map Prod.snd =
              (importsFrom (position' + 1) (c == '\n') rest).map Prod.snd :=
            ih (by simp) rest_plain _ _
          rw [Text.blurFrom_cons_of_ascii known]
          cases starts with
          | false =>
              rw [importsFrom_cons_of_none (by simp), importsFrom_cons_of_none (by simp), onward]
          | true =>
              have blurred := importAt_blur first_plain
              rw [Text.blur_cons_of_ascii known] at blurred
              cases found : importAt (c :: rest) with
              | none =>
                  rw [found, Option.map_none] at blurred
                  rw [importsFrom_cons_of_none fun _ => blurred,
                    importsFrom_cons_of_none fun _ => found, onward]
              | some taken =>
                  rw [found, Option.map_some] at blurred
                  rw [importsFrom_cons_of_some blurred, importsFrom_cons_of_some found,
                    List.map_cons, List.map_cons, onward]
      | false =>
          rw [importsPlain_cons_of_foreign starts c rest known] at plain
          rw [importsFrom_cons_of_foreign known]
          cases inside with
          | true =>
              rw [Text.blurFrom_true_cons known, begun rfl]
              exact ih (fun _ => rfl) plain _ _
          | false =>
              rw [← blur, Text.blur_cons_of_foreign known, importsFrom_cons_of_foreign isAscii_mark]
              exact ih (fun _ => rfl) plain _ _

/-- Texts that agree in ASCII have the same imports, if the gaps of imports in one of them are
plain. -/
theorem importedNames_congr {text text' : String} (same : blur text.toList = blur text'.toList)
    (plain : importsPlain true text'.toList = true) : importedNames text = importedNames text' := by
  have blur_plain (text : List Char) : importsPlain true (blur text) = importsPlain true text :=
    importsPlain_blurFrom (by simp)
  have plain_too : importsPlain true text.toList = true := by
    rw [← blur_plain, same, blur_plain]
    exact plain
  have names : (importsFrom 0 true (blur text.toList)).map Prod.snd =
      (importsFrom 0 true text.toList).map Prod.snd :=
    importsFrom_blurFrom (by simp) plain_too 0 0
  have names' : (importsFrom 0 true (blur text'.toList)).map Prod.snd =
      (importsFrom 0 true text'.toList).map Prod.snd :=
    importsFrom_blurFrom (by simp) plain 0 0
  rw [same] at names
  have agree := congrArg (List.map String.ofList) (names.symm.trans names')
  rw [List.map_map, List.map_map] at agree
  rw [importedNames_eq, importedNames_eq]
  exact agree

/-! ## Files -/

/-- The text that is read from a file that holds a text in Latin-1 is the same up to characters
beyond ASCII. -/
theorem exists_sourceText_of_latin1 {text : List Char} (latin : ∀ c ∈ text, c.toNat ≤ 0xff)
    {tree : FileTree} {directory : Location} {path : Path}
    (legacy : tree.read directory path = .ok (Text.Latin1.encode text)) :
    ∃ source, tree.sourceText directory path = .ok source ∧
      blur source.toList = blur (Text.unifyNewlines text) := by
  refine ⟨_, by rw [FileTree.sourceText, legacy], ?_⟩
  rw [String.toList_ofList, blur, blur, Text.blurFrom_unifyNewlines, Text.blurFrom_unifyNewlines]
  exact congrArg Text.unifyNewlines (Text.blur_decodeLossy_latin1 latin)

theorem sourceText_of_utf8 {text : List Char} {tree : FileTree} {directory : Location} {path : Path}
    (current : tree.read directory path = .ok (Text.Utf8.encode text)) :
    tree.sourceText directory path = .ok (String.ofList (Text.unifyNewlines text)) := by
  rw [FileTree.sourceText, current]
  dsimp only
  rw [Text.Utf8.decodeLossy_encode]

/-- A tree with one file, `/a.php`. -/
def oneFile (bytes : List UInt8) : FileTree := ⟨[(["a.php"], .file bytes)]⟩

/-- A file that holds a text in Latin-1 is scanned like one that holds it in UTF-8, where the names
of public functions and the gaps in imports are ASCII. Instantiated classes and implemented
interfaces are found alike in any case. -/
theorem perform_scan_of_latin1 {text : List Char} (latin : ∀ c ∈ text, c.toNat ≤ 0xff)
    {tree tree' : FileTree} {directory directory' : Location} {path path' : Path}
    (legacy : tree.read directory path = .ok (Text.Latin1.encode text))
    (current : tree'.read directory' path' = .ok (Text.Utf8.encode text)) (builder : Builder) :
    let read := tree.sourceText directory
    let read' := tree'.sourceText directory'
    (∃ source source', read path = .ok source ∧ read' path' = .ok source' ∧
      ∀ shape : Shape, (shape = .returnType → functionsPlain (Text.unifyNewlines text) = true) →
        captures shape.pattern source = captures shape.pattern source') ∧
    (functionsPlain (Text.unifyNewlines text) = true →
      builder.perform read (.scanTypes [path]) = builder.perform read' (.scanTypes [path'])) ∧
    (importsPlain true (Text.unifyNewlines text) = true →
      builder.perform read (.scanImports [path]) =
        builder.perform read' (.scanImports [path'])) := by
  intro read read'
  obtain ⟨source, source_read, same⟩ := exists_sourceText_of_latin1 latin legacy
  have source'_read := sourceText_of_utf8 current
  rw [← String.toList_ofList (l := Text.unifyNewlines text)] at same ⊢
  generalize String.ofList (Text.unifyNewlines text) = source' at same source'_read ⊢
  have found_alike (shape : Shape)
      (plain : shape = .returnType → functionsPlain source'.toList = true) :
      captures shape.pattern source = captures shape.pattern source' := by
    rw [Shape.captures_pattern, Shape.captures_pattern, Shape.scan_congr same plain]
  have scanned_alike {found : String → List String} (alike : found source = found source') :
      builder.scan read found [path] = builder.scan read' found [path'] := by
    simp only [Builder.scan, read, read', source_read, source'_read, alike]
  constructor
  · exact ⟨source, source', source_read, source'_read, found_alike⟩
  constructor
  · intro plain
    apply scanned_alike
    change (Shape.all.map Shape.pattern).flatMap _ = (Shape.all.map Shape.pattern).flatMap _
    simp only [List.flatMap_map, found_alike _ fun _ => plain]
  · intro plain
    exact scanned_alike (importedNames_congr same plain)

/-- Characters beyond ASCII in comments and arguments are no obstacle. -/
theorem perform_scan_of_latin1_comment :
    let text := "// Café\npublic function a($é): A;\nuse B\n  as C; // à la carte".toList
    let read := (oneFile (Text.Latin1.encode text)).sourceText []
    let read' := (oneFile (Text.Utf8.encode text)).sourceText []
    let path : Path := ⟨.slash, ["a.php"]⟩
    let builder := Builder.start (.ofList [("A", "/a.php"), ("B", "/b.php")])
    (∀ c ∈ text, c.toNat ≤ 0xff) ∧
      builder.perform read (.scanTypes [path]) = builder.perform read' (.scanTypes [path]) ∧
      builder.perform read (.scanImports [path]) = builder.perform read' (.scanImports [path]) ∧
      (builder.perform read (.scanTypes [path])).1.classes.toList = ["A"] ∧
      (builder.perform read (.scanImports [path])).1.classes.toList = ["B"] := by
  intro text read read' path builder
  have latin : ∀ c ∈ text, c.toNat ≤ 0xff := by
    have all_latin : text.all (fun c => c.toNat ≤ 0xff) = true := by decide
    exact fun c inside => of_decide_eq_true (List.all_eq_true.mp all_latin c inside)
  have legacy : (oneFile (Text.Latin1.encode text)).read [] path =
      .ok (Text.Latin1.encode text) := by rfl
  have current : (oneFile (Text.Utf8.encode text)).read [] path = .ok (Text.Utf8.encode text) := by
    rfl
  obtain ⟨_, types_alike, imports_alike⟩ := perform_scan_of_latin1 latin legacy current builder
  refine ⟨latin, types_alike (by decide +kernel), imports_alike (by decide +kernel), ?_, ?_⟩
  · decide +kernel
  · decide +kernel

/-- Letters beyond ASCII in the name of a function, or blanks beyond ASCII in an import, hide a
class in Latin-1 that is found in UTF-8. -/
theorem scan_differs_by_encoding :
    let function := "public function é(): A".toList
    let renamed := "use A\u00a0as B;".toList
    let path : Path := ⟨.slash, ["a.php"]⟩
    let builder := Builder.start (.ofList [("A", "/a.php")])
    let types (bytes : List UInt8) :=
      (builder.perform ((oneFile bytes).sourceText []) (.scanTypes [path])).1.classes.toList
    let imports (bytes : List UInt8) :=
      (builder.perform ((oneFile bytes).sourceText []) (.scanImports [path])).1.classes.toList
    (∀ c ∈ function ++ renamed, c.toNat ≤ 0xff) ∧
      types (Text.Latin1.encode function) = [] ∧ types (Text.Utf8.encode function) = ["A"] ∧
      imports (Text.Latin1.encode renamed) = [] ∧ imports (Text.Utf8.encode renamed) = ["A"] := by
  intro function renamed path builder types imports
  have all_latin : (function ++ renamed).all (fun c => c.toNat ≤ 0xff) = true := by decide
  constructor
  · exact fun c inside => of_decide_eq_true (List.all_eq_true.mp all_latin c inside)
  · decide +kernel

end OpcachePreload.Usage
