import OpcachePreload.Proofs.Yaml.Token
import OpcachePreload.Yaml.TokenList

/-!
# The tokens of a text without marks

Every step of taking tokens off a text without marks keeps the tokens harmless: those that announce
a key or open and close a collection are, and the others are taken by a scan. So no token of such a
text is a tag.
-/

namespace OpcachePreload.Yaml

namespace Scanner

/-- All tokens are harmless, and no mark stands in what is left of the text. -/
structure Clean (scanner : Scanner) : Prop where
  unmarked : ¬Marked scanner.place.rest
  harmless : ∀ token ∈ scanner.tokens, token.Harmless

variable {scanner opened : Scanner}

theorem Clean.moved (clean : scanner.Clean) {place : Place}
    (suffix : place.rest <:+ scanner.place.rest) : { scanner with place }.Clean :=
  ⟨fun marked => clean.unmarked (marked.of_suffix suffix), clean.harmless⟩

theorem Clean.push (clean : scanner.Clean) (token : Token) (harmless : token.Harmless) :
    (scanner.push token).Clean := by
  refine ⟨clean.unmarked, fun other listed => ?_⟩
  rcases Array.mem_push.mp listed with before | rfl
  · exact clean.harmless other before
  · exact harmless

theorem Clean.take (clean : scanner.Clean) (token : Token) (harmless : token.Harmless)
    (length : Nat) : (scanner.take token length).Clean :=
  (clean.push token harmless).moved (scanner.place.suffix_forward length)

theorem Clean.fits_takeScan (clean : scanner.Clean) {scan : Scan Token}
    (scans : Scans Token.Harmless scan) : Fits Clean (scanner.takeScan scan) :=
  (scans scanner.place clean.unmarked).bind fun _ taken =>
    .found ((clean.push _ taken.1).moved taken.2)

/-! ## Possible keys and collections -/

theorem Clean.fits_dropKey (clean : scanner.Clean) : Fits Clean scanner.dropKey := by
  have kept : Fits Clean (.ok scanner.forgetKey) := .found ⟨clean.unmarked, clean.harmless⟩
  exact kept.unless _ scanner.place _

theorem Clean.fits_dropStaleKeys (clean : scanner.Clean) : Fits Clean scanner.dropStaleKeys := by
  unfold dropStaleKeys
  refine Fits.unless ?_ _ scanner.place _
  exact .found ⟨clean.unmarked, clean.harmless⟩

theorem Clean.fits_saveKey (clean : scanner.Clean) : Fits Clean scanner.saveKey := by
  unfold saveKey
  split
  · exact clean.fits_dropKey.bind fun _ dropped => .found ⟨dropped.unmarked, dropped.harmless⟩
  · exact .found clean

theorem Clean.unwindFrom (column : Int) (indents : List Int) (clean : scanner.Clean) :
    (unwindFrom column indents scanner).Clean := by
  induction indents generalizing scanner with
  | nil => exact clean
  | cons outer indents ih =>
      unfold Scanner.unwindFrom
      split
      · have closed := clean.push .blockEnd trivial
        exact ih ⟨closed.unmarked, closed.harmless⟩
      · exact clean

theorem Clean.unwind (clean : scanner.Clean) (column : Int) : (scanner.unwind column).Clean := by
  unfold Scanner.unwind
  split
  · exact clean.unwindFrom column _
  · exact clean

theorem Clean.indentTo {column : Nat} (clean : scanner.Clean)
    (indents : scanner.indentTo column = some opened) : opened.Clean := by
  unfold Scanner.indentTo at indents
  split at indents
  · obtain rfl := Option.some.inj indents
    exact ⟨clean.unmarked, clean.harmless⟩
  · cases indents

/-! ## Blanks -/

theorem Clean.skipBlanks (fuel : Nat) (clean : scanner.Clean) :
    (skipBlanks fuel scanner).Clean := by
  induction fuel generalizing scanner with
  | zero => exact clean
  | succ fuel ih =>
      have skipped := (Place.suffix_skipComment _).trans scanner.place.suffix_skipSpaces
      unfold Scanner.skipBlanks
      dsimp only
      split
      · have moved := clean.moved ((Place.suffix_lineBreak _).trans skipped)
        exact ih ⟨moved.unmarked, moved.harmless⟩
      · exact clean.moved skipped

theorem Clean.skipMark (clean : scanner.Clean) : scanner.skipMark.Clean := by
  unfold Scanner.skipMark
  split
  · exact clean.moved (scanner.place.suffix_forward 1)
  · exact clean

/-! ## One token -/

theorem Clean.fits_startLine (clean : scanner.Clean) : Fits Clean scanner.startLine :=
  (clean.unwind (-1)).fits_dropKey.bind fun _ dropped => .found ⟨dropped.unmarked, dropped.harmless⟩

theorem Clean.fits_openFlow (clean : scanner.Clean) (token : Token) (harmless : token.Harmless) :
    Fits Clean (scanner.openFlow token) :=
  clean.fits_saveKey.bind fun _ saved =>
    have taken := saved.take token harmless 1
    .found ⟨taken.unmarked, taken.harmless⟩

theorem Clean.fits_closeFlow (clean : scanner.Clean) (token : Token) (harmless : token.Harmless) :
    Fits Clean (scanner.closeFlow token) := by
  refine clean.fits_dropKey.bind fun dropped dropped_clean => ?_
  have taken := dropped_clean.take token harmless 1
  refine Fits.unless ?_ _ dropped.place _
  exact .found ⟨taken.unmarked, taken.harmless⟩

theorem Clean.fits_flowEntry (clean : scanner.Clean) : Fits Clean scanner.flowEntry :=
  clean.fits_dropKey.bind fun _ dropped =>
    have taken := dropped.take .flowEntry trivial 1
    .found ⟨taken.unmarked, taken.harmless⟩

theorem Clean.fits_blockEntry (clean : scanner.Clean) : Fits Clean scanner.blockEntry := by
  have finish {opened : Scanner} (clean : opened.Clean) : Fits Clean (do
      let scanner ← opened.dropKey
      return { scanner.take .blockEntry 1 with keyAllowed := true }) :=
    clean.fits_dropKey.bind fun _ dropped =>
      have taken := dropped.take .blockEntry trivial 1
      .found ⟨taken.unmarked, taken.harmless⟩
  unfold blockEntry
  split
  · split
    · exact fits_reject scanner.place _
    · split
      · rename_i indents
        exact finish ((clean.indentTo indents).push .blockSequenceStart trivial)
      · exact finish clean
  · exact finish clean

theorem Clean.fits_explicitKey (clean : scanner.Clean) : Fits Clean scanner.explicitKey := by
  have finish {opened : Scanner} (clean : opened.Clean) : Fits Clean (do
      let scanner ← { opened with keyAllowed := opened.level == 0 }.dropKey
      return scanner.take .key 1) := by
    have clean : { opened with keyAllowed := opened.level == 0 }.Clean :=
      ⟨clean.unmarked, clean.harmless⟩
    exact clean.fits_dropKey.bind fun _ dropped => .found (dropped.take .key trivial 1)
  unfold explicitKey
  split
  · split
    · exact fits_reject scanner.place _
    · split
      · rename_i indents
        exact finish ((clean.indentTo indents).push .blockMappingStart trivial)
      · exact finish clean
  · exact finish clean

theorem Clean.insert (clean : scanner.Clean) (index : Nat) (token : Token)
    (harmless : token.Harmless) :
    { scanner with tokens := scanner.tokens.insertIdxIfInBounds index token }.Clean := by
  refine ⟨clean.unmarked, fun other listed => ?_⟩
  dsimp only [Array.insertIdxIfInBounds] at listed
  split at listed
  · rcases Array.mem_insertIdx.mp listed with rfl | before
    · exact harmless
    · exact clean.harmless other before
  · exact clean.harmless other listed

/-- Where a possible key precedes the colon, the tokens that announce it are put before it. -/
theorem Clean.fits_valueMark (clean : scanner.Clean) : Fits Clean scanner.valueMark := by
  have finish {opened : Scanner} (clean : opened.Clean) : Fits Clean (do
      let scanner ← { opened with keyAllowed := opened.level == 0 }.dropKey
      return scanner.take .value 1) := by
    have clean : { opened with keyAllowed := opened.level == 0 }.Clean :=
      ⟨clean.unmarked, clean.harmless⟩
    exact clean.fits_dropKey.bind fun _ dropped => .found (dropped.take .value trivial 1)
  unfold valueMark
  split
  · rename_i key _
    have announced := clean.insert key.tokens .key trivial
    have clean : { scanner.forgetKey with
        tokens := scanner.tokens.insertIdxIfInBounds key.tokens .key
        keyAllowed := false }.Clean := ⟨announced.unmarked, announced.harmless⟩
    refine .found (Clean.take ?_ .value trivial 1)
    split
    · split
      · rename_i indents
        exact (clean.indentTo indents).insert key.tokens .blockMappingStart trivial
      · exact clean
    · exact clean
  · split
    · split
      · exact fits_reject scanner.place _
      · split
        · rename_i indents
          exact finish ((clean.indentTo indents).push .blockMappingStart trivial)
        · exact finish clean
    · exact finish clean

theorem Clean.fits_inlineToken (clean : scanner.Clean) {scan : Scan Token}
    (scans : Scans Token.Harmless scan) : Fits Clean (scanner.inlineToken scan) :=
  clean.fits_saveKey.bind fun saved saved_clean =>
    have clean : { saved with keyAllowed := false }.Clean :=
      ⟨saved_clean.unmarked, saved_clean.harmless⟩
    clean.fits_takeScan scans

theorem Clean.fits_blockToken (clean : scanner.Clean) (folded : Bool) :
    Fits Clean (scanner.blockToken folded) := by
  have clean : { scanner with keyAllowed := true }.Clean := ⟨clean.unmarked, clean.harmless⟩
  exact clean.fits_dropKey.bind fun _ dropped => dropped.fits_takeScan (scans_blockScalar _ folded)

theorem Clean.fits_plainToken (clean : scanner.Clean) : Fits Clean scanner.plainToken := by
  refine clean.fits_saveKey.bind fun saved saved_clean => ?_
  have suffix := suffix_plainText saved.indent (saved.level != 0) (saved.place.rest.length + 1) []
    false saved.place
  have last := getLast?_plainText saved.indent (saved.level != 0) (saved.place.rest.length + 1) []
    false saved.place
  dsimp only
  generalize plainText saved.indent (saved.level != 0) (saved.place.rest.length + 1) [] false
    saved.place = found at suffix last ⊢
  obtain ⟨text, broken, after⟩ := found
  have harmless : Token.Harmless (.scalar (String.ofList text) true) := by
    rwa [Token.Harmless, String.toList_ofList]
  have taken := (saved_clean.push _ harmless).moved suffix
  exact .found ⟨taken.unmarked, taken.harmless⟩

theorem scans_named {kind : String → Token} (harmless : ∀ name, (kind name).Harmless) :
    Scans Token.Harmless fun place => do
      let (name, place) ← anchorName (place.forward 1)
      return (kind name, place) :=
  fun place unmarked =>
    scans_anchorName.go unmarked (place.suffix_forward 1) fun name _ _ suffix =>
      .found ⟨harmless name, suffix⟩

theorem Clean.fits_takeToken (clean : scanner.Clean) {c : Char}
    (there : scanner.place.peek = some c) :
    Fits Clean (scanner.takeToken c) := by
  have started := clean.fits_startLine
  unfold takeToken
  dsimp only
  refine .ite (fun _ => started.bind fun _ line => line.fits_takeScan scans_directiveToken) ?_
  refine .ite (fun _ => started.bind fun _ line => .found (line.take .documentStart trivial 3)) ?_
  refine .ite (fun _ => started.bind fun _ line => .found (line.take .documentEnd trivial 3)) ?_
  refine .ite (fun _ => clean.fits_openFlow .flowSequenceStart trivial) ?_
  refine .ite (fun _ => clean.fits_openFlow .flowMappingStart trivial) ?_
  refine .ite (fun _ => clean.fits_closeFlow .flowSequenceEnd trivial) ?_
  refine .ite (fun _ => clean.fits_closeFlow .flowMappingEnd trivial) ?_
  refine .ite (fun _ => clean.fits_flowEntry) ?_
  refine .ite (fun _ => clean.fits_blockEntry) ?_
  refine .ite (fun _ => clean.fits_explicitKey) ?_
  refine .ite (fun _ => clean.fits_valueMark) ?_
  refine .ite (fun _ => clean.fits_inlineToken (scans_named fun _ => trivial)) ?_
  refine .ite (fun _ => clean.fits_inlineToken (scans_named fun _ => trivial)) ?_
  refine .ite (fun mark => ?_) ?_
  · obtain rfl : c = '!' := eq_of_beq mark
    exact absurd (.inl (List.mem_of_getElem? there)) clean.unmarked
  refine .ite (fun _ => clean.fits_blockToken _) ?_
  refine .ite (fun _ => clean.fits_inlineToken (scans_quotedScalar false)) ?_
  refine .ite (fun _ => clean.fits_inlineToken (scans_quotedScalar true)) ?_
  refine .ite (fun _ => clean.fits_plainToken) ?_
  exact fits_reject scanner.place _

theorem Clean.fits_takeNext (clean : scanner.Clean) :
    Fits (fun taken => taken.2.Clean) scanner.takeNext := by
  unfold takeNext
  refine (clean.skipMark.skipBlanks _).fits_dropStaleKeys.bind fun fresh fresh_clean => ?_
  have unwound := fresh_clean.unwind fresh.place.column
  dsimp only
  split
  · exact (unwound.unwind (-1)).fits_dropKey.bind fun _ ended => .found ended
  · rename_i c there
    exact (unwound.fits_takeToken there).bind fun _ taken => .found taken

end Scanner

/-! ## All tokens -/

/-- All tokens are harmless, and if a fault ends them it counts as one of the content, or a number
weighs too much. -/
structure TokenStream.Clean (stream : TokenStream) : Prop where
  harmless : ∀ token ∈ stream.tokens, token.Harmless
  fits : ∀ fault ∈ stream.fault?, Fits Anything (.error fault : Except Fault Unit)

/-- The tokens that were taken, with no fault after them. -/
theorem Scanner.Clean.stream {scanner : Scanner} (clean : scanner.Clean) :
    TokenStream.Clean { tokens := scanner.tokens.toList } :=
  ⟨fun token listed => clean.harmless token (Array.mem_toList_iff.mp listed), nofun⟩

theorem Scanner.Clean.takeAll {scanner : Scanner} (fuel : Nat) (clean : scanner.Clean) :
    (scanner.takeAll fuel).Clean := by
  induction fuel generalizing scanner with
  | zero => exact clean.stream
  | succ fuel ih =>
      have fits := clean.fits_takeNext
      unfold Scanner.takeAll
      split
      · rename_i fault stops
        rw [stops] at fits
        refine ⟨fun token listed => ?_, fun _ same => ?_⟩
        · exact clean.harmless token (Array.mem_toList_iff.mp (List.mem_of_mem_take listed))
        · obtain rfl := Option.some.inj same
          exact fits.error
      · rename_i ended taken
        rw [taken] at fits
        exact fits.of_ok.stream
      · rename_i next taken
        rw [taken] at fits
        exact ih fits.of_ok

/-- The tokens of a text without marks are harmless, and a fault that ends them is one of the
content. -/
theorem clean_tokens {text : List Char} (unmarked : ¬Marked text) : (tokens text).Clean := by
  have start : Scanner.Clean { place := .start text } := ⟨unmarked, by simp⟩
  unfold tokens
  split
  · refine ⟨nofun, fun _ same => ?_⟩
    obtain rfl := Option.some.inj same
    exact .content rfl
  · exact start.takeAll _

end OpcachePreload.Yaml
