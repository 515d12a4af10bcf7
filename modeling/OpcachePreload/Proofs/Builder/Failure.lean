import OpcachePreload.Proofs.Builder.Offer

/-!
# Operations that fail

An operation reads and compiles what it needs before it changes anything, so one that fails leaves
the builder as it was. Only a scan of several files does something before it fails: what scanning
the files before the unreadable one does, file by file.
-/

namespace OpcachePreload.Builder

variable {builder : Builder} {read : SourceReader} {found : String → List String}
  {failure : Failure}

/-! ## Scans -/

theorem scan_cons_of_ok {path : Path} {text : String} (readable : read path = .ok text)
    (rest : List Path) :
    builder.scan read found (path :: rest) =
      (builder.scan read found [path]).1.scan read found rest := by
  simp only [scan, readable]

/-- A file that cannot be read ends the scan. -/
theorem scan_cons_of_error {path : Path} (unreadable : read path = .error failure)
    (rest : List Path) :
    builder.scan read found (path :: rest) = (builder, .error failure) := by
  simp only [scan, unreadable]

/-- Files that can be read are scanned one by one, and then what comes after them. -/
theorem scan_append {done : List Path} (readable : ∀ path ∈ done, ∃ text, read path = .ok text)
    (rest : List Path) :
    builder.scan read found (done ++ rest) =
      (done.foldl (fun builder path => (builder.scan read found [path]).1) builder).scan read found
        rest := by
  induction done generalizing builder with
  | nil => rfl
  | cons path done ih =>
      obtain ⟨text, path_read⟩ := readable path List.mem_cons_self
      have done_readable : ∀ other ∈ done, ∃ text, read other = .ok text :=
        fun other later => readable other (List.mem_cons_of_mem _ later)
      rw [List.cons_append, scan_cons_of_ok path_read, ih done_readable]
      rfl

/-- Either all files can be read, or there is a first one that cannot. -/
theorem readable_or_first_unreadable (read : SourceReader) (paths : List Path) :
    (∀ path ∈ paths, ∃ text, read path = .ok text) ∨
      ∃ done path rest failure, paths = done ++ path :: rest ∧
        (∀ earlier ∈ done, ∃ text, read earlier = .ok text) ∧ read path = .error failure := by
  induction paths with
  | nil => exact .inl fun path inside => absurd inside List.not_mem_nil
  | cons path paths ih =>
      cases path_read : read path with
      | error failure => exact .inr ⟨[], path, paths, failure, rfl, by simp, path_read⟩
      | ok text =>
          have extend {others : List Path}
              (readable : ∀ other ∈ others, ∃ text, read other = .ok text) :
              ∀ other ∈ path :: others, ∃ text, read other = .ok text := by
            intro other inside
            rcases List.mem_cons.mp inside with rfl | later
            · exact ⟨text, path_read⟩
            · exact readable other later
          rcases ih with all | ⟨done, first, rest, failure, rfl, readable, unreadable⟩
          · exact .inl (extend all)
          · exact .inr ⟨path :: done, first, rest, failure, rfl, extend readable, unreadable⟩

/-- A scan fails for the first file that cannot be read, with the files before it scanned. -/
theorem scan_of_error {paths : List Path}
    (failed : (builder.scan read found paths).2 = .error failure) :
    ∃ done path rest, paths = done ++ path :: rest ∧
      (∀ earlier ∈ done, ∃ text, read earlier = .ok text) ∧ read path = .error failure ∧
      builder.scan read found paths =
        (done.foldl (fun builder path => (builder.scan read found [path]).1) builder,
          .error failure) := by
  rcases readable_or_first_unreadable read paths with
    all | ⟨done, path, rest, other, rfl, readable, unreadable⟩
  · have complete : builder.scan read found (paths ++ []) = _ := scan_append all []
    rw [List.append_nil] at complete
    rw [complete] at failed
    cases failed
  · have stopped : builder.scan read found (done ++ path :: rest) = _ :=
      scan_append readable (path :: rest)
    rw [scan_cons_of_error unreadable] at stopped
    rw [stopped] at failed ⊢
    obtain rfl : other = failure := Except.error.inj failed
    exact ⟨done, path, rest, rfl, readable, unreadable, rfl⟩

/-- Files that can all be read are scanned with success. -/
theorem scan_of_readable {paths : List Path}
    (readable : ∀ path ∈ paths, ∃ text, read path = .ok text) :
    builder.scan read found paths =
      (paths.foldl (fun builder path => (builder.scan read found [path]).1) builder,
        .ok .done) := by
  have complete : builder.scan read found (paths ++ []) = _ := scan_append readable []
  rw [List.append_nil] at complete
  exact complete

/-! ## Patterns -/

theorem perform_exclude_of_error {pattern : String}
    (failed : (builder.perform read (.exclude pattern)).2 = .error failure) :
    (builder.perform read (.exclude pattern)).1 = builder := by
  rcases exclude_cases builder read pattern with ⟨same, _⟩ | ⟨added, compiles, absent, _⟩
  · exact same
  · simp [perform, exclude, OrderedMap.contains, absent, compiles, bind, Except.bind, pure,
      Except.pure] at failed

theorem perform_offerMatching_of_failure {pattern : String}
    (failed : (builder.perform read (.offerMatching pattern)).2 = .error failure) :
    (builder.perform read (.offerMatching pattern)).1 = builder := by
  cases compiles : Pattern.compile pattern with
  | error rejection => rw [perform_offerMatching_of_error read compiles]
  | ok compiled =>
      rw [perform_offerMatching_of_ok read compiles] at failed
      cases failed

/-! ## Operations -/

/-- The two ways to scan files. -/
theorem perform_scanning {scanning : List Path → Operation}
    (scans : scanning ∈ [Operation.scanTypes, Operation.scanImports]) :
    ∃ found, ∀ (builder : Builder) (read : SourceReader) (paths : List Path),
      builder.perform read (scanning paths) = builder.scan read found paths := by
  rcases List.mem_cons.mp scans with rfl | scans
  · exact ⟨Usage.typeNames, fun _ _ _ => rfl⟩
  · obtain rfl := List.mem_singleton.mp scans
    exact ⟨Usage.importedNames, fun _ _ _ => rfl⟩

/-- An exclusion, an offer of what a pattern matches or a scan of one file that fails leaves the
builder as it was. A scan of several files fails for one of them: the files before it can be read,
and the builder is the one after scanning just them, each on its own in order, which succeeds. -/
theorem unchanged_of_failure {operation : Operation}
    (failed : (builder.perform read operation).2 = .error failure) :
    (∀ pattern path, operation ∈ [.exclude pattern, .offerMatching pattern, .scanTypes [path],
        .scanImports [path]] → (builder.perform read operation).1 = builder) ∧
      ∀ scanning ∈ [Operation.scanTypes, Operation.scanImports], ∀ paths,
        operation = scanning paths →
        ∃ done path rest, paths = done ++ path :: rest ∧
          (∀ earlier ∈ done, ∃ text, read earlier = .ok text) ∧ read path = .error failure ∧
          (builder.perform read operation).1 =
            done.foldl (fun builder path => (builder.perform read (scanning [path])).1) builder ∧
          builder.perform read (scanning done) =
            ((builder.perform read operation).1, .ok .done) := by
  have batch : ∀ scanning ∈ [Operation.scanTypes, Operation.scanImports], ∀ paths,
      operation = scanning paths →
      ∃ done path rest, paths = done ++ path :: rest ∧
        (∀ earlier ∈ done, ∃ text, read earlier = .ok text) ∧ read path = .error failure ∧
        (builder.perform read operation).1 =
          done.foldl (fun builder path => (builder.perform read (scanning [path])).1) builder ∧
        builder.perform read (scanning done) =
          ((builder.perform read operation).1, .ok .done) := by
    rintro scanning scans paths rfl
    obtain ⟨found, same⟩ := perform_scanning scans
    simp only [same] at failed ⊢
    obtain ⟨done, path, rest, split_paths, readable, unreadable, stopped⟩ := scan_of_error failed
    rw [stopped]
    exact ⟨done, path, rest, split_paths, readable, unreadable, rfl, scan_of_readable readable⟩
  have single {scanning : List Path → Operation}
      (scans : scanning ∈ [Operation.scanTypes, Operation.scanImports]) {path : Path}
      (alone : operation = scanning [path]) : (builder.perform read operation).1 = builder := by
    obtain ⟨done, first, rest, split_paths, _, _, scanned, _⟩ := batch scanning scans [path] alone
    obtain ⟨rfl, _⟩ : done = [] ∧ first = path ∧ rest = [] := by
      simpa [List.append_eq_cons_iff] using split_paths.symm
    exact scanned
  constructor
  · intro pattern path listed
    simp only [List.mem_cons, List.not_mem_nil, or_false] at listed
    rcases listed with rfl | rfl | alone | alone
    · exact perform_exclude_of_error failed
    · exact perform_offerMatching_of_failure failed
    · exact single (by simp) alone
    · exact single (by simp) alone
  · exact batch

/-- The second of three files is not there: what the first one names is registered and what the
third one names is not. -/
theorem unchanged_of_failure_missing :
    let tree : FileTree := ⟨[(["a.php"], .file (Text.Utf8.encode "new A;".toList)),
      (["c.php"], .file (Text.Utf8.encode "new C;".toList))]⟩
    let read := tree.sourceText []
    let builder := start (.ofList [("A", "/a.php"), ("C", "/c.php")])
    let paths : List Path := [⟨.slash, ["a.php"]⟩, ⟨.slash, ["b.php"]⟩, ⟨.slash, ["c.php"]⟩]
    (builder.perform read (.scanTypes paths)).2 = .error (.unusablePath .notFound "/b.php") ∧
      (∃ done path rest, paths = done ++ path :: rest ∧
        read path = .error (.unusablePath .notFound "/b.php") ∧
        (builder.perform read (.scanTypes paths)).1 =
          done.foldl (fun builder path => (builder.perform read (.scanTypes [path])).1) builder) ∧
      (builder.perform read (.scanTypes paths)).1.classes.toList = ["A"] := by
  intro tree read builder paths
  have failed : (builder.perform read (.scanTypes paths)).2 =
      .error (.unusablePath .notFound "/b.php") := by
    rfl
  obtain ⟨_, batch⟩ := unchanged_of_failure failed
  obtain ⟨done, path, rest, split_paths, _, unreadable, scanned, _⟩ :=
    batch .scanTypes (by simp) paths rfl
  exact ⟨failed, ⟨done, path, rest, split_paths, unreadable, scanned⟩, by decide +kernel⟩

end OpcachePreload.Builder
