import OpcachePreload.Builder.Operation

/-!
# What operations register

Every operation comes down to names that are offered one after the other. Offering names inserts
those that the class map knows and that no exclusion holds back, and it changes nothing else; so an
operation only appends to the classes, and what it answers counts what it appends.
-/

namespace OpcachePreload.Builder

variable {builder : Builder}

/-! ## One name -/

theorem accepts_iff {name : String} :
    builder.accepts name = true ↔
      name ∉ builder.classes.toList ∧ builder.excludes name = false ∧
        name ∈ builder.classMap.keys := by
  simp [accepts, OrderedSet.contains, OrderedMap.contains, and_assoc]

/-- Whether a name, its leading separator taken off, is known and not held back. -/
def admits (builder : Builder) (name : String) : Bool :=
  !builder.excludes name && builder.classMap.contains name

theorem admits_iff {name : String} :
    builder.admits name = true ↔
      builder.excludes name = false ∧ name ∈ builder.classMap.keys := by
  simp [admits, OrderedMap.contains]

theorem offer_of_accepts {name : String}
    (accepted : builder.accepts (ClassName.stripSeparator name) = true) :
    builder.offer name =
      ({ builder with classes := builder.classes.insert (ClassName.stripSeparator name) }, true) :=
  if_pos accepted

theorem offer_of_not_accepts {name : String}
    (refused : ¬builder.accepts (ClassName.stripSeparator name) = true) :
    builder.offer name = (builder, false) :=
  if_neg refused

/-- Offering a name touches nothing but the classes. -/
theorem offer_frame (name : String) :
    (builder.offer name).1 = { builder with classes := (builder.offer name).1.classes } := by
  unfold offer
  dsimp only
  split <;> rfl

/-- A name that is known and not held back is inserted, any other is passed over. -/
theorem classes_offer (name : String) :
    (builder.offer name).1.classes =
      if builder.admits (ClassName.stripSeparator name) then
        builder.classes.insert (ClassName.stripSeparator name)
      else builder.classes := by
  by_cases accepted : builder.accepts (ClassName.stripSeparator name) = true
  · rw [offer_of_accepts accepted, if_pos (admits_iff.mpr (accepts_iff.mp accepted).2)]
  · rw [offer_of_not_accepts accepted]
    by_cases admitted : builder.admits (ClassName.stripSeparator name) = true
    · have present : ClassName.stripSeparator name ∈ builder.classes.toList :=
        Decidable.byContradiction fun absent =>
          accepted (accepts_iff.mpr ⟨absent, admits_iff.mp admitted⟩)
      rw [if_pos admitted, OrderedSet.insert_of_mem present]
    · rw [if_neg admitted]

/-- The answer tells whether the name was appended. -/
theorem toList_classes_offer (name : String) :
    (builder.offer name).1.classes.toList =
      builder.classes.toList ++
        if (builder.offer name).2 then [ClassName.stripSeparator name] else [] := by
  by_cases accepted : builder.accepts (ClassName.stripSeparator name) = true
  · rw [offer_of_accepts accepted, OrderedSet.toList_insert,
      if_neg (accepts_iff.mp accepted).1]
    rfl
  · rw [offer_of_not_accepts accepted]
    simp

/-! ## Names one after the other -/

@[simp]
theorem offerAll_nil : builder.offerAll [] = (builder, 0) :=
  rfl

@[simp]
theorem offerAll_cons_fst (name : String) (names : List String) :
    (builder.offerAll (name :: names)).1 = ((builder.offer name).1.offerAll names).1 :=
  rfl

theorem offerAll_append_fst (first second : List String) :
    (builder.offerAll (first ++ second)).1 =
      ((builder.offerAll first).1.offerAll second).1 := by
  induction first generalizing builder with
  | nil => rfl
  | cons name rest ih => exact ih

/-- Offering names touches nothing but the classes. -/
theorem offerAll_frame (names : List String) :
    (builder.offerAll names).1 =
      { builder with classes := (builder.offerAll names).1.classes } := by
  induction names generalizing builder with
  | nil => rfl
  | cons name rest ih =>
      rw [offerAll_cons_fst, ih, offer_frame]

/-- Offering names inserts those that are known and not held back, in order. -/
theorem classes_offerAll (names : List String) :
    (builder.offerAll names).1.classes =
      builder.classes.insertAll ((names.map ClassName.stripSeparator).filter builder.admits) := by
  induction names generalizing builder with
  | nil => rfl
  | cons name rest ih =>
      have admits_eq : (builder.offer name).1.admits = builder.admits := by
        rw [offer_frame]
        rfl
      rw [offerAll_cons_fst, ih, classes_offer, admits_eq, List.map_cons]
      by_cases admitted : builder.admits (ClassName.stripSeparator name) = true
      · rw [if_pos admitted, List.filter_cons_of_pos admitted, OrderedSet.insertAll_cons]
      · rw [if_neg admitted, List.filter_cons_of_neg admitted]

/-- The builder after names were offered and files were listed. -/
def taking (builder : Builder) (names files compile : List String) : Builder :=
  { builder with
    classes := builder.classes.insertAll
      ((names.map ClassName.stripSeparator).filter builder.admits)
    files := builder.files.insertAll files
    compile := builder.compile.insertAll compile }

theorem offerAll_fst (names : List String) :
    (builder.offerAll names).1 = builder.taking names [] [] := by
  rw [offerAll_frame, classes_offerAll]
  rfl

/-- Taking some things and then more is taking all of them. -/
theorem taking_taking (names moreNames files moreFiles compile moreCompile : List String) :
    (builder.taking names files compile).taking moreNames moreFiles moreCompile =
      builder.taking (names ++ moreNames) (files ++ moreFiles) (compile ++ moreCompile) := by
  have admits_eq : (builder.taking names files compile).admits = builder.admits := rfl
  simp only [taking, List.map_append, List.filter_append, OrderedSet.insertAll_append]
  rfl

/-- The count is that of the names that were appended. -/
theorem toList_classes_offerAll (builder : Builder) (names : List String) :
    ∃ added, (builder.offerAll names).1.classes.toList = builder.classes.toList ++ added ∧
      added.length = (builder.offerAll names).2 := by
  induction names generalizing builder with
  | nil => exact ⟨[], (List.append_nil _).symm, rfl⟩
  | cons name rest ih =>
      obtain ⟨added, appended, counted⟩ := ih (builder.offer name).1
      refine ⟨(if (builder.offer name).2 then [ClassName.stripSeparator name] else []) ++ added,
        ?_, ?_⟩
      · rw [offerAll_cons_fst, appended, toList_classes_offer, List.append_assoc]
      · change _ = (builder.offer name).2.toNat + ((builder.offer name).1.offerAll rest).2
        rw [List.length_append, counted]
        cases (builder.offer name).2 <;> rfl

theorem offerAll_snd (builder : Builder) (names : List String) :
    (builder.offerAll names).2 = (builder.offerAll names).1.registeredSince builder := by
  obtain ⟨added, appended, counted⟩ := builder.toList_classes_offerAll names
  rw [registeredSince, OrderedSet.size, OrderedSet.size, appended, List.length_append, counted]
  omega

theorem classes_isPrefix_offerAll (builder : Builder) (names : List String) :
    builder.classes.toList <+: (builder.offerAll names).1.classes.toList := by
  obtain ⟨added, appended, _⟩ := builder.toList_classes_offerAll names
  rw [appended]
  exact List.prefix_append _ _

/-! ## Scans -/

/-- The texts of files, up to the first that cannot be read. -/
def readable (read : SourceReader) : List Path → List String
  | [] => []
  | path :: rest =>
    match read path with
    | .error _ => []
    | .ok text => text :: readable read rest

/-- A scan offers what it finds in the files that come before the first unreadable one. -/
theorem scan_fst (read : SourceReader) (found : String → List String) (paths : List Path) :
    (builder.scan read found paths).1 =
      (builder.offerAll ((readable read paths).flatMap found)).1 := by
  induction paths generalizing builder with
  | nil => rfl
  | cons path rest ih =>
      unfold scan readable
      cases read path with
      | error failure => rfl
      | ok text =>
          dsimp only
          rw [ih, List.flatMap_cons, offerAll_append_fst]

/-- A scan fails for the first file that cannot be read. -/
theorem scan_snd (read : SourceReader) (found : String → List String) (paths : List Path) :
    (builder.scan read found paths).2 = (paths.mapM read).map fun _ => .done := by
  induction paths generalizing builder with
  | nil => rfl
  | cons path rest ih =>
      unfold scan
      rw [List.mapM_cons]
      cases read path with
      | error failure => rfl
      | ok text =>
          dsimp only
          rw [ih]
          cases rest.mapM read <;> rfl

theorem readable_of_mapM {read : SourceReader} {paths : List Path} {texts : List String}
    (all_read : paths.mapM read = .ok texts) : readable read paths = texts := by
  induction paths generalizing texts with
  | nil => exact Except.ok.inj all_read
  | cons path rest ih =>
      unfold readable
      rw [List.mapM_cons] at all_read
      cases text_read : read path with
      | error failure =>
          rw [text_read] at all_read
          contradiction
      | ok text =>
          cases rest_read : rest.mapM read with
          | error failure =>
              rw [text_read, rest_read] at all_read
              contradiction
          | ok more =>
              rw [text_read, rest_read] at all_read
              obtain rfl := Except.ok.inj all_read
              rw [ih rest_read]

/-! ## Operations -/

/-- Whether a text is a pattern that occurs in a name. -/
def occurs (pattern name : String) : Bool :=
  (Pattern.compile pattern).toOption.any (·.occursIn name)

theorem occurs_of_ok {pattern : String} {compiled : Pattern}
    (good : Pattern.compile pattern = .ok compiled) : occurs pattern = compiled.occursIn := by
  funext name
  simp [occurs, good, Except.toOption]

theorem occurs_of_error {pattern : String} {rejection : Pattern.Rejection}
    (bad : Pattern.compile pattern = .error rejection) (name : String) :
    occurs pattern name = false := by
  simp [occurs, bad, Except.toOption]

theorem occurs_eq_true_iff {pattern name : String} :
    occurs pattern name = true ↔
      ∃ compiled, Pattern.compile pattern = .ok compiled ∧ compiled.occursIn name = true := by
  cases compiles : Pattern.compile pattern with
  | ok compiled => simp [occurs_of_ok compiles]
  | error rejection => simp [occurs_of_error compiles]

/-- The names that an operation offers. -/
def Operation.offers (classMap : ClassMap) (read : SourceReader) : Operation → List String
  | .offer name => [name]
  | .offerMatching pattern => classMap.keys.filter (occurs pattern)
  | .scanTypes paths => (readable read paths).flatMap Usage.typeNames
  | .scanImports paths => (readable read paths).flatMap Usage.importedNames
  | .exclude _ | .addFiles _ | .addCompileTargets _ => []

/-- The files that an operation lists. -/
def Operation.listed : Operation → List String
  | .addFiles files => files
  | _ => []

/-- The files to compile that an operation lists. -/
def Operation.targets : Operation → List String
  | .addCompileTargets files => files
  | _ => []

theorem perform_offerMatching_of_ok (read : SourceReader) {pattern : String} {compiled : Pattern}
    (good : Pattern.compile pattern = .ok compiled) :
    builder.perform read (.offerMatching pattern) =
      ((builder.offerAll (builder.classMap.keys.filter compiled.occursIn)).1,
        .ok (.count (builder.offerAll (builder.classMap.keys.filter compiled.occursIn)).2)) := by
  simp [perform, offerMatching, good, matching, bind, Except.bind, pure, Except.pure]

theorem perform_offerMatching_of_error (read : SourceReader) {pattern : String}
    {rejection : Pattern.Rejection} (bad : Pattern.compile pattern = .error rejection) :
    builder.perform read (.offerMatching pattern) =
      (builder, .error (.pattern pattern rejection)) := by
  simp [perform, offerMatching, bad, bind, Except.bind]

/-- Files that are added to a set of the builder one after the other are inserted in it. -/
theorem foldl_insert {add : Builder → String → Builder} (holding : OrderedSet String → Builder)
    (inserts : ∀ set file, add (holding set) file = holding (set.insert file))
    (set : OrderedSet String) (files : List String) :
    files.foldl add (holding set) = holding (set.insertAll files) := by
  induction files generalizing set with
  | nil => rfl
  | cons file rest ih =>
      rw [List.foldl_cons, inserts, ih]
      rfl

/-- Excluding a pattern that is excluded already, or that is none, changes nothing; any other one is
listed last. -/
theorem exclude_cases (builder : Builder) (read : SourceReader) (pattern : String) :
    ((builder.perform read (.exclude pattern)).1 = builder ∧
        (pattern ∈ builder.excluded.keys ∨
          ∃ rejection, Pattern.compile pattern = .error rejection)) ∨
      ∃ compiled, Pattern.compile pattern = .ok compiled ∧ pattern ∉ builder.excluded.keys ∧
        (builder.perform read (.exclude pattern)).1 =
          { builder with excluded := builder.excluded.insert pattern compiled } := by
  by_cases present : pattern ∈ builder.excluded.keys
  · exact .inl ⟨by simp [perform, exclude, OrderedMap.contains, present, pure, Except.pure],
      .inl present⟩
  · cases compiles : Pattern.compile pattern with
    | error rejection =>
        exact .inl ⟨by simp [perform, exclude, OrderedMap.contains, present, compiles, bind,
          Except.bind], .inr ⟨rejection, rfl⟩⟩
    | ok compiled =>
        exact .inr ⟨compiled, rfl, present, by simp [perform, exclude, OrderedMap.contains,
          present, compiles, bind, Except.bind, pure, Except.pure]⟩

/-- Any operation but an exclusion does what its offers and the files that it lists do. -/
theorem perform_of_ne_exclude (read : SourceReader) {operation : Operation}
    (plain : ∀ pattern, operation ≠ .exclude pattern) :
    (builder.perform read operation).1 =
      builder.taking (operation.offers builder.classMap read) operation.listed
        operation.targets := by
  cases operation with
  | exclude pattern => exact absurd rfl (plain pattern)
  | offer name => exact offerAll_fst [name]
  | offerMatching pattern =>
      cases compiles : Pattern.compile pattern with
      | ok compiled =>
          rw [perform_offerMatching_of_ok read compiles, Operation.offers, occurs_of_ok compiles]
          exact offerAll_fst _
      | error rejection =>
          have none_offered : builder.classMap.keys.filter (occurs pattern) = [] :=
            List.filter_eq_nil_iff.mpr fun name _ => by simp [occurs_of_error compiles]
          rw [perform_offerMatching_of_error read compiles, Operation.offers, none_offered]
          rfl
  | scanTypes paths => exact (scan_fst read _ paths).trans (offerAll_fst _)
  | scanImports paths => exact (scan_fst read _ paths).trans (offerAll_fst _)
  | addFiles files =>
      exact foldl_insert (fun set => { builder with files := set }) (fun _ _ => rfl) _ files
  | addCompileTargets files =>
      exact foldl_insert (fun set => { builder with compile := set }) (fun _ _ => rfl) _ files

/-- The two kinds of operation: exclusions, and those that only offer names or list files. -/
theorem perform_cases (builder : Builder) (read : SourceReader) (operation : Operation) :
    (∃ pattern, operation = .exclude pattern) ∨
      (∀ pattern, operation ≠ .exclude pattern) ∧
        (builder.perform read operation).1 =
          builder.taking (operation.offers builder.classMap read) operation.listed
            operation.targets := by
  by_cases excludes : ∃ pattern, operation = .exclude pattern
  · exact .inl excludes
  · have plain (pattern : String) : operation ≠ .exclude pattern :=
      fun same => excludes ⟨pattern, same⟩
    exact .inr ⟨plain, perform_of_ne_exclude read plain⟩

/-- An operation only appends to the classes. -/
theorem classes_isPrefix_perform (read : SourceReader) (operation : Operation) :
    builder.classes.toList <+: (builder.perform read operation).1.classes.toList := by
  rcases perform_cases builder read operation with ⟨pattern, rfl⟩ | ⟨_, performed⟩
  · have kept : (builder.perform read (.exclude pattern)).1.classes = builder.classes := by
      rcases exclude_cases builder read pattern with ⟨same, _⟩ | ⟨_, _, _, same⟩
      · rw [same]
      · rw [same]
    exact kept ▸ List.prefix_refl _
  · rw [performed, taking, OrderedSet.toList_insertAll]
    exact List.prefix_append _ _

end OpcachePreload.Builder
