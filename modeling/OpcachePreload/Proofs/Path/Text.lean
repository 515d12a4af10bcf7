import OpcachePreload.Path

/-!
# The text of a path

A path whose names can be names is read back from its text, so different paths have different texts.
Every path that is read has such names.
-/

namespace OpcachePreload.Path

open Text (joinWith split)

/-- A path whose names can be names. -/
def Proper (path : Path) : Prop := ∀ name ∈ path.names, isName name = true

variable {name : String} {names : List String} {path base : Path}

theorem isName_iff :
    isName name = true ↔ name.toList ≠ [] ∧ name.toList ≠ ['.'] ∧ '/' ∉ name.toList := by
  have empty_iff : name = "" ↔ name.toList = [] := by
    rw [← String.toList_inj]
    rfl
  have dot_iff : name = "." ↔ name.toList = ['.'] := by
    rw [← String.toList_inj]
    rfl
  simp only [isName, Bool.and_eq_true, bne_iff_ne, ne_eq, Bool.not_eq_true', List.contains_eq_mem,
    decide_eq_false_iff_not, empty_iff, dot_iff, and_assoc]

/-! ## Proper paths -/

/-- A path that is read is proper. -/
theorem proper_ofString (text : String) : (ofString text).Proper := by
  intro name present
  obtain ⟨piece, cut, kept⟩ := List.mem_filterMap.mp present
  split at kept
  · contradiction
  · rename_i visible
    obtain rfl := Option.some.inj kept
    rw [isName_iff, String.toList_ofList]
    simp only [Bool.or_eq_true, decide_eq_true_eq, not_or] at visible
    exact ⟨visible.1, visible.2, Text.not_mem_of_mem_split cut⟩

theorem Proper.join (base_proper : base.Proper) (path_proper : path.Proper) :
    (base / path).Proper := by
  change (Path.join base path).Proper
  unfold Path.join
  split
  · exact path_proper
  · intro name present
    rcases List.mem_append.mp present with first | second
    · exact base_proper name first
    · exact path_proper name second

/-! ## Round trip -/

/-- A name that is kept when a path is read. -/
def kept (piece : List Char) : Option String :=
  if piece = [] || piece = ['.'] then none else some (String.ofList piece)

theorem filterMap_kept_toList (proper : ∀ name ∈ names, isName name = true) :
    (names.map String.toList).filterMap kept = names := by
  induction names with
  | nil => rfl
  | cons first rest ih =>
      obtain ⟨nonempty, not_dot, _⟩ := isName_iff.mp (proper first List.mem_cons_self)
      have first_kept : kept first.toList = some first := by
        simp only [kept, nonempty, not_dot, decide_false, Bool.or_self, Bool.false_eq_true,
          if_false, String.ofList_toList]
      rw [List.map_cons, List.filterMap_cons, first_kept,
        ih fun name present => proper name (List.mem_cons_of_mem _ present)]

/-- Names between slashes are read as these names. -/
theorem filterMap_kept_split (proper : ∀ name ∈ names, isName name = true) :
    (split '/' (joinWith '/' (names.map String.toList))).filterMap kept = names := by
  cases names with
  | nil => rfl
  | cons first rest =>
      have free : ∀ piece ∈ (first :: rest).map String.toList, '/' ∉ piece := by
        intro piece present
        obtain ⟨name, listed, rfl⟩ := List.mem_map.mp present
        exact (isName_iff.mp (proper name listed)).2.2
      rw [Text.split_joinWith (by simp) free, filterMap_kept_toList proper]

theorem head?_joinWith_ne (proper : ∀ name ∈ names, isName name = true) :
    (joinWith '/' (names.map String.toList)).head? ≠ some '/' := by
  cases names with
  | nil => simp [joinWith]
  | cons first rest =>
      obtain ⟨nonempty, _, free⟩ := isName_iff.mp (proper first List.mem_cons_self)
      obtain ⟨c, chars, spelled⟩ := List.exists_cons_of_ne_nil nonempty
      rw [spelled, List.mem_cons, not_or] at free
      cases rest <;> simp [joinWith, spelled, Ne.symm free.1]

theorem rootOf_of_head?_ne {text : List Char} (plain : text.head? ≠ some '/') :
    rootOf text = .relative ∧ rootOf ('/' :: text) = .slash ∧
      rootOf ('/' :: '/' :: text) = .doubleSlash := by
  cases text with
  | nil => decide
  | cons c rest =>
      have differs : c ≠ '/' := by simpa using plain
      exact ⟨by simp [rootOf, differs], by simp [rootOf, differs], by simp [rootOf, differs]⟩

/-- A proper path is read back from its text. -/
theorem ofString_toString (proper : path.Proper) : ofString (toString path) = path := by
  obtain ⟨root, names⟩ := path
  obtain ⟨relative, slash, doubleSlash⟩ := rootOf_of_head?_ne (head?_joinWith_ne proper)
  have read := filterMap_kept_split proper
  have spelled : (String.intercalate "/" names).toList =
      joinWith '/' (names.map String.toList) := by
    rw [String.toList_intercalate, Text.joinWith_eq_intercalate]
    rfl
  have slashes (text : List Char) : (split '/' ('/' :: text)).filterMap kept =
      (split '/' text).filterMap kept := by
    simp [split, kept]
  cases root with
  | relative =>
      cases names with
      | nil => rfl
      | cons first rest =>
          have text : (toString ⟨.relative, first :: rest⟩).toList =
              joinWith '/' ((first :: rest).map String.toList) := by
            simp [toString, PathRoot.text, spelled]
          rw [ofString, text, relative]
          exact congrArg (Path.mk .relative) read
  | slash =>
      have text : (toString ⟨.slash, names⟩).toList =
          '/' :: joinWith '/' (names.map String.toList) := by
        simp [toString, PathRoot.text, spelled]
      rw [ofString, text, slash]
      exact congrArg (Path.mk .slash) ((slashes _).trans read)
  | doubleSlash =>
      have text : (toString ⟨.doubleSlash, names⟩).toList =
          '/' :: '/' :: joinWith '/' (names.map String.toList) := by
        simp [toString, PathRoot.text, spelled]
      rw [ofString, text, doubleSlash]
      exact congrArg (Path.mk .doubleSlash) ((slashes _).trans ((slashes _).trans read))

/-- Different paths have different texts. -/
theorem toString_injective {first second : Path} (first_proper : first.Proper)
    (second_proper : second.Proper) (same : toString first = toString second) : first = second := by
  rw [← ofString_toString first_proper, same, ofString_toString second_proper]

end OpcachePreload.Path
