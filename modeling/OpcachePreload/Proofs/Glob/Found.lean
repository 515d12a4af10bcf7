import Mathlib.Data.List.Perm.Basic
import OpcachePreload.Glob.Expansion
import OpcachePreload.Proofs.FileTree.Listing

/-!
# What globs find

A search fails only over a null character before the first wildcard. What it finds has the root of
the glob, can be asked for, and does not depend on the order of the listings but for its own order.
-/

namespace OpcachePreload.Glob

open FileTree (Sound Answers)

variable {tree tree' : FileTree} {directory location : Location} {glob path found : Path}
  {paths paths' : List Path} {names : List String} {name : String} {more : Bool}

/-! ## Whether a search succeeds -/

/-- The names before the first wildcard. -/
def front (glob : Path) : List String := glob.names.takeWhile (!isWildcard ·)

/-- If there is a wildcard, no name before it holds a null character. -/
def Searchable (glob : Path) : Prop :=
  (front glob).length < glob.names.length → ∀ name ∈ front glob, Char.ofNat 0 ∉ name.toList

instance (glob : Path) : Decidable (Searchable glob) := by
  unfold Searchable
  infer_instance

theorem found_of_literal (literal : ¬ (front glob).length < glob.names.length) :
    Glob.found tree directory glob =
      .ok (if leadsSomewhere tree directory glob then [glob] else []) := by
  have none_left : (glob.names.drop (front glob).length).isEmpty = true := by
    rw [List.isEmpty_iff, List.drop_eq_nil_iff]
    exact Nat.not_lt.mp literal
  exact if_pos none_left

theorem found_of_wildcard (wild : (front glob).length < glob.names.length) :
    Glob.found tree directory glob =
      if (front glob).any (·.toList.contains (Char.ofNat 0)) then .error .nullCharacter
      else .ok (advanceAll tree directory [{ glob with names := front glob }]
        (glob.names.drop (front glob).length)) := by
  have some_left : ¬ (glob.names.drop (front glob).length).isEmpty = true := by
    rw [List.isEmpty_iff, List.drop_eq_nil_iff]
    exact Nat.not_le.mpr wild
  exact if_neg some_left

theorem found_of_searchable (searchable : Searchable glob)
    (wild : (front glob).length < glob.names.length) :
    Glob.found tree directory glob =
      .ok (advanceAll tree directory [{ glob with names := front glob }]
        (glob.names.drop (front glob).length)) := by
  have clear : ¬ (front glob).any (·.toList.contains (Char.ofNat 0)) = true := by
    simpa using searchable wild
  rw [found_of_wildcard wild, if_neg clear]

theorem exists_found_iff :
    (∃ paths, Glob.found tree directory glob = .ok paths) ↔ Searchable glob := by
  constructor
  · rintro ⟨paths, matched⟩ wild name early null
    have obscured : (front glob).any (·.toList.contains (Char.ofNat 0)) = true :=
      List.any_eq_true.mpr ⟨name, early, List.contains_iff_mem.mpr null⟩
    rw [found_of_wildcard wild, if_pos obscured] at matched
    contradiction
  · intro searchable
    by_cases wild : (front glob).length < glob.names.length
    · exact ⟨_, found_of_searchable searchable wild⟩
    · exact ⟨_, found_of_literal wild⟩

/-- What every step of a search keeps holds of all that is found. -/
theorem forall_mem_advanceAll {good : Path → Prop} (holds : ∀ path ∈ paths, good path)
    (kept : ∀ name ∈ names, ∀ more path found, good path →
      found ∈ advance tree directory name more path → good found) :
    ∀ path ∈ advanceAll tree directory paths names, good path := by
  induction names generalizing paths with
  | nil => exact holds
  | cons name rest ih =>
      apply ih
      · intro path present
        obtain ⟨origin, earlier, made⟩ := List.mem_flatMap.mp present
        exact kept name List.mem_cons_self _ origin path (holds origin earlier) made
      · exact fun other later => kept other (List.mem_cons_of_mem _ later)

/-! ## The paths that are found -/

theorem locate_of_directoryAt? (there : directoryAt? tree directory path = some location) :
    tree.locate directory path = .ok location := by
  unfold directoryAt? at there
  split at there
  · split at there
    · rwa [← Option.some.inj there]
    · contradiction
  · contradiction

/-- A step goes on from a path by names: either the path made is looked up, or the names were listed
in a directory. -/
theorem exists_names_of_mem_advance (present : found ∈ advance tree directory name more path) :
    ∃ names, found = { path with names := path.names ++ names } ∧
      (leadsSomewhere tree directory found = true ∨
        ∃ location, tree.locate directory path = .ok location ∧ tree.Listed location names) := by
  unfold advance at present
  split at present
  · unfold everything at present
    split at present
    · contradiction
    · rename_i location there
      have leads := locate_of_directoryAt? there
      rcases List.mem_cons.mp present with rfl | below
      · exact ⟨[], by simp, .inr ⟨location, leads, .inl rfl⟩⟩
      · obtain ⟨names, kept, rfl⟩ := List.mem_map.mp below
        exact ⟨names, rfl, .inr ⟨location, leads, .inr (.inl (List.mem_filter.mp kept).1)⟩⟩
  split at present
  · obtain ⟨last, kept, rfl⟩ := List.mem_map.mp present
    have candidate := (List.mem_filter.mp kept).1
    unfold listed at candidate
    split at candidate
    · contradiction
    · rename_i location there
      have here := (List.mem_filter.mp candidate).1
      exact ⟨[last], rfl,
        .inr ⟨location, locate_of_directoryAt? there, .inr (.inr ⟨last, here, rfl⟩)⟩⟩
  · dsimp only at present
    split at present
    · rename_i leads
      obtain rfl := List.mem_singleton.mp present
      exact ⟨[name], rfl, .inl leads⟩
    · contradiction

theorem answers_of_leadsSomewhere (leads : leadsSomewhere tree directory path = true) :
    tree.Answers directory path := by
  unfold leadsSomewhere at leads
  cases there : tree.lookup directory path with
  | ok node => exact FileTree.answers_of_lookup there
  | error fault =>
      rw [there] at leads
      contradiction

/-- What a step finds can be asked for. -/
theorem answers_of_mem_advance (sound : tree.Sound)
    (present : found ∈ advance tree directory name more path) : tree.Answers directory found := by
  obtain ⟨names, rfl, leads | ⟨location, leads, listed⟩⟩ := exists_names_of_mem_advance present
  · exact answers_of_leadsSomewhere leads
  · exact FileTree.answers_append leads (sound.short_of_listed listed)

theorem root_of_mem_advance (present : found ∈ advance tree directory name more path) :
    found.root = path.root := by
  obtain ⟨names, rfl, _⟩ := exists_names_of_mem_advance present
  rfl

theorem mem_found_cases (matched : Glob.found tree directory glob = .ok paths)
    (present : path ∈ paths) :
    (path = glob ∧ leadsSomewhere tree directory glob = true) ∨
      ∃ name rest, path ∈ advanceAll tree directory [{ glob with names := front glob }]
        (name :: rest) := by
  by_cases wild : (front glob).length < glob.names.length
  · rw [found_of_searchable (exists_found_iff.mp ⟨paths, matched⟩) wild] at matched
    obtain rfl := Except.ok.inj matched
    obtain ⟨name, rest, left⟩ := List.exists_cons_of_length_pos
      (l := glob.names.drop (front glob).length) (by rw [List.length_drop]; omega)
    exact .inr ⟨name, rest, left ▸ present⟩
  · rw [found_of_literal wild] at matched
    obtain rfl := Except.ok.inj matched
    split at present
    · rename_i leads
      exact .inl ⟨List.mem_singleton.mp present, leads⟩
    · contradiction

/-- What a search finds can be asked for. -/
theorem answers_of_mem_found (sound : tree.Sound)
    (matched : Glob.found tree directory glob = .ok paths) :
    ∀ path ∈ paths, tree.Answers directory path := by
  intro path present
  rcases mem_found_cases matched present with ⟨rfl, leads⟩ | ⟨name, rest, made⟩
  · exact answers_of_leadsSomewhere leads
  · rw [advanceAll] at made
    refine forall_mem_advanceAll ?_ (fun _ _ _ _ _ _ last => answers_of_mem_advance sound last) path
      made
    intro first early
    obtain ⟨_, _, first_made⟩ := List.mem_flatMap.mp early
    exact answers_of_mem_advance sound first_made

/-- What a search finds has the root of the glob. -/
theorem root_of_mem_found (matched : Glob.found tree directory glob = .ok paths) :
    ∀ path ∈ paths, path.root = glob.root := by
  intro path present
  rcases mem_found_cases matched present with ⟨rfl, _⟩ | ⟨name, rest, made⟩
  · rfl
  · have started : ∀ start ∈ [{ glob with names := front glob }], start.root = glob.root := by simp
    exact forall_mem_advanceAll started
      (fun _ _ _ _ _ same last => (root_of_mem_advance last).trans same) path made

/-! ## Other orders -/

theorem directoryAt?_congr (same : ∀ location, tree'.get? location = tree.get? location)
    (path : Path) : directoryAt? tree' directory path = directoryAt? tree directory path := by
  simp only [directoryAt?, FileTree.locate_congr same, FileTree.isDirectoryAt, same]
  rfl

theorem leadsSomewhere_congr (same : ∀ location, tree'.get? location = tree.get? location)
    (path : Path) : leadsSomewhere tree' directory path = leadsSomewhere tree directory path := by
  rw [leadsSomewhere, FileTree.lookup_congr same, leadsSomewhere]

theorem advance_perm (sound : tree.Sound) (rearranged : tree.nodes.Perm tree'.nodes) (name : String)
    (more : Bool) (path : Path) :
    (advance tree directory name more path).Perm (advance tree' directory name more path) := by
  have same := sound.get?_of_perm rearranged
  unfold advance
  split
  · unfold everything
    rw [directoryAt?_congr same]
    split
    · exact .nil
    · simp only [FileTree.isDirectoryAt, same]
      exact (((FileTree.below_perm rearranged _).filter _).map _).cons _
  split
  · unfold listed
    rw [directoryAt?_congr same]
    split
    · exact .nil
    · simp only [FileTree.isDirectoryAt, same]
      exact (((FileTree.names_perm rearranged _).filter _).filter _).map _
  · simp only [leadsSomewhere_congr same]
    exact .rfl

theorem advanceAll_perm (sound : tree.Sound) (rearranged : tree.nodes.Perm tree'.nodes)
    (names : List String) (paths_perm : paths.Perm paths') :
    (advanceAll tree directory paths names).Perm (advanceAll tree' directory paths' names) := by
  induction names generalizing paths paths' with
  | nil => exact paths_perm
  | cons name rest ih =>
      exact ih (paths_perm.flatMap fun path _ => advance_perm sound rearranged name _ path)

/-- A search in a tree that lists its entries in another order finds the same in another order. -/
theorem found_perm (sound : tree.Sound) (rearranged : tree.nodes.Perm tree'.nodes)
    (matched : Glob.found tree directory glob = .ok paths)
    (matched' : Glob.found tree' directory glob = .ok paths') : paths.Perm paths' := by
  by_cases wild : (front glob).length < glob.names.length
  · have searchable := exists_found_iff.mp ⟨paths, matched⟩
    rw [found_of_searchable searchable wild] at matched matched'
    obtain rfl := Except.ok.inj matched
    obtain rfl := Except.ok.inj matched'
    exact advanceAll_perm sound rearranged _ .rfl
  · rw [found_of_literal wild] at matched matched'
    obtain rfl := Except.ok.inj matched
    obtain rfl := Except.ok.inj matched'
    rw [leadsSomewhere_congr (sound.get?_of_perm rearranged)]

end OpcachePreload.Glob
