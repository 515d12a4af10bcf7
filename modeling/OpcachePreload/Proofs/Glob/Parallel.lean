import OpcachePreload.Proofs.FileTree.Copy
import OpcachePreload.Proofs.Glob.Found

/-!
# Globs below two directories that hold the same

The names of a glob after the path of a directory find the same below every directory that holds the
same, as long as no name of that path is a wildcard itself.
-/

namespace OpcachePreload

/-! ## Paths below two roots -/

namespace Path

variable {root root' : Path} {first first' second second' paths paths' : List Path}
  {here : List String}

/-- Paths below one root, and in some order the same below another one. None of them leads up. -/
def Parallel (root root' : Path) (paths paths' : List Path) : Prop :=
  ∃ all : List (List String), paths = all.map root.below ∧ paths'.Perm (all.map root'.below) ∧
    ∀ names ∈ all, ".." ∉ names

theorem parallel_nil : Parallel root root' [] [] :=
  ⟨[], rfl, .nil, by simp⟩

theorem parallel_singleton (down : ".." ∉ here) :
    Parallel root root' [root.below here] [root'.below here] :=
  ⟨[here], rfl, .rfl, by simpa using down⟩

theorem Parallel.append (before : Parallel root root' first first')
    (after : Parallel root root' second second') :
    Parallel root root' (first ++ second) (first' ++ second') := by
  obtain ⟨some, rfl, same, down⟩ := before
  obtain ⟨more, rfl, same_more, down_more⟩ := after
  refine ⟨some ++ more, List.map_append.symm, ?_, ?_⟩
  · rw [List.map_append]
    exact same.append same_more
  · intro names present
    exact (List.mem_append.mp present).elim (down names) (down_more names)

/-- What makes parallel paths of the paths below both roots keeps paths parallel. -/
theorem Parallel.flatMap {next next' : Path → List Path}
    (onward : ∀ here, ".." ∉ here →
      Parallel root root' (next (root.below here)) (next' (root'.below here)))
    (parallel : Parallel root root' paths paths') :
    Parallel root root' (paths.flatMap next) (paths'.flatMap next') := by
  obtain ⟨all, rfl, same, down⟩ := parallel
  -- Another order of the second paths is another order of what is made of them.
  suffices straight : Parallel root root' ((all.map root.below).flatMap next)
      ((all.map root'.below).flatMap next') by
    obtain ⟨made, eq, same_made, down_made⟩ := straight
    exact ⟨made, eq, (same.flatMap_right _).trans same_made, down_made⟩
  clear same
  induction all with
  | nil => exact parallel_nil
  | cons here rest ih =>
      rw [List.forall_mem_cons] at down
      exact (onward here down.1).append (ih down.2)

/-- Two listings of the same give parallel paths. -/
theorem parallel_map_below {α : Type} {some some' : List α} (same : some'.Perm some)
    (more : α → List String) (here : List String) (down : ∀ a ∈ some, ".." ∉ here ++ more a) :
    Parallel root root' (some.map fun a => (root.below here).below (more a))
      (some'.map fun a => (root'.below here).below (more a)) := by
  refine ⟨some.map fun a => here ++ more a, ?_, ?_, ?_⟩
  · simp [below_below]
  · simpa [below_below, Function.comp_def] using same.map fun a => root'.below (here ++ more a)
  · simpa using down

end Path

namespace Glob

open FileTree (Copy Twins)
open OpcachePreload.Path (Parallel below below_below parallel_nil parallel_singleton
  parallel_map_below)

variable {tree tree' : FileTree} {directory directory' base base' : Location} {root root' : Path}
  {paths paths' : List Path} {here names : List String} {name : String}

/-! ## One name of a glob -/

theorem directoryAt?_cases (twins : Twins tree tree' directory directory' root root' base base')
    (down : ".." ∉ here) :
    (directoryAt? tree directory (root.below here) = none ∧
      directoryAt? tree' directory' (root'.below here) = none) ∨
    (directoryAt? tree directory (root.below here) = some (base ++ here) ∧
      directoryAt? tree' directory' (root'.below here) = some (base' ++ here)) := by
  obtain ⟨result, located, located'⟩ := twins.locate_eq down
  rw [directoryAt?, directoryAt?, located, located']
  cases result with
  | error fault => exact .inl ⟨rfl, rfl⟩
  | ok _ =>
      simp only [Except.map, twins.copy.isDirectoryAt_eq]
      by_cases directory : tree.isDirectoryAt (base ++ here) = true
      · exact .inr ⟨if_pos directory, if_pos directory⟩
      · exact .inl ⟨if_neg directory, if_neg directory⟩

theorem leadsSomewhere_eq (twins : Twins tree tree' directory directory' root root' base base')
    (down : ".." ∉ here) :
    leadsSomewhere tree' directory' (root'.below here) =
      leadsSomewhere tree directory (root.below here) := by
  rw [leadsSomewhere, leadsSomewhere, twins.lookup_eq down]

theorem isDirectoryAt_append_eq (copy : Copy tree tree' base base') (here names : List String) :
    tree'.isDirectoryAt (base' ++ here ++ names) = tree.isDirectoryAt (base ++ here ++ names) := by
  rw [List.append_assoc, List.append_assoc, copy.isDirectoryAt_eq]

theorem everything_parallel (twins : Twins tree tree' directory directory' root root' base base')
    (down : ".." ∉ here) (more : Bool) :
    Parallel root root' (everything tree directory (root.below here) more)
      (everything tree' directory' (root'.below here) more) := by
  unfold everything
  rcases directoryAt?_cases twins down with ⟨nowhere, nowhere'⟩ | ⟨there, there'⟩
  · rw [nowhere, nowhere']
    exact parallel_nil
  · rw [there, there']
    simp only [isDirectoryAt_append_eq twins.copy]
    have listings := (twins.copy.below_perm twins.sound twins.sound' here).filter fun names =>
      !names.any isHidden && (!more || tree.isDirectoryAt (base ++ here ++ names))
    apply (parallel_singleton down).append (parallel_map_below listings id here ?_)
    intro names present
    have listed : tree.Listed (base ++ here) names := .inr (.inl (List.mem_filter.mp present).1)
    simpa [down] using twins.copy.down_of_listed twins.sound listed

theorem listed_parallel (twins : Twins tree tree' directory directory' root root' base base')
    (down : ".." ∉ here) (wildcard : String) (more : Bool) :
    Parallel root root'
      (((listed tree directory (root.below here) more).filter (admits wildcard)).map fun found =>
        (root.below here).below [found])
      (((listed tree' directory' (root'.below here) more).filter (admits wildcard)).map fun found =>
        (root'.below here).below [found]) := by
  unfold listed
  rcases directoryAt?_cases twins down with ⟨nowhere, nowhere'⟩ | ⟨there, there'⟩
  · rw [nowhere, nowhere']
    exact parallel_nil
  · rw [there, there']
    simp only [isDirectoryAt_append_eq twins.copy]
    have listings := twins.copy.names_perm twins.sound twins.sound' here
    apply parallel_map_below ((listings.filter _).filter _)
    intro found present
    have present := (List.mem_filter.mp (List.mem_filter.mp present).1).1
    have listed : tree.Listed (base ++ here) [found] := .inr (.inr ⟨found, present, rfl⟩)
    simpa [down] using twins.copy.down_of_listed twins.sound listed

/-- One name of a glob finds the same below both directories. -/
theorem advance_parallel (twins : Twins tree tree' directory directory' root root' base base')
    (name_down : ".." ≠ name) (more : Bool) (here : List String) (down : ".." ∉ here) :
    Parallel root root' (advance tree directory name more (root.below here))
      (advance tree' directory' name more (root'.below here)) := by
  unfold advance
  split
  · exact everything_parallel twins down more
  split
  · exact listed_parallel twins down name more
  · have next_down : ".." ∉ here ++ [name] := by simp [down, name_down]
    have next (root : Path) : { root.below here with names := (root.below here).names ++ [name] } =
        root.below (here ++ [name]) :=
      below_below
    simp only [next, leadsSomewhere_eq twins next_down]
    split
    · exact parallel_singleton next_down
    · exact parallel_nil

/-! ## Whole globs -/

theorem advanceAll_parallel (twins : Twins tree tree' directory directory' root root' base base')
    (names_down : ".." ∉ names) (parallel : Parallel root root' paths paths') :
    Parallel root root' (advanceAll tree directory paths names)
      (advanceAll tree' directory' paths' names) := by
  induction names generalizing paths paths' with
  | nil => exact parallel
  | cons name rest ih =>
      rw [List.mem_cons, not_or] at names_down
      exact ih names_down.2 (parallel.flatMap (advance_parallel twins names_down.1 _))

/-- The paths that names of a glob find below a path, once it leads to a directory and no name of it
is a wildcard: none of its names has a part in the search. -/
theorem found_below (leads : tree.locate directory root = .ok base)
    (plain : ∀ name ∈ root.names, isWildcard name = false) (names : List String) :
    Glob.found tree directory (root.below names) =
      if (names.takeWhile (!isWildcard ·)).length < names.length then
        if (names.takeWhile (!isWildcard ·)).any (·.toList.contains (Char.ofNat 0)) then
          .error .nullCharacter
        else
          .ok (advanceAll tree directory [root.below (names.takeWhile (!isWildcard ·))]
            (names.drop (names.takeWhile (!isWildcard ·)).length))
      else
        .ok (if leadsSomewhere tree directory (root.below names) then [root.below names]
          else []) := by
  have front_eq : front (root.below names) = root.names ++ names.takeWhile (!isWildcard ·) := by
    rw [front, below, List.takeWhile_append_of_pos fun name present => by simp [plain name present]]
  have root_clean : root.names.any (·.toList.contains (Char.ofNat 0)) = false :=
    FileTree.clean_of_locate leads
  have wild_iff : (front (root.below names)).length < (root.below names).names.length ↔
      (names.takeWhile (!isWildcard ·)).length < names.length := by
    rw [front_eq, below, List.length_append, List.length_append, Nat.add_lt_add_iff_left]
  split
  · rename_i wild
    rw [found_of_wildcard (wild_iff.mpr wild), front_eq, List.any_append, root_clean,
      Bool.false_or, below, List.length_append, List.drop_length_add_append]
    rfl
  · rename_i literal
    exact found_of_literal fun wild => literal (wild_iff.mp wild)

/-- A glob finds the same below both directories, or cannot be searched for below either. -/
theorem found_parallel (twins : Twins tree tree' directory directory' root root' base base')
    (plain : ∀ name ∈ root.names, isWildcard name = false)
    (plain' : ∀ name ∈ root'.names, isWildcard name = false) (down : ".." ∉ names) :
    (∃ paths paths', Glob.found tree directory (root.below names) = .ok paths ∧
      Glob.found tree' directory' (root'.below names) = .ok paths' ∧
      Parallel root root' paths paths') ∨
    (Glob.found tree directory (root.below names) = .error .nullCharacter ∧
      Glob.found tree' directory' (root'.below names) = .error .nullCharacter) := by
  rw [found_below twins.leads plain, found_below twins.leads' plain']
  split
  · split
    · exact .inr ⟨rfl, rfl⟩
    · have early_down : ".." ∉ names.takeWhile (!isWildcard ·) :=
        fun up => down ((List.takeWhile_prefix _).subset up)
      have late_down : ".." ∉ names.drop (names.takeWhile (!isWildcard ·)).length :=
        fun up => down (List.mem_of_mem_drop up)
      exact .inl ⟨_, _, rfl, rfl,
        advanceAll_parallel twins late_down (parallel_singleton early_down)⟩
  · rw [leadsSomewhere_eq twins down]
    refine .inl ⟨_, _, rfl, rfl, ?_⟩
    split
    · exact parallel_singleton down
    · exact parallel_nil

end Glob

end OpcachePreload
