import OpcachePreload.Proofs.Glob.Parallel
import OpcachePreload.Proofs.Settings.Expansion

/-!
# Expansion below two roots

Entries that stay inside the root of a project stand for the same below every root that leads to a
directory that holds the same, as long as no name in the roots is a wildcard. A root with a name
that is one is searched for with the entries.
-/

namespace OpcachePreload

/-! ## The order of paths below a root -/

namespace Path

variable {paths paths' : List Path}

theorem le_below (root : Path) (names more : List String) :
    le (root.below names) (root.below more) = !decide (more < names) := by
  have strip (front : List String) : front ++ more < front ++ names ↔ more < names := by
    induction front with
    | nil => rfl
    | cons first rest ih => rw [List.cons_append, List.cons_append, List.cons_lt_cons_self, ih]
  unfold le key below isAbsolute
  split
  · simp [strip]
  · simp [strip]

/-- Below every root the same order counts. -/
theorem mergeSort_map_below (root : Path) (all : List (List String)) :
    (all.map root.below).mergeSort le =
      (all.mergeSort fun names more => !decide (more < names)).map root.below :=
  (List.map_mergeSort fun names _ more _ => (le_below root names more).symm).symm

theorem mergeSort_eq_of_perm {root : PathRoot} (same_root : ∀ path ∈ paths, path.root = root)
    (rearranged : paths.Perm paths') : paths.mergeSort le = paths'.mergeSort le := by
  have sorted_root : ∀ path ∈ paths.mergeSort le, path.root = root :=
    fun path present => same_root path (List.mem_mergeSort.mp present)
  apply eq_of_perm_of_sorted sorted_root
  · exact (List.mergeSort_perm _ _).trans (rearranged.trans (List.mergeSort_perm _ _).symm)
  · exact pairwise_mergeSort_key paths
  · exact pairwise_mergeSort_key paths'

end Path

/-! ## Entries -/

namespace Settings

open OpcachePreload.Action
open FileTree (Copy Twins leadsToFile)
open Glob (isWildcard Searchable)
open OpcachePreload.Path (Parallel)

variable {settings settings' : Settings} {surroundings surroundings' : Surroundings}
  {files files' : FileTree} {base base' : Location} {entry : String} {entries : List String}

/-- An entry that means a path below every root: it is relative, names neither a variable nor the
home directory, and does not go up. -/
structure StaysInside (entry : String) : Prop where
  relative : entry.toList.head? ≠ some '/'
  away : entry.toList.head? ≠ some '~'
  plain : '$' ∉ entry.toList
  down : ".." ∉ (Path.ofString entry).names

theorem resolveIn_of_staysInside (inside : StaysInside entry) (environment : Environment)
    (root : Path) : resolveIn environment root entry = root.below (Path.ofString entry).names := by
  have home : environment.expandHome entry.toList = entry.toList := by
    unfold Environment.expandHome
    split
    · rename_i starts
      exact absurd (congrArg List.head? starts) inside.away
    · rfl
  have relative : (Path.ofString entry).isAbsolute = false := by
    rw [Path.isAbsolute, Path.ofString, (Path.rootOf_of_head?_ne inside.relative).1]
    rfl
  rw [resolveIn, Environment.path, home, Environment.expandVariables_of_not_mem inside.plain,
    String.ofList_toList]
  simp [HDiv.hDiv, Path.join, relative, Path.below]

/-- Of parallel paths the files are parallel, and in the same order. -/
theorem exists_mergeSort_eq {root root' : Path} {directory directory' : Location}
    (twins : Twins files files' directory directory' root root' base base')
    {paths paths' : List Path} (parallel : Parallel root root' paths paths') :
    ∃ all : List (List String),
      (paths.filter (leadsToFile files directory)).mergeSort Path.le = all.map root.below ∧
      (paths'.filter (leadsToFile files' directory')).mergeSort Path.le = all.map root'.below := by
  obtain ⟨all, rfl, same, down⟩ := parallel
  have same_test : all.filter (leadsToFile files' directory' ∘ root'.below) =
      all.filter (leadsToFile files directory ∘ root.below) :=
    List.filter_congr fun names present => twins.leadsToFile_eq (down names present)
  refine ⟨(all.filter (leadsToFile files directory ∘ root.below)).mergeSort fun names more =>
    !decide (more < names), ?_, ?_⟩
  · rw [List.filter_map, Path.mergeSort_map_below]
  · have same_root : ∀ path ∈ paths'.filter (leadsToFile files' directory'),
        path.root = root'.root := by
      intro path present
      obtain ⟨names, _, rfl⟩ := List.mem_map.mp (same.mem_iff.mp (List.mem_filter.mp present).1)
      rfl
    rw [Path.mergeSort_eq_of_perm same_root (same.filter _), List.filter_map, same_test,
      Path.mergeSort_map_below]

theorem settles_pathsOf_of_error {fault : PathFault} (wild : isWildcard entry = true)
    (failed : Glob.found files surroundings.directory
      (resolveIn surroundings.environment settings.root entry) = .error fault) :
    Settles surroundings files (settings.pathsOf entry) (.error (.unusablePath fault
      (toString (resolveIn surroundings.environment settings.root entry)))) := by
  apply (settles_resolve entry).follow
  rw [if_pos wild]
  apply Settles.stop
  apply Settles.stop
  have asked := @settles_ask _ surroundings files
    (toString (resolveIn surroundings.environment settings.root entry)) fun tree directory =>
      Glob.found tree directory (resolveIn surroundings.environment settings.root entry)
  rwa [failed] at asked

/-- An entry that stays inside stands for the same below both roots, or cannot be searched for below
either. -/
theorem pathsOf_parallel
    (twins : Twins files files' surroundings.directory surroundings'.directory settings.root
      settings'.root base base')
    (plain : ∀ name ∈ settings.root.names, isWildcard name = false)
    (plain' : ∀ name ∈ settings'.root.names, isWildcard name = false) (inside : StaysInside entry) :
    (∃ all : List (List String),
      Settles surroundings files (settings.pathsOf entry) (.ok (all.map settings.root.below)) ∧
      Settles surroundings' files' (settings'.pathsOf entry)
        (.ok (all.map settings'.root.below))) ∨
    (isWildcard entry = true ∧
      ¬ Searchable (resolveIn surroundings.environment settings.root entry) ∧
      ∃ failure failure',
        Settles surroundings files (settings.pathsOf entry) (.error failure) ∧
        Settles surroundings' files' (settings'.pathsOf entry) (.error failure')) := by
  have meant := resolveIn_of_staysInside inside surroundings.environment settings.root
  have meant' := resolveIn_of_staysInside inside surroundings'.environment settings'.root
  cases wild : isWildcard entry with
  | false =>
      refine .inl ⟨[(Path.ofString entry).names], (settles_resolve entry).follow ?_,
        (settles_resolve entry).follow ?_⟩
      · rw [meant, if_neg (by simp [wild])]
        exact settles_pure _
      · rw [meant', if_neg (by simp [wild])]
        exact settles_pure _
  | true =>
      rcases Glob.found_parallel twins plain plain' inside.down with
        ⟨paths, paths', matched, matched', parallel⟩ | ⟨failed, failed'⟩
      · obtain ⟨all, sorted, sorted'⟩ := exists_mergeSort_eq twins parallel
        rw [← meant] at matched
        rw [← meant'] at matched'
        refine .inl ⟨all, ?_, ?_⟩
        · rw [← sorted]
          exact settles_pathsOf_of_wildcard wild twins.sound matched
        · rw [← sorted']
          exact settles_pathsOf_of_wildcard wild twins.sound' matched'
      · rw [← meant] at failed
        rw [← meant'] at failed'
        refine .inr ⟨rfl, fun searchable => ?_, _, _, settles_pathsOf_of_error wild failed,
          settles_pathsOf_of_error wild failed'⟩
        obtain ⟨paths, matched⟩ := Glob.exists_found_iff.mpr searchable
        cases failed.symm.trans matched

theorem allPathsOf_parallel
    (twins : Twins files files' surroundings.directory surroundings'.directory settings.root
      settings'.root base base')
    (plain : ∀ name ∈ settings.root.names, isWildcard name = false)
    (plain' : ∀ name ∈ settings'.root.names, isWildcard name = false)
    (inside : ∀ entry ∈ entries, StaysInside entry) :
    (∃ all : List (List String),
      Settles surroundings files (settings.allPathsOf entries)
        (.ok (all.map settings.root.below)) ∧
      Settles surroundings' files' (settings'.allPathsOf entries)
        (.ok (all.map settings'.root.below))) ∨
    (¬ AllSearchable settings surroundings.environment entries ∧ ∃ failure failure',
      Settles surroundings files (settings.allPathsOf entries) (.error failure) ∧
      Settles surroundings' files' (settings'.allPathsOf entries) (.error failure')) := by
  induction entries with
  | nil => exact .inl ⟨[], settles_pure [], settles_pure []⟩
  | cons entry rest ih =>
      rw [List.forall_mem_cons] at inside
      rcases pathsOf_parallel twins plain plain' inside.1 with
        ⟨first, settles, settles'⟩ | ⟨wild, obscured, failure, failure', fails, fails'⟩
      · rcases ih inside.2 with
          ⟨more, rest_settles, rest_settles'⟩ | ⟨obscured, failure, failure', fails, fails'⟩
        · refine .inl ⟨first ++ more, ?_, ?_⟩
          · rw [List.map_append]
            exact settles.follow (rest_settles.follow (settles_pure _))
          · rw [List.map_append]
            exact settles'.follow (rest_settles'.follow (settles_pure _))
        · refine .inr ⟨fun searchable => obscured fun other later => ?_, failure, failure',
            settles.follow (fails.stop _), settles'.follow (fails'.stop _)⟩
          exact searchable other (List.mem_cons_of_mem _ later)
      · exact .inr ⟨fun searchable => obscured (searchable entry List.mem_cons_self wild), failure,
          failure', fails.stop _, fails'.stop _⟩

/-! ## Expansion -/

/-- Entries that stay inside are expanded below two roots to the same, if the roots lead to
directories that hold the same and no name in them is a wildcard; entries that cannot be searched
for fail below both. -/
theorem expand_parallel (settings settings' : Settings) (surroundings surroundings' : Surroundings)
    (twins : Twins files files' surroundings.directory surroundings'.directory settings.root
      settings'.root base base')
    (plain : ∀ name ∈ settings.root.names, isWildcard name = false)
    (plain' : ∀ name ∈ settings'.root.names, isWildcard name = false)
    (inside : ∀ entry ∈ entries, StaysInside entry) :
    (∃ all : List (List String),
      Settles surroundings files (settings.expand entries) (.ok (all.map settings.root.below)) ∧
      Settles surroundings' files' (settings'.expand entries)
        (.ok (all.map settings'.root.below))) ∨
    (¬ AllSearchable settings surroundings.environment entries ∧ ∃ failure failure',
      Settles surroundings files (settings.expand entries) (.error failure) ∧
      Settles surroundings' files' (settings'.expand entries) (.error failure')) := by
  rcases allPathsOf_parallel twins plain plain' inside with
    ⟨all, settles, settles'⟩ | ⟨obscured, failure, failure', fails, fails'⟩
  · refine .inl ⟨(OrderedSet.ofList all).toList, ?_, ?_⟩
    · rw [OrderedSet.toList_ofList, ← OrderedSet.eraseDups_map settings.root.below_injective]
      exact settles_expand settles
    · rw [OrderedSet.toList_ofList, ← OrderedSet.eraseDups_map settings'.root.below_injective]
      exact settles_expand settles'
  · exact .inr ⟨obscured, failure, failure', settles_expand fails, settles_expand fails'⟩

/-! ## Two sites -/

/-- Two directories with the same file in each. -/
def sampleSites (name name' : String) : FileTree :=
  ⟨[([name], .directory), ([name, "x.php"], .file []),
    ([name'], .directory), ([name', "x.php"], .file [])]⟩

theorem get?_sampleSites {name name' : String} (differ : name ≠ name') (names : List String) :
    (sampleSites name name').get? ([name] ++ names) =
        (if names = [] then some .directory
        else if names = ["x.php"] then some (.file []) else none) ∧
      (sampleSites name name').get? ([name'] ++ names) =
        if names = [] then some .directory
        else if names = ["x.php"] then some (.file []) else none := by
  rcases names with _ | ⟨first, _ | ⟨second, rest⟩⟩
  · simp [FileTree.get?, sampleSites, differ]
  · by_cases x : first = "x.php"
    · simp [FileTree.get?, sampleSites, differ, x]
    · simp [FileTree.get?, sampleSites, differ, x, Ne.symm x]
  · simp [FileTree.get?, sampleSites, differ]

theorem copy_sampleSites {name name' : String} (differ : name ≠ name') :
    Copy (sampleSites name name') (sampleSites name name') [name] [name'] where
  same names := by
    obtain ⟨there, there'⟩ := get?_sampleSites differ names
    rw [there, there']
  down names there := by
    rw [(get?_sampleSites differ names).1] at there
    split at there
    · simp [*]
    · split at there
      · simp [*]
      · contradiction

/-- Two sites whose names are no wildcards. -/
theorem expand_parallel_sites :
    let surroundings : Surroundings := ⟨[], .empty, .notFound, false, .ordinary⟩
    let files := sampleSites "p" "q"
    let settings : Settings := { root := ⟨.slash, ["p"]⟩ }
    let settings' : Settings := { root := ⟨.slash, ["q"]⟩ }
    Twins files files [] [] settings.root settings'.root ["p"] ["q"] ∧
      (∀ name ∈ settings.root.names, isWildcard name = false) ∧
      (∀ name ∈ settings'.root.names, isWildcard name = false) ∧
      (∀ entry ∈ ["*.php"], StaysInside entry) ∧
      ∃ all : List (List String),
        Settles surroundings files (settings.expand ["*.php"])
          (.ok (all.map settings.root.below)) ∧
        Settles surroundings files (settings'.expand ["*.php"])
          (.ok (all.map settings'.root.below)) := by
  intro surroundings files settings settings'
  have sound : files.Sound := ⟨by decide, by decide⟩
  have twins : Twins files files [] [] settings.root settings'.root ["p"] ["q"] :=
    ⟨sound, sound, rfl, rfl, copy_sampleSites (by decide)⟩
  have plain : ∀ name ∈ settings.root.names, isWildcard name = false := by decide
  have plain' : ∀ name ∈ settings'.root.names, isWildcard name = false := by decide
  have inside : ∀ entry ∈ ["*.php"], StaysInside entry := by
    simpa using ⟨by decide, by decide, by decide, by decide⟩
  have searchable : AllSearchable settings surroundings.environment ["*.php"] := by
    unfold AllSearchable
    decide
  refine ⟨twins, plain, plain', inside, ?_⟩
  rcases expand_parallel settings settings' surroundings surroundings twins plain plain' inside with
    found | ⟨obscured, _⟩
  · exact found
  · exact absurd searchable obscured

/-- A site whose name is a wildcard: the name is searched for as one, and nothing is found. -/
theorem expand_differs_below_wildcard :
    let surroundings : Surroundings := ⟨[], .empty, .notFound, false, .ordinary⟩
    let files := sampleSites "p" "p[1]"
    let settings : Settings := { root := ⟨.slash, ["p"]⟩ }
    let settings' : Settings := { root := ⟨.slash, ["p[1]"]⟩ }
    Twins files files [] [] settings.root settings'.root ["p"] ["p[1]"] ∧ StaysInside "*.php" ∧
      Settles surroundings files (settings.expand ["*.php"]) (.ok [⟨.slash, ["p", "x.php"]⟩]) ∧
      Settles surroundings files (settings'.expand ["*.php"]) (.ok []) ∧
      ¬ ∃ all : List (List String),
        Settles surroundings files (settings.expand ["*.php"])
          (.ok (all.map settings.root.below)) ∧
        Settles surroundings files (settings'.expand ["*.php"])
          (.ok (all.map settings'.root.below)) := by
  intro surroundings files settings settings'
  have sound : files.Sound := ⟨by decide, by decide⟩
  have found : ((settings.expand ["*.php"]).perform surroundings { files }).1 =
      .ok [⟨.slash, ["p", "x.php"]⟩] :=
    eq_ok_of_toOption (by decide +kernel)
  have missed : ((settings'.expand ["*.php"]).perform surroundings { files }).1 = .ok [] :=
    eq_ok_of_toOption (by decide +kernel)
  have settles : Settles surroundings files (settings.expand ["*.php"])
      (.ok [⟨.slash, ["p", "x.php"]⟩]) :=
    found ▸ (observes_expand _).settles _ _
  have settles' : Settles surroundings files (settings'.expand ["*.php"]) (.ok []) :=
    missed ▸ (observes_expand _).settles _ _
  refine ⟨⟨sound, sound, rfl, rfl, copy_sampleSites (by decide)⟩,
    ⟨by decide, by decide, by decide, by decide⟩, settles, settles', ?_⟩
  rintro ⟨all, below, below'⟩
  have none_found : all.map settings'.root.below = [] := Except.ok.inj (below'.unique settles')
  have one_found := Except.ok.inj (below.unique settles)
  rw [List.map_eq_nil_iff.mp none_found] at one_found
  exact List.cons_ne_nil _ _ one_found.symm

end Settings

end OpcachePreload
