import Mathlib.Data.List.Forall2
import Mathlib.Data.List.Induction
import OpcachePreload.Proofs.Action.Find
import OpcachePreload.Proofs.Glob.Found
import OpcachePreload.Proofs.Settings.Expand

/-!
# Expansion is reproducible

Expanding entries puts together, one entry after the other, the path that an entry means or the
files that match its glob in the order of paths, and keeps the first occurrence of every path. The
order in which directories list their entries makes no difference.
-/

namespace OpcachePreload

/-! ## The order of paths -/

namespace Path

variable {p q : Path} {paths paths' : List Path}

theorem le_iff : le p q = true ↔ ¬ q.key < p.key := by
  simp [le]

/-- Paths with one root have different keys. -/
theorem eq_of_key_eq (same_root : p.root = q.root) (same : p.key = q.key) : p = q := by
  obtain ⟨root, names⟩ := p
  obtain ⟨_, names'⟩ := q
  obtain rfl := same_root
  cases root <;> simpa [key, isAbsolute] using same

theorem pairwise_mergeSort_key (paths : List Path) :
    (paths.mergeSort le).Pairwise fun p q => ¬ q.key < p.key := by
  have total : ∀ p q : Path, (le p q || le q p) = true := by
    intro p q
    rw [Bool.or_eq_true, le_iff, le_iff]
    exact List.le_total p.key q.key
  have trans : ∀ p q r : Path, le p q = true → le q r = true → le p r = true := by
    simp only [le_iff]
    exact fun _ _ _ before after => List.le_trans before after
  exact (List.pairwise_mergeSort trans total paths).imp le_iff.mp

/-- Paths with one root can be put in order in one way only. -/
theorem eq_of_perm_of_sorted {root : PathRoot} (same_root : ∀ path ∈ paths, path.root = root)
    (rearranged : paths.Perm paths') (sorted : paths.Pairwise fun p q => ¬ q.key < p.key)
    (sorted' : paths'.Pairwise fun p q => ¬ q.key < p.key) : paths = paths' := by
  refine rearranged.eq_of_pairwise (fun p q present present' before after => ?_) sorted sorted'
  have roots : p.root = q.root :=
    (same_root p present).trans (same_root q (rearranged.mem_iff.mpr present')).symm
  exact eq_of_key_eq roots (List.le_antisymm before after)

end Path

/-! ## First occurrences -/

namespace OrderedSet

variable {α : Type} [DecidableEq α]

/-- Inserting first occurrences is inserting everything. -/
theorem insertAll_eraseDups (s : OrderedSet α) (items : List α) :
    s.insertAll items.eraseDups = s.insertAll items := by
  induction items using List.reverseRecOn with
  | nil => rfl
  | append_singleton items a ih =>
      have last : (items ++ [a]).eraseDups = ((ofList items).insert a).toList := by
        rw [← toList_ofList, ofList, insertAll_append]
        rfl
      rw [last, toList_insert, toList_ofList, insertAll_append]
      split
      · rename_i present
        rw [List.mem_eraseDups] at present
        rw [ih]
        exact (insert_of_mem (mem_insertAll_of_mem present)).symm
      · rw [insertAll_append, ih]

/-- The first occurrences in two lists are those among the first occurrences in each. -/
theorem eraseDups_append_eraseDups (first second : List α) :
    (first.eraseDups ++ second.eraseDups).eraseDups = (first ++ second).eraseDups := by
  simp only [← toList_ofList (first.eraseDups ++ _), ← toList_ofList (first ++ _), ofList,
    insertAll_append, insertAll_eraseDups]

end OrderedSet

/-! ## What entries stand for -/

namespace Settings

open OpcachePreload.Action
open FileTree (Sound Answers leadsToFile exists_of_leadsToFile)
open Glob (isWildcard Searchable)

variable {settings : Settings} {surroundings : Surroundings} {files files' : FileTree}
  {path : Path} {paths paths' : List Path} {entry : String} {entries more : List String}

/-- The path that an entry means, or the files that match its glob in the order of paths. -/
inductive StandsFor (settings : Settings) (surroundings : Surroundings) (files : FileTree)
    (entry : String) : List Path → Prop where
  | literal (plain : isWildcard entry = false) :
      StandsFor settings surroundings files entry
        [resolveIn surroundings.environment settings.root entry]
  | glob {found paths : List Path} (wild : isWildcard entry = true)
      (matched : Glob.found files surroundings.directory
        (resolveIn surroundings.environment settings.root entry) = .ok found)
      (among : paths.Perm (found.filter (leadsToFile files surroundings.directory)))
      (sorted : paths.Pairwise fun p q => ¬ q.key < p.key) :
      StandsFor settings surroundings files entry paths

/-- The globs of some entries can be searched for. -/
def AllSearchable (settings : Settings) (environment : Environment) (entries : List String) :
    Prop :=
  ∀ entry ∈ entries, isWildcard entry = true →
    Searchable (resolveIn environment settings.root entry)

theorem settles_filesAmong (answers : ∀ path ∈ paths, files.Answers surroundings.directory path) :
    Settles surroundings files (filesAmong paths)
      (.ok (paths.filter (leadsToFile files surroundings.directory))) := by
  induction paths with
  | nil => exact settles_pure []
  | cons path rest ih =>
      have later := ih fun other present => answers other (List.mem_cons_of_mem _ present)
      apply (settles_isFile (answers path List.mem_cons_self)).follow
      rw [List.filter_cons]
      split
      · exact later.follow (settles_pure _)
      · exact later

theorem settles_matchesOf {glob : Path} (sound : files.Sound)
    (matched : Glob.found files surroundings.directory glob = .ok paths) :
    Settles surroundings files (matchesOf glob)
      (.ok ((paths.filter (leadsToFile files surroundings.directory)).mergeSort Path.le)) := by
  apply Settles.follow (settles_ask_of_ok matched _)
  exact (settles_filesAmong (Glob.answers_of_mem_found sound matched)).follow (settles_pure _)

theorem settles_resolve (entry : String) :
    Settles surroundings files (settings.resolve entry)
      (.ok (resolveIn surroundings.environment settings.root entry)) :=
  settles_read.follow (settles_pure _)

/-- A glob gives the files that it finds, in the order of paths. -/
theorem settles_pathsOf_of_wildcard {paths : List Path} (wild : isWildcard entry = true)
    (sound : files.Sound)
    (matched : Glob.found files surroundings.directory
      (resolveIn surroundings.environment settings.root entry) = .ok paths) :
    Settles surroundings files (settings.pathsOf entry)
      (.ok ((paths.filter (leadsToFile files surroundings.directory)).mergeSort Path.le)) := by
  apply (settles_resolve entry).follow
  rw [if_pos wild]
  apply (settles_matchesOf sound matched).follow
  split
  · exact (settles_note _).follow (settles_pure _)
  · exact settles_pure _

/-- An entry stands for something, which is what comes of it. -/
theorem exists_standsFor (settings : Settings) (sound : files.Sound)
    (searchable : isWildcard entry = true →
      Searchable (resolveIn surroundings.environment settings.root entry)) :
    ∃ paths, StandsFor settings surroundings files entry paths ∧
      Settles surroundings files (settings.pathsOf entry) (.ok paths) := by
  cases wild : isWildcard entry with
  | false =>
      refine ⟨_, .literal wild, (settles_resolve entry).follow ?_⟩
      rw [if_neg (by simp [wild])]
      exact settles_pure _
  | true =>
      obtain ⟨found, matched⟩ := Glob.exists_found_iff.mpr (searchable wild)
      exact ⟨_, .glob wild matched (List.mergeSort_perm _ _) (Path.pairwise_mergeSort_key _),
        settles_pathsOf_of_wildcard wild sound matched⟩

/-- What an entry stands for does not depend on the order of the listings. -/
theorem StandsFor.eq_of_perm (sound : files.Sound) (rearranged : files.nodes.Perm files'.nodes)
    (stands : StandsFor settings surroundings files entry paths)
    (stands' : StandsFor settings surroundings files' entry paths') : paths = paths' := by
  cases stands with
  | literal plain =>
      cases stands' with
      | literal => rfl
      | glob wild' => simp [plain] at wild'
  | @glob found _ wild matched among sorted =>
      cases stands' with
      | literal plain' => simp [wild] at plain'
      | @glob found' _ _ matched' among' sorted' =>
          have same_test : leadsToFile files' surroundings.directory =
              leadsToFile files surroundings.directory := by
            funext path
            rw [leadsToFile, FileTree.read_congr (sound.get?_of_perm rearranged), leadsToFile]
          have all := (Glob.found_perm sound rearranged matched matched').filter
            (leadsToFile files surroundings.directory)
          rw [same_test] at among'
          have same_root : ∀ path ∈ paths, path.root =
              (resolveIn surroundings.environment settings.root entry).root := by
            intro path present
            have candidate := (List.mem_filter.mp (among.mem_iff.mp present)).1
            exact Glob.root_of_mem_found matched path candidate
          exact Path.eq_of_perm_of_sorted same_root ((among.trans all).trans among'.symm) sorted
            sorted'

theorem exists_forall₂_standsFor (settings : Settings) (sound : files.Sound)
    (searchable : AllSearchable settings surroundings.environment entries) :
    ∃ lists, List.Forall₂ (StandsFor settings surroundings files) entries lists ∧
      Settles surroundings files (settings.allPathsOf entries) (.ok lists.flatten) := by
  induction entries with
  | nil => exact ⟨[], .nil, settles_pure []⟩
  | cons entry rest ih =>
      obtain ⟨paths, stands, settles⟩ := exists_standsFor settings sound
        (searchable entry List.mem_cons_self)
      obtain ⟨lists, all_stand, all_settle⟩ :=
        ih fun other later => searchable other (List.mem_cons_of_mem _ later)
      exact ⟨paths :: lists, .cons stands all_stand,
        settles.follow (all_settle.follow (settles_pure _))⟩

theorem eq_of_forall₂_standsFor {lists lists' : List (List Path)} (sound : files.Sound)
    (rearranged : files.nodes.Perm files'.nodes)
    (stand : List.Forall₂ (StandsFor settings surroundings files) entries lists)
    (stand' : List.Forall₂ (StandsFor settings surroundings files') entries lists') :
    lists = lists' := by
  induction stand generalizing lists' with
  | nil => cases stand'; rfl
  | cons first _ ih =>
      cases stand' with
      | cons first' rest' => rw [first.eq_of_perm sound rearranged first', ih rest']

/-! ## Expansion -/

theorem settles_expand {result : Except Failure (List Path)}
    (settles : Settles surroundings files (settings.allPathsOf entries) result) :
    Settles surroundings files (settings.expand entries) (result.map List.eraseDups) := by
  cases result with
  | error failure => exact settles.stop _
  | ok paths =>
      apply settles.follow
      rw [OrderedSet.toList_ofList]
      exact settles_pure _

theorem allPathsOf_append (settings : Settings) (first second : List String) :
    settings.allPathsOf (first ++ second) = do
      let paths ← settings.allPathsOf first
      return paths ++ (← settings.allPathsOf second) := by
  induction first with
  | nil => simp [allPathsOf]
  | cons entry rest ih =>
      simp only [List.cons_append, allPathsOf, ih, bind_assoc, pure_bind, List.append_assoc]

/-- Expanding entries and then more is expanding each and keeping first occurrences. -/
theorem settles_expand_append {result : Except Failure (List Path)} {paths : List Path}
    (settles : Settles surroundings files (settings.expand entries) (.ok paths))
    (more_settle : Settles surroundings files (settings.expand more) result) :
    Settles surroundings files (settings.expand (entries ++ more))
      (result.map fun others => (paths ++ others).eraseDups) := by
  have observed (entries : List String) :
      ∃ result, Settles surroundings files (settings.allPathsOf entries) result :=
    ⟨_, (observes_allPathsOf entries).settles surroundings files⟩
  obtain ⟨first, first_settles⟩ := observed entries
  obtain ⟨second, second_settles⟩ := observed more
  obtain rfl := more_settle.unique (settles_expand second_settles)
  have first_eq := settles.unique (settles_expand first_settles)
  cases first with
  | error failure => contradiction
  | ok all =>
      obtain rfl : paths = all.eraseDups := Except.ok.inj first_eq
      have both : Settles surroundings files (settings.allPathsOf (entries ++ more))
          (second.map (all ++ ·)) := by
        rw [allPathsOf_append]
        apply first_settles.follow
        cases second with
        | error failure => exact second_settles.stop _
        | ok others => exact second_settles.follow (settles_pure _)
      have settles := settles_expand both
      cases second with
      | error failure => exact settles
      | ok others =>
          change Settles _ _ _ (.ok (all ++ others).eraseDups) at settles
          rwa [← OrderedSet.eraseDups_append_eraseDups] at settles

/-! ## Reproducibility -/

theorem mem_of_standsFor {lists : List (List Path)}
    (stand : List.Forall₂ (StandsFor settings surroundings files) entries lists)
    (present : entry ∈ entries) (plain : isWildcard entry = false) :
    resolveIn surroundings.environment settings.root entry ∈ lists.flatten := by
  induction stand with
  | nil => contradiction
  | @cons first paths rest lists stands _ ih =>
      rw [List.flatten_cons, List.mem_append]
      rcases List.mem_cons.mp present with rfl | later
      · cases stands with
        | literal => exact .inl List.mem_cons_self
        | glob wild => simp [plain] at wild
      · exact .inr (ih later)

/-- What entries stand for is what an entry without wildcards means, or a file. -/
theorem literal_or_file_of_standsFor {lists : List (List Path)}
    (stand : List.Forall₂ (StandsFor settings surroundings files) entries lists)
    (present : path ∈ lists.flatten) :
    (∃ entry ∈ entries, isWildcard entry = false ∧
      path = resolveIn surroundings.environment settings.root entry) ∨
      ∃ bytes, files.read surroundings.directory path = .ok bytes := by
  induction stand with
  | nil => contradiction
  | @cons first paths rest lists stands _ ih =>
      rw [List.flatten_cons, List.mem_append] at present
      rcases present with here | later
      · cases stands with
        | literal plain =>
            exact .inl ⟨first, List.mem_cons_self, plain, List.mem_singleton.mp here⟩
        | glob wild matched among sorted =>
            have leads := (List.mem_filter.mp (among.mem_iff.mp here)).2
            exact .inr (exists_of_leadsToFile leads)
      · rcases ih later with ⟨entry, listed, literal⟩ | leads
        · exact .inl ⟨entry, List.mem_cons_of_mem _ listed, literal⟩
        · exact .inr leads

end Settings

end OpcachePreload
