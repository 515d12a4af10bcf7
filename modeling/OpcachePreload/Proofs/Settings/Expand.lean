import OpcachePreload.Proofs.Action.Frame
import OpcachePreload.Proofs.Glob.Found
import OpcachePreload.Proofs.Path.Text
import OpcachePreload.Settings.Expand

/-!
# What entries stand for

Expanding entries only looks at the files, and the paths that come of it have names that can be
names, so no two of them have the same text.
-/

namespace OpcachePreload

open OpcachePreload.Path (Proper isName)

/-! ## Globs -/

namespace Glob

variable {tree : FileTree} {directory : Location} {path glob : Path}

theorem proper_append (proper : path.Proper) {names : List String}
    (named : ∀ name ∈ names, isName name = true) :
    ({ path with names := path.names ++ names } : Path).Proper := by
  intro name present
  rcases List.mem_append.mp present with first | second
  · exact proper name first
  · exact named name second

theorem isName_of_mem_listed {more : Bool} {name : String}
    (present : name ∈ listed tree directory path more) : isName name = true := by
  unfold listed at present
  split at present
  · contradiction
  · exact (List.mem_filter.mp (List.mem_filter.mp present).1).2

theorem proper_of_mem_everything (proper : path.Proper) {more : Bool} {found : Path}
    (present : found ∈ everything tree directory path more) : found.Proper := by
  unfold everything at present
  split at present
  · contradiction
  · rcases List.mem_cons.mp present with rfl | below
    · exact proper
    · obtain ⟨names, kept, rfl⟩ := List.mem_map.mp below
      have named := (List.mem_filter.mp (List.mem_filter.mp kept).1).2
      exact proper_append proper (List.all_eq_true.mp named)

/-- A name of a glob makes proper paths of a proper one. -/
theorem proper_of_mem_advance (proper : path.Proper) {name : String} (named : isName name = true)
    {more : Bool} {found : Path} (present : found ∈ advance tree directory name more path) :
    found.Proper := by
  unfold advance at present
  split at present
  · exact proper_of_mem_everything proper present
  · split at present
    · obtain ⟨last, kept, rfl⟩ := List.mem_map.mp present
      have last_named := isName_of_mem_listed (List.mem_filter.mp kept).1
      exact proper_append proper (by simpa using last_named)
    · dsimp only at present
      split at present
      · obtain rfl := List.mem_singleton.mp present
        exact proper_append proper (by simpa using named)
      · contradiction

theorem proper_of_mem_advanceAll {paths : List Path} {names : List String}
    (proper : ∀ path ∈ paths, path.Proper) (named : ∀ name ∈ names, isName name = true) :
    ∀ found ∈ advanceAll tree directory paths names, found.Proper := by
  apply forall_mem_advanceAll proper
  intro name listed more path found path_proper made
  exact proper_of_mem_advance path_proper (named name listed) made

/-- The paths that match a proper glob are proper. -/
theorem proper_of_mem_found (proper : glob.Proper) {paths : List Path}
    (matched : Glob.found tree directory glob = .ok paths) : ∀ path ∈ paths, path.Proper := by
  intro path present
  unfold Glob.found at matched
  dsimp only at matched
  split at matched
  · obtain rfl := Except.ok.inj matched
    split at present
    · obtain rfl := List.mem_singleton.mp present
      exact proper
    · contradiction
  · split at matched
    · contradiction
    · obtain rfl := Except.ok.inj matched
      refine proper_of_mem_advanceAll ?_ ?_ path present
      · intro start only
        obtain rfl := List.mem_singleton.mp only
        exact fun name early => proper name ((List.takeWhile_prefix _).subset early)
      · exact fun name late => proper name ((List.drop_suffix _ _).subset late)

end Glob

/-! ## Entries -/

namespace Settings

open OpcachePreload.Action

theorem observes_resolve (settings : Settings) (text : String) :
    Observes (settings.resolve text) :=
  observes_read.bind fun _ => observes_pure _

variable {settings : Settings}

theorem observes_filesAmong (paths : List Path) : Observes (filesAmong paths) := by
  induction paths with
  | nil => exact observes_pure []
  | cons path rest ih =>
      apply (observes_isFile path).bind
      intro yes
      cases yes with
      | true => exact ih.bind fun _ => observes_pure _
      | false => exact ih

theorem observes_matchesOf (glob : Path) : Observes (matchesOf glob) :=
  (observes_ask _ _).bind fun paths => (observes_filesAmong paths).bind fun _ => observes_pure _

theorem observes_pathsOf (entry : String) : Observes (settings.pathsOf entry) := by
  apply (settings.observes_resolve entry).bind
  intro path
  split
  · apply (observes_matchesOf path).bind
    intro paths
    cases paths with
    | nil => exact (observes_note _).bind fun _ => observes_pure _
    | cons first rest => exact observes_pure _
  · exact observes_pure _

theorem observes_allPathsOf (entries : List String) : Observes (settings.allPathsOf entries) := by
  induction entries with
  | nil => exact observes_pure []
  | cons entry rest ih =>
      exact (observes_pathsOf entry).bind fun _ => ih.bind fun _ => observes_pure _

/-- Expanding entries only looks at the files. -/
theorem observes_expand (entries : List String) : Observes (settings.expand entries) :=
  (observes_allPathsOf entries).bind fun _ => observes_pure _

/-! ## Proper paths -/

theorem gives_resolve (root_proper : settings.root.Proper) (text : String) :
    Gives (settings.resolve text) Proper := by
  constructor
  rintro surroundings session _ ⟨⟩
  exact root_proper.join (Path.proper_ofString _)

theorem gives_filesAmong (paths : List Path) :
    Gives (filesAmong paths) fun found => ∀ path ∈ found, path ∈ paths := by
  induction paths with
  | nil => exact gives_pure (by simp)
  | cons path rest ih =>
      apply (gives_anything _).bind
      intro yes _
      cases yes with
      | true =>
          apply ih.bind
          intro found among
          apply gives_pure
          intro other present
          rcases List.mem_cons.mp present with rfl | later
          · exact List.mem_cons_self
          · exact List.mem_cons_of_mem _ (among other later)
      | false =>
          constructor
          intro surroundings session found given other present
          exact List.mem_cons_of_mem _ (ih.holds surroundings session found given other present)

theorem gives_matchesOf {glob : Path} (proper : glob.Proper) :
    Gives (matchesOf glob) fun found => ∀ path ∈ found, path.Proper := by
  have candidates : Gives (ask (toString glob) fun tree directory => Glob.found tree directory glob)
      fun paths => ∀ path ∈ paths, path.Proper := by
    constructor
    intro surroundings session paths given
    rw [perform_ask] at given
    cases matched : Glob.found session.files surroundings.directory glob with
    | error fault =>
        rw [matched] at given
        contradiction
    | ok found =>
        rw [matched] at given
        obtain rfl := Except.ok.inj given
        exact Glob.proper_of_mem_found proper matched
  apply candidates.bind
  intro paths paths_proper
  apply (gives_filesAmong paths).bind
  intro found among
  apply gives_pure
  intro path present
  exact paths_proper path (among path (List.mem_mergeSort.mp present))

theorem gives_pathsOf (root_proper : settings.root.Proper) (entry : String) :
    Gives (settings.pathsOf entry) fun found => ∀ path ∈ found, path.Proper := by
  apply (gives_resolve root_proper entry).bind
  intro path proper
  split
  · apply (gives_matchesOf proper).bind
    intro paths paths_proper
    cases paths with
    | nil => exact (gives_anything _).bind fun _ _ => gives_pure paths_proper
    | cons first rest => exact gives_pure paths_proper
  · exact gives_pure (by simpa using proper)

theorem gives_allPathsOf (root_proper : settings.root.Proper) (entries : List String) :
    Gives (settings.allPathsOf entries) fun found => ∀ path ∈ found, path.Proper := by
  induction entries with
  | nil => exact gives_pure (by simp)
  | cons entry rest ih =>
      apply (gives_pathsOf root_proper entry).bind
      intro paths paths_proper
      apply ih.bind
      intro more more_proper
      apply gives_pure
      intro path present
      rcases List.mem_append.mp present with first | second
      · exact paths_proper path first
      · exact more_proper path second

/-- What entries stand for are proper paths, each of them once. -/
theorem gives_expand (root_proper : settings.root.Proper) (entries : List String) :
    Gives (settings.expand entries) fun found => (∀ path ∈ found, path.Proper) ∧ found.Nodup := by
  apply (gives_allPathsOf root_proper entries).bind
  intro paths paths_proper
  apply gives_pure
  constructor
  · intro path present
    rw [OrderedSet.toList_ofList, List.mem_eraseDups] at present
    exact paths_proper path present
  · exact (OrderedSet.ofList paths).nodup

/-- So they have different texts. -/
theorem nodup_map_toString {paths : List Path} (proper : ∀ path ∈ paths, path.Proper)
    (distinct : paths.Nodup) : (paths.map toString).Nodup := by
  rw [List.Nodup, List.pairwise_map]
  apply distinct.imp_of_mem
  intro first second first_present second_present differ same
  exact differ (Path.toString_injective (proper first first_present) (proper second second_present)
    same)

end Settings

end OpcachePreload
