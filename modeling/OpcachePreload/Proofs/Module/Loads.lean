import OpcachePreload.Proofs.Module.Memory
import OpcachePreload.Proofs.Module.Name
import OpcachePreload.Proofs.Path.Text
import OpcachePreload.Replay

/-!
# Loading many files

When files that are there and can be executed to their end are loaded one after the other, the first
of each name is executed, and every file is taken for the module of its name. So each file is
executed and taken for its own module if no two of them clash.
-/

namespace OpcachePreload.Module

open OpcachePreload.Action

variable {interpreter : Interpreter} {surroundings : Surroundings} {start session : Session}
  {state : State} {file : String} {path : Path} {paths done : List Path}

/-! ## First files -/

/-- The first file of each name. -/
def firstsOfNames (paths : List Path) : List Path :=
  paths.foldl (fun kept path => if name path ∈ kept.map name then kept else kept ++ [path]) []

theorem firstsOfNames_append_singleton (paths : List Path) (path : Path) :
    firstsOfNames (paths ++ [path]) =
      if name path ∈ (firstsOfNames paths).map name then firstsOfNames paths
      else firstsOfNames paths ++ [path] := by
  rw [firstsOfNames, List.foldl_append]
  rfl

/-- Looking for a name among the first files finds what it finds among all. -/
theorem find?_firstsOfNames (paths : List Path) (key : String) :
    (firstsOfNames paths).find? (name · = key) = paths.find? (name · = key) := by
  induction paths using List.reverseRecOn with
  | nil => rfl
  | append_singleton paths path ih =>
      rw [firstsOfNames_append_singleton, List.find?_append, ← ih]
      split
      · rename_i known
        by_cases here : name path = key
        · have found : ((firstsOfNames paths).find? (name · = key)).isSome = true := by
            simpa [List.find?_isSome, here] using known
          obtain ⟨first, found⟩ := Option.isSome_iff_exists.mp found
          rw [found, Option.some_or]
        · simp [here]
      · rw [List.find?_append]

theorem mem_map_name_firstsOfNames {key : String} :
    key ∈ (firstsOfNames paths).map name ↔ key ∈ paths.map name := by
  have found (list : List Path) :
      key ∈ list.map name ↔ (list.find? (name · = key)).isSome = true := by
    simp [List.find?_isSome]
  rw [found, found, find?_firstsOfNames]

/-- Files whose names differ are all first. -/
theorem firstsOfNames_eq_self (distinct : (paths.map name).Nodup) :
    firstsOfNames paths = paths := by
  induction paths using List.reverseRecOn with
  | nil => rfl
  | append_singleton paths path ih =>
      rw [List.map_append, List.nodup_append] at distinct
      have new : name path ∉ (firstsOfNames paths).map name := by
        rw [mem_map_name_firstsOfNames]
        exact fun known => distinct.2.2 _ known _ (by simp) rfl
      rw [firstsOfNames_append_singleton, if_neg new, ih distinct.1]

/-! ## Resolved paths have proper names -/

theorem proper_of_resolution
    (proper : ∀ part ∈ surroundings.directory, Path.isName part = true)
    (leads : resolution surroundings (.ofString file) = .ok path) : path.Proper := by
  unfold resolution at leads
  split at leads
  · contradiction
  · obtain rfl := Except.ok.inj leads
    exact surroundings.system.resolver.proper _
      (Path.Proper.join proper (Path.proper_ofString file))

/-! ## Loading one file after others -/

/-- A file that is there and is executed to its end, which leaves the files as they are. -/
structure Interpreter.Completes (interpreter : Interpreter) (surroundings : Surroundings)
    (files : FileTree) (path : Path) : Prop where
  there : files.leadsToFile surroundings.directory path = true
  accepted : interpreter.accepts path = true
  runs : ∀ session : Session, session.files = files → ∃ after,
    (interpreter.run path).perform surroundings session = (.ok (), after) ∧ after.files = files

/-- The state and the session after some paths were loaded: each is known by the name of its module,
and the first file of each name was executed. -/
structure AfterLoading (start : Session) (paths : List Path) (state : State) (session : Session) :
    Prop where
  files : session.files = start.files
  proper : ∀ path ∈ paths, path.Proper
  loaded : ∀ path ∈ paths, state.loaded.get? (toString path) = some (name path)
  known : ∀ key ∈ state.loaded.keys, ∃ path ∈ paths, toString path = key
  modules : session.modules.toList =
    start.modules.toList ++ (firstsOfNames paths).map fun path => (name path, path)
  executions : session.executions =
    start.executions ++ (firstsOfNames paths).map fun path => ⟨path, true⟩

theorem afterLoading_nil (start : Session) : AfterLoading start [] {} start where
  files := rfl
  proper _ present := absurd present List.not_mem_nil
  loaded _ present := absurd present List.not_mem_nil
  known _ present := absurd present List.not_mem_nil
  modules := (List.append_nil _).symm
  executions := (List.append_nil _).symm

namespace AfterLoading

/-- A module is there if it was, or if a file of its name was loaded. -/
theorem mem_keys_iff (holds : AfterLoading start done state session) {key : String} :
    key ∈ session.modules.keys ↔ key ∈ start.modules.keys ∨ key ∈ done.map name := by
  have keys : session.modules.keys = start.modules.keys ++ (firstsOfNames done).map name := by
    rw [OrderedMap.keys, holds.modules, List.map_append, List.map_map]
    rfl
  rw [keys, List.mem_append, mem_map_name_firstsOfNames]

/-- The module of a new name is that of the first file of that name. -/
theorem get?_modules (holds : AfterLoading start done state session) {key : String}
    (new : key ∉ start.modules.keys) : session.modules.get? key = done.find? (name · = key) := by
  have absent : start.modules.toList.find? (·.1 = key) = none := by
    rw [List.find?_eq_none]
    intro entry present same
    exact new (of_decide_eq_true same ▸ List.mem_map_of_mem present)
  rw [OrderedMap.get?, holds.modules, List.find?_append, absent, Option.none_or, List.find?_map,
    Option.map_map, ← find?_firstsOfNames]
  exact Option.map_id_apply

/-- A path that was loaded is loaded again. -/
theorem again (holds : AfterLoading start done state session) (proper : path.Proper)
    (loaded : toString path ∈ state.loaded.keys) :
    AfterLoading start (done ++ [path]) state session := by
  obtain ⟨other, present, same⟩ := holds.known _ loaded
  obtain rfl := Path.toString_injective (holds.proper other present) proper same
  have first : name other ∈ (firstsOfNames done).map name :=
    mem_map_name_firstsOfNames.mpr (List.mem_map_of_mem present)
  have firsts := firstsOfNames_append_singleton done other
  rw [if_pos first] at firsts
  have all (path : Path) (listed : path ∈ done ++ [other]) : path ∈ done := by
    rcases List.mem_append.mp listed with before | here
    · exact before
    · exact List.mem_singleton.mp here ▸ present
  exact {
    files := holds.files
    proper := fun path listed => holds.proper path (all path listed)
    loaded := fun path listed => holds.loaded path (all path listed)
    known := fun key listed => by
      obtain ⟨path, before, same⟩ := holds.known key listed
      exact ⟨path, List.mem_append_left _ before, same⟩
    modules := by rw [firsts, holds.modules]
    executions := by rw [firsts, holds.executions] }

/-- What is known once a new path is loaded, whichever module it is taken for. -/
theorem loading (holds : AfterLoading start done state session) (proper : path.Proper)
    {after : Session} (files : after.files = start.files)
    (modules : after.modules.toList = start.modules.toList ++
      (firstsOfNames (done ++ [path])).map fun path => (name path, path))
    (executions : after.executions = start.executions ++
      (firstsOfNames (done ++ [path])).map fun path => ⟨path, true⟩) :
    AfterLoading start (done ++ [path]) (state.loading path) after := by
  have all_proper : ∀ other ∈ done ++ [path], other.Proper :=
    List.forall_mem_append.mpr ⟨holds.proper, List.forall_mem_singleton.mpr proper⟩
  refine ⟨files, all_proper, fun other listed => ?_, fun key listed => ?_, modules, executions⟩
  · rw [get?_loading]
    split
    · rename_i same
      rw [Path.toString_injective proper (all_proper other listed) same]
    · rename_i differs
      rcases List.mem_append.mp listed with before | here
      · exact holds.loaded other before
      · exact absurd (congrArg toString (List.mem_singleton.mp here).symm) differs
  · rcases mem_keys_loading.mp listed with before | here
    · obtain ⟨other, present, same⟩ := holds.known key before
      exact ⟨other, List.mem_append_left _ present, same⟩
    · exact ⟨path, List.mem_append_right _ (List.mem_singleton.mpr rfl), here.symm⟩

end AfterLoading

/-- A call to load a file that can be executed to its end. -/
theorem exists_afterLoading_load (contained : interpreter.Contained)
    (holds : AfterLoading start done state session)
    (leads : resolution surroundings (.ofString file) = .ok path) (proper : path.Proper)
    (completes : interpreter.Completes surroundings start.files path)
    (new : name path ∉ start.modules.keys) (required : Bool) :
    ∃ state' after, (interpreter.host.load file required).perform surroundings state session =
      ((.ok (), state'), after) ∧ AfterLoading start (done ++ [path]) state' after := by
  by_cases loaded : toString path ∈ state.loaded.keys
  · exact ⟨state, session, perform_load_of_mem leads loaded, holds.again proper loaded⟩
  have there : session.files.leadsToFile surroundings.directory path = true :=
    holds.files ▸ completes.there
  have firsts := firstsOfNames_append_singleton done path
  rw [perform_load_of_new leads loaded]
  simp only [Interpreter.loadResolved, perform_bind, perform_isFile_of_leads there, if_true]
  by_cases named : name path ∈ session.modules.keys
  · have first : name path ∈ (firstsOfNames done).map name :=
      mem_map_name_firstsOfNames.mpr ((holds.mem_keys_iff.mp named).resolve_left new)
    rw [if_pos first] at firsts
    simp only [perform_execute_of_mem named, perform_pure]
    exact ⟨_, _, rfl, holds.loading proper holds.files (by rw [firsts, holds.modules])
      (by rw [firsts, holds.executions])⟩
  · have first : name path ∉ (firstsOfNames done).map name := fun known =>
      named (holds.mem_keys_iff.mpr (.inr (mem_map_name_firstsOfNames.mp known)))
    rw [if_neg first] at firsts
    obtain ⟨after, runs, kept⟩ := completes.runs (session.entering path) holds.files
    obtain ⟨modules_eq, executions_eq⟩ := contained.of_run runs
    simp only [perform_execute_of_new named completes.accepted, perform_enter, runs, perform_pure]
    refine ⟨_, _, rfl, holds.loading proper kept ?_ ?_⟩
    · change after.modules.toList = _
      rw [modules_eq, OrderedMap.toList_insert_of_not_mem _ named, holds.modules, firsts]
      simp
    · change after.executions ++ [⟨path, true⟩] = _
      rw [executions_eq, holds.executions, firsts]
      simp

/-- Calls to load files that can be executed to their end. -/
theorem exists_afterLoading_takeAll (contained : interpreter.Contained)
    (proper : ∀ part ∈ surroundings.directory, Path.isName part = true) {files : List String}
    (leads : List.Forall₂ (fun file path =>
      resolution surroundings (.ofString file) = .ok path) files paths)
    (completes : ∀ path ∈ paths, interpreter.Completes surroundings start.files path)
    (new : ∀ path ∈ paths, name path ∉ start.modules.keys) (required : Bool)
    (holds : AfterLoading start done state session) :
    ∃ state' after, (Replay.takeAll interpreter.host (files.map (Step.load · required))).perform
      surroundings state session = ((.ok (), state'), after) ∧
        AfterLoading start (done ++ paths) state' after := by
  induction leads generalizing done state session with
  | nil => exact ⟨state, session, rfl, by rwa [List.append_nil]⟩
  | @cons file path files paths first rest ih =>
      obtain ⟨between, middle, performed, held⟩ := exists_afterLoading_load contained holds first
        (proper_of_resolution proper first) (completes path (by simp)) (new path (by simp)) required
      obtain ⟨state', after, then_performed, then_held⟩ := ih
        (fun path later => completes path (List.mem_cons_of_mem _ later))
        (fun path later => new path (List.mem_cons_of_mem _ later)) held
      refine ⟨state', after, ?_, by rwa [List.append_assoc] at then_held⟩
      simp only [List.map_cons, Replay.takeAll, HostAction.perform_bind, Host.take, performed,
        then_performed]

/-! ## Clashes -/

/-- A source that does nothing is executed to its end. -/
theorem completes_sources {files : FileTree} {bytes : List UInt8}
    (reads : files.read surroundings.directory path = .ok bytes)
    (accepted : isExecutable path = true) (nothing : effect bytes = .nothing) :
    sources.Completes surroundings files path where
  there := by rw [FileTree.leadsToFile, reads]; rfl
  accepted := accepted
  runs session held := by
    refine ⟨session, ?_, held⟩
    simp only [sources, run, readBytes, perform_bind, perform_ask, held, reads,
      mapError_ok, nothing,
      perform_pure]

/-- Which files are executed, and which modules they are taken for. Two files have one module name
exactly if they have one stem and the digests of their paths begin with one word. In a process that
has no modules of these names, loading files that are there and can be executed to their end ends
well. The first file of each name is executed, and every file is taken for the module of the first
of its name. If no two of the files clash, each is executed and taken for its own module. -/
theorem executes_first_of_name (contained : interpreter.Contained)
    (proper : ∀ part ∈ surroundings.directory, Path.isName part = true) {files : List String}
    (leads : List.Forall₂ (fun file path =>
      resolution surroundings (.ofString file) = .ok path) files paths)
    (completes : ∀ path ∈ paths, interpreter.Completes surroundings session.files path)
    (new : ∀ path ∈ paths, name path ∉ session.modules.keys) (required : Bool) :
    (∀ path other : Path,
      name path = name other ↔ path.stem = other.stem ∧ mark path = mark other) ∧
    ∃ state after, (Replay.takeAll interpreter.host (files.map (Step.load · required))).perform
        surroundings {} session = ((.ok (), state), after) ∧
      after.executions = session.executions ++ (firstsOfNames paths).map (⟨·, true⟩) ∧
      (∀ path ∈ paths, state.loaded.get? (toString path) = some (name path) ∧
        after.modules.get? (name path) = paths.find? (name · = name path)) ∧
      (paths.Nodup → (∀ path ∈ paths, ∀ other ∈ paths,
          path.stem = other.stem → mark path = mark other → path = other) →
        after.executions = session.executions ++ paths.map (⟨·, true⟩) ∧
          ∀ path ∈ paths, after.modules.get? (name path) = some path) := by
  refine ⟨fun path other => name_eq_iff, ?_⟩
  obtain ⟨state, after, performed, holds⟩ := exists_afterLoading_takeAll contained proper leads
    completes new required (afterLoading_nil session)
  rw [List.nil_append] at holds
  refine ⟨state, after, performed, holds.executions,
    fun path listed => ⟨holds.loaded path listed, holds.get?_modules (new path listed)⟩,
    fun nodup apart => ?_⟩
  have injective : ∀ path ∈ paths, ∀ other ∈ paths, name path = name other → path = other := by
    intro path listed other other_listed same
    obtain ⟨stem_same, mark_same⟩ := name_eq_iff.mp same
    exact apart path listed other other_listed stem_same mark_same
  constructor
  · rw [holds.executions, firstsOfNames_eq_self (nodup.map_on injective)]
  · intro path listed
    rw [holds.get?_modules (new path listed)]
    have found : (paths.find? (name · = name path)).isSome = true := by
      simpa [List.find?_isSome] using ⟨path, listed, rfl⟩
    obtain ⟨first, first_eq⟩ := Option.isSome_iff_exists.mp found
    have same : name first = name path := by simpa using List.find?_some first_eq
    rw [first_eq, injective first (List.mem_of_find?_eq_some first_eq) path listed same]

/-- A tree with empty sources, one of them in a directory of its own. -/
def sampleFiles (directory file directory' file' : String) : FileTree :=
  ⟨[(["www"], .directory), (["www", directory], .directory), (["www", directory'], .directory),
    (["www", directory, file], .file []), (["www", directory', file'], .file [])]⟩

/-- Files whose stems differ are both executed. -/
theorem executes_first_of_name_stems :
    let surroundings : Surroundings := ⟨[], .empty, .notFound, false, .ordinary⟩
    let paths : List Path := [⟨.slash, ["www", "a", "b.py"]⟩, ⟨.slash, ["www", "c", "d.py"]⟩]
    let session : Session := { files := sampleFiles "a" "b.py" "c" "d.py" }
    sources.Contained ∧
    List.Forall₂ (fun file path => resolution surroundings (.ofString file) = .ok path)
      ["/www/a/b.py", "www/x/../c/d.py"] paths ∧
    (∀ path ∈ paths, sources.Completes surroundings session.files path) ∧
    ∃ state after, (Replay.takeAll sources.host
        [.load "/www/a/b.py" true, .load "www/x/../c/d.py" true]).perform surroundings {} session =
          ((.ok (), state), after) ∧
      after.executions = paths.map (⟨·, true⟩) ∧
      ∀ path ∈ paths, after.modules.get? (name path) = some path := by
  intro surroundings paths session
  have leads : List.Forall₂ (fun file path => resolution surroundings (.ofString file) = .ok path)
      ["/www/a/b.py", "www/x/../c/d.py"] paths :=
    .cons rfl (.cons rfl .nil)
  have completes : ∀ path ∈ paths, sources.Completes surroundings session.files path := by
    intro path listed
    simp only [paths, List.mem_cons, List.not_mem_nil, or_false] at listed
    rcases listed with rfl | rfl <;> exact completes_sources (by rfl) (by decide) (by decide)
  obtain ⟨_, state, after, performed, _, _, apart⟩ := executes_first_of_name contained_sources
    (by decide) leads completes (by simp [session, OrderedMap.empty, OrderedMap.keys]) true
  have stems : ∀ path ∈ paths, ∀ other ∈ paths, path.stem = other.stem → path = other := by decide
  obtain ⟨executed, bound⟩ := apart (by decide) fun path listed other other_listed same _ =>
    stems path listed other other_listed same
  exact ⟨contained_sources, leads, completes, state, after, performed, executed, bound⟩

/-- Of two files that clash, the second is not executed and taken for the module of the first. -/
theorem skips_clashing :
    let first := clashing "1992"
    let second := clashing "32377"
    let session : Session := { files := sampleFiles "1992" "preload.py" "32377" "preload.py" }
    first ≠ second ∧ name first = name second ∧
    ∃ state after, (Replay.takeAll sources.host
        [.load "/www/1992/preload.py" true, .load "/www/32377/preload.py" true]).perform
          ⟨[], .empty, .notFound, false, .ordinary⟩ {} session = ((.ok (), state), after) ∧
      after.executions = [⟨first, true⟩] ∧
      state.loaded.get? "/www/32377/preload.py" = some (name second) ∧
      after.modules.get? (name second) = some first := by
  intro first second session
  have leads : List.Forall₂
      (fun file path => resolution ⟨[], .empty, .notFound, false, .ordinary⟩ (.ofString file) =
        .ok path) ["/www/1992/preload.py", "/www/32377/preload.py"] [first, second] :=
    .cons rfl (.cons rfl .nil)
  have completes : ∀ path ∈ [first, second],
      sources.Completes ⟨[], .empty, .notFound, false, .ordinary⟩ session.files path := by
    intro path listed
    simp only [List.mem_cons, List.not_mem_nil, or_false] at listed
    rcases listed with rfl | rfl <;> exact completes_sources (by rfl) (by decide) (by decide)
  obtain ⟨state, after, performed, holds⟩ :=
    exists_afterLoading_takeAll contained_sources (by decide) leads completes
      (by simp [session, OrderedMap.empty, OrderedMap.keys]) true (afterLoading_nil session)
  rw [List.nil_append] at holds
  have same : name first = name second := name_clashing
  refine ⟨by decide, same, state, after, performed, ?_, holds.loaded second (by simp), ?_⟩
  · have firsts : firstsOfNames [first, second] = [first] := by simp [firstsOfNames, same]
    rw [holds.executions, firsts]
    rfl
  · rw [holds.get?_modules (by simp [session, OrderedMap.empty, OrderedMap.keys])]
    simp [same]

end OpcachePreload.Module
