import OpcachePreload.Proofs.Action.Directory
import OpcachePreload.Proofs.Glob.Found
import OpcachePreload.Proofs.Settings.Load

/-!
# Building a project from another working directory

With an absolute root every path of a project is absolute, so its manifest is built and written the
same from every working directory.
-/

namespace OpcachePreload

open OpcachePreload.Action

variable {surroundings : Surroundings} {directory : Location} {fits : FileTree → Prop} {path : Path}

/-! ## Globs -/

namespace Glob

variable {glob : Path} {paths : List Path}

theorem isAbsolute_of_root {path other : Path} (same : path.root = other.root)
    (absolute : other.isAbsolute = true) : path.isAbsolute = true := by
  rw [Path.isAbsolute, same]
  exact absolute

theorem leadsSomewhere_of_isAbsolute (absolute : path.isAbsolute = true) (tree : FileTree)
    (directory other : Location) :
    leadsSomewhere tree directory path = leadsSomewhere tree other path := by
  rw [leadsSomewhere, FileTree.lookup_of_isAbsolute absolute tree directory other, leadsSomewhere]

theorem advance_of_isAbsolute (absolute : path.isAbsolute = true) (tree : FileTree)
    (directory other : Location) (name : String) (more : Bool) :
    advance tree directory name more path = advance tree other name more path := by
  have there : directoryAt? tree directory path = directoryAt? tree other path := by
    rw [directoryAt?, FileTree.locate_of_isAbsolute absolute tree directory other, directoryAt?]
  have looked : leadsSomewhere tree directory { path with names := path.names ++ [name] } =
      leadsSomewhere tree other { path with names := path.names ++ [name] } := by
    apply leadsSomewhere_of_isAbsolute
    exact isAbsolute_of_root rfl absolute
  simp only [advance, everything, listed, there, looked]

theorem advanceAll_of_isAbsolute (absolute : ∀ path ∈ paths, path.isAbsolute = true)
    (tree : FileTree) (directory other : Location) (names : List String) :
    advanceAll tree directory paths names = advanceAll tree other paths names := by
  induction names generalizing paths with
  | nil => rfl
  | cons name rest ih =>
      have step : paths.flatMap (advance tree directory name !rest.isEmpty) =
          paths.flatMap (advance tree other name !rest.isEmpty) := by
        rw [List.flatMap_def, List.flatMap_def]
        congr 1
        exact List.map_congr_left fun path present =>
          advance_of_isAbsolute (absolute path present) tree directory other name _
      rw [advanceAll, advanceAll, step]
      apply ih
      intro path present
      obtain ⟨origin, earlier, made⟩ := List.mem_flatMap.mp present
      exact isAbsolute_of_root (root_of_mem_advance made) (absolute origin earlier)

theorem found_of_isAbsolute (absolute : glob.isAbsolute = true) (tree : FileTree)
    (directory other : Location) : found tree directory glob = found tree other glob := by
  by_cases wild : (front glob).length < glob.names.length
  · have started : ∀ start ∈ [{ glob with names := front glob }], start.isAbsolute = true := by
      rintro _ only
      obtain rfl := List.mem_singleton.mp only
      exact isAbsolute_of_root rfl absolute
    rw [found_of_wildcard wild, found_of_wildcard wild,
      advanceAll_of_isAbsolute started tree directory other]
  · rw [found_of_literal wild, found_of_literal wild,
      leadsSomewhere_of_isAbsolute absolute tree directory other]

end Glob

/-! ## Data files and class maps -/

theorem DataFile.sameFrom_load (absolute : path.isAbsolute = true) :
    SameFrom surroundings directory fits (fun _ => True) (load path) := by
  refine (sameFrom_find absolute).then fun found _ => ?_
  rcases found with _ | _ | _
  · exact (sameFrom_absolute absolute).then fun _ _ => sameFrom_fail _
  · exact (sameFrom_absolute absolute).then fun _ _ => sameFrom_fail _
  · dsimp only
    split
    · exact sameFrom_fail _
    · exact (sameFrom_readText absolute).then fun _ _ => sameFrom_ofExcept fun _ _ => trivial

namespace ClassMap

theorem sameFrom_firstFile {paths : List Path} (absolute : ∀ path ∈ paths, path.isAbsolute = true) :
    SameFrom surroundings directory fits
      (fun found => ∀ path, found = some path → path.isAbsolute = true) (firstFile paths) := by
  induction paths generalizing fits with
  | nil => exact sameFrom_pure (by simp)
  | cons path rest ih =>
      have here := absolute path List.mem_cons_self
      refine (sameFrom_isFile here).then fun found _ => ?_
      cases found with
      | true => exact sameFrom_pure (by simpa using here)
      | false => exact ih fun other later => absolute other (List.mem_cons_of_mem _ later)

theorem sameFrom_locate (absolute : path.isAbsolute = true) :
    SameFrom surroundings directory fits (·.isAbsolute = true) (locate path) := by
  refine (sameFrom_isDirectory absolute).then fun isDirectory _ => ?_
  cases isDirectory with
  | true =>
      have below : ∀ candidate ∈ candidates path, candidate.isAbsolute = true := by
        intro candidate listed
        simp only [candidates, List.mem_cons, List.not_mem_nil, or_false] at listed
        rcases listed with rfl | rfl
        · exact Path.isAbsolute_join absolute _
        · exact Path.isAbsolute_join (Path.isAbsolute_join absolute _) _
      refine (sameFrom_firstFile below).then fun found found_absolute => ?_
      cases found with
      | none => exact sameFrom_fail _
      | some file => exact sameFrom_pure (found_absolute file rfl)
  | false => exact sameFrom_pure absolute

theorem sameFrom_loadFile (absolute : path.isAbsolute = true) :
    SameFrom surroundings directory fits (fun _ => True) (loadFile path) := by
  unfold loadFile
  split
  · exact ((DataFile.sameFrom_load absolute).tryCatch fun _ => sameFrom_fail _).then fun _ _ =>
      sameFrom_ofExcept fun _ _ => trivial
  split
  · refine (sameFrom_readText absolute).then fun _ _ =>
      (sameFrom_absolute absolute).then fun _ _ => ?_
    exact (sameFrom_ofExcept fun _ _ => trivial).map fun _ (_ : True) => trivial
  · exact sameFrom_fail _

theorem sameFrom_load (absolute : path.isAbsolute = true) :
    SameFrom surroundings directory fits (fun _ => True) (load path) := by
  refine (sameFrom_locate absolute).then fun file file_absolute =>
    (sameFrom_isFile file_absolute).then fun found _ => ?_
  have rest : SameFromAnywhere surroundings directory (fun _ => True) (do
      let map ← loadFile file
      Action.info ("Loaded " ++ toString map.size ++ " class(es) from " ++ toString file)
      return map) :=
    (sameFrom_loadFile file_absolute).then fun _ _ => (sameFrom_note _).then fun _ _ =>
      sameFrom_pure trivial
  cases found with
  | true => exact rest
  | false => exact sameFrom_fail_bind _ _

end ClassMap

/-! ## Expansion -/

namespace Settings

variable {settings : Settings}

theorem sameFrom_resolve (absolute : settings.root.isAbsolute = true) (text : String) :
    SameFrom surroundings directory fits (·.isAbsolute = true) (settings.resolve text) := by
  rintro session _
  exact ⟨rfl, by rintro _ ⟨⟩; exact Path.isAbsolute_join absolute _⟩

theorem sameFrom_filesAmong {paths : List Path}
    (absolute : ∀ path ∈ paths, path.isAbsolute = true) :
    SameFrom surroundings directory fits (fun found => ∀ path ∈ found, path.isAbsolute = true)
      (filesAmong paths) := by
  induction paths generalizing fits with
  | nil => exact sameFrom_pure (by simp)
  | cons path rest ih =>
      have here := absolute path List.mem_cons_self
      have later : SameFromAnywhere surroundings directory
          (fun found => ∀ path ∈ found, path.isAbsolute = true) (filesAmong rest) :=
        ih fun other later => absolute other (List.mem_cons_of_mem _ later)
      refine (sameFrom_isFile here).then fun yes _ => ?_
      cases yes with
      | true =>
          refine later.then fun found found_absolute => sameFrom_pure ?_
          exact List.forall_mem_cons.mpr ⟨here, found_absolute⟩
      | false => exact later

theorem sameFrom_matchesOf {glob : Path} (absolute : glob.isAbsolute = true) :
    SameFrom surroundings directory fits (fun found => ∀ path ∈ found, path.isAbsolute = true)
      (matchesOf glob) := by
  have asked : SameFrom surroundings directory fits
      (fun paths => ∀ path ∈ paths, path.isAbsolute = true)
      (ask (toString glob) fun tree directory => Glob.found tree directory glob) :=
    sameFrom_ask _ (fun tree => Glob.found_of_isAbsolute absolute tree _ _)
      fun tree paths matched path present =>
        Glob.isAbsolute_of_root (Glob.root_of_mem_found matched path present) absolute
  refine asked.then fun paths paths_absolute =>
    (sameFrom_filesAmong paths_absolute).then fun found found_absolute => sameFrom_pure ?_
  exact fun path present => found_absolute path (List.mem_mergeSort.mp present)

theorem sameFrom_pathsOf (absolute : settings.root.isAbsolute = true) (entry : String) :
    SameFrom surroundings directory fits (fun found => ∀ path ∈ found, path.isAbsolute = true)
      (settings.pathsOf entry) := by
  refine (sameFrom_resolve absolute entry).then fun path path_absolute => ?_
  split
  · refine (sameFrom_matchesOf path_absolute).then fun paths paths_absolute => ?_
    cases paths with
    | nil => exact (sameFrom_note _).then fun _ _ => sameFrom_pure paths_absolute
    | cons first rest => exact sameFrom_pure paths_absolute
  · exact sameFrom_pure (by simpa using path_absolute)

theorem sameFrom_allPathsOf (absolute : settings.root.isAbsolute = true) (entries : List String) :
    SameFrom surroundings directory fits (fun found => ∀ path ∈ found, path.isAbsolute = true)
      (settings.allPathsOf entries) := by
  induction entries generalizing fits with
  | nil => exact sameFrom_pure (by simp)
  | cons entry rest ih =>
      refine (sameFrom_pathsOf absolute entry).then fun paths paths_absolute =>
        ih.then fun more more_absolute => sameFrom_pure ?_
      exact List.forall_mem_append.mpr ⟨paths_absolute, more_absolute⟩

theorem sameFrom_expand (absolute : settings.root.isAbsolute = true) (entries : List String) :
    SameFrom surroundings directory fits (fun found => ∀ path ∈ found, path.isAbsolute = true)
      (settings.expand entries) := by
  refine (sameFrom_allPathsOf absolute entries).then fun paths paths_absolute => sameFrom_pure ?_
  intro path present
  rw [OrderedSet.toList_ofList, List.mem_eraseDups] at present
  exact paths_absolute path present

/-! ## Building -/

/-- An operation that scans absolute paths only. -/
def ScansAbsolute : Builder.Operation → Prop
  | .scanTypes paths | .scanImports paths => ∀ path ∈ paths, path.isAbsolute = true
  | _ => True

theorem scan_of_isAbsolute {paths : List Path} (absolute : ∀ path ∈ paths, path.isAbsolute = true)
    (builder : Builder) (tree : FileTree) (directory other : Location)
    (found : String → List String) :
    builder.scan (tree.sourceText directory) found paths =
      builder.scan (tree.sourceText other) found paths := by
  induction paths generalizing builder with
  | nil => rfl
  | cons path rest ih =>
      have here : tree.sourceText directory path = tree.sourceText other path := by
        rw [FileTree.sourceText, FileTree.read_of_isAbsolute
          (absolute path List.mem_cons_self) tree directory other, FileTree.sourceText]
      have later := ih fun other later => absolute other (List.mem_cons_of_mem _ later)
      simp only [Builder.scan, here, later]

theorem apply_of_scansAbsolute {operation : Builder.Operation} (absolute : ScansAbsolute operation)
    (builder : Builder) (tree : FileTree) (directory other : Location) :
    builder.apply (tree.sourceText directory) operation =
      builder.apply (tree.sourceText other) operation := by
  cases operation with
  | scanTypes paths =>
      simp only [Builder.apply, Builder.perform,
        scan_of_isAbsolute absolute builder tree directory other]
  | scanImports paths =>
      simp only [Builder.apply, Builder.perform,
        scan_of_isAbsolute absolute builder tree directory other]
  | _ => rfl

theorem applyAll_of_scansAbsolute {operations : List Builder.Operation}
    (absolute : ∀ operation ∈ operations, ScansAbsolute operation) (builder : Builder)
    (tree : FileTree) (directory other : Location) :
    builder.applyAll (tree.sourceText directory) operations =
      builder.applyAll (tree.sourceText other) operations := by
  induction operations generalizing builder with
  | nil => rfl
  | cons operation rest ih =>
      have later := ih fun other later => absolute other (List.mem_cons_of_mem _ later)
      simp only [Builder.applyAll, later, apply_of_scansAbsolute
        (absolute operation List.mem_cons_self) builder tree directory other]

theorem sameFrom_applied {operations : List Builder.Operation}
    (absolute : ∀ operation ∈ operations, ScansAbsolute operation) (builder : Builder) :
    SameFrom surroundings directory fits (fun _ => True) (applied builder operations) := by
  intro session _
  unfold applied
  simp only [perform_bind, perform_get, perform_read]
  rw [applyAll_of_scansAbsolute absolute builder session.files directory surroundings.directory]
  rcases builder.applyAll (session.files.sourceText surroundings.directory) operations with
    ⟨_, _ | _⟩ <;> exact ⟨rfl, fun _ _ => trivial⟩

theorem sameFrom_loadClassMap (absolute : settings.root.isAbsolute = true) :
    SameFrom surroundings directory fits (fun _ => True) settings.loadClassMap :=
  (sameFrom_resolve absolute _).then fun _ path_absolute =>
    (ClassMap.sameFrom_load path_absolute).then fun _ _ => sameFrom_pure trivial

theorem scansAbsolute_of_selection {operation : Builder.Operation}
    (present : operation ∈ settings.exclusions ++ settings.registrations) :
    ScansAbsolute operation := by
  simp only [exclusions, registrations, List.mem_append, List.mem_map] at present
  rcases present with (⟨_, _, rfl⟩ | ⟨_, _, rfl⟩) | ⟨_, _, rfl⟩ | ⟨_, _, rfl⟩ <;> trivial

/-- A builder is made the same from every working directory. -/
theorem sameFrom_build (absolute : settings.root.isAbsolute = true) :
    SameFrom surroundings directory fits (fun _ => True) (settings.build none) := by
  refine (sameFrom_loadClassMap absolute).then fun classMap _ => ?_
  refine (sameFrom_applied (fun _ present => scansAbsolute_of_selection present) _).then
    fun builder _ => ?_
  refine (sameFrom_expand absolute _).then fun types types_absolute => ?_
  refine (sameFrom_expand absolute _).then fun imports imports_absolute => ?_
  refine (sameFrom_note _).then fun _ _ => ?_
  have scans_absolute : ∀ operation ∈ [.scanTypes types, .scanImports imports],
      ScansAbsolute operation := by
    simpa [ScansAbsolute] using ⟨types_absolute, imports_absolute⟩
  refine (sameFrom_applied scans_absolute _).then fun builder _ => ?_
  refine (sameFrom_expand absolute _).then fun files _ => ?_
  refine (sameFrom_applied (by simp [ScansAbsolute]) _).then fun builder _ => ?_
  refine (sameFrom_expand absolute _).then fun targets _ => ?_
  refine (sameFrom_applied (by simp [ScansAbsolute]) _).then fun builder _ => ?_
  exact (sameFrom_note _).then fun _ _ => sameFrom_pure trivial

end Settings

theorem Manifest.sameFrom_write (absolute : path.isAbsolute = true) (manifest : Manifest) :
    SameFrom surroundings directory fits (fun _ => True) (manifest.write path) :=
  (sameFrom_writeInto absolute _).then fun _ _ => sameFrom_note _

end OpcachePreload
