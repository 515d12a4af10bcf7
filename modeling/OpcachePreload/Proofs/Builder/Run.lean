import OpcachePreload.Proofs.Builder.History

/-!
# Operations one after the other

Operations that cannot fail are all done. Exclusions only change what is held back; all other
operations together do what their offers and files do, whatever comes between them.
-/

namespace OpcachePreload.Builder

variable {builder : Builder} {read : SourceReader} {operations : List Operation}

/-! ## Success -/

/-- Whether an operation succeeds on every builder. -/
def Operation.Succeeds (read : SourceReader) (operation : Operation) : Prop :=
  ∀ builder : Builder, ∃ answer, (builder.perform read operation).2 = .ok answer

/-- The turns of operations while the sources stay the same. -/
def turns (read : SourceReader) (operations : List Operation) : List Turn :=
  operations.map (Turn.mk read)

theorem after_append (builder : Builder) (first second : List Turn) :
    builder.after (first ++ second) = (builder.after first).after second :=
  List.foldl_append

theorem applyAll_cons_of_ok {operation : Operation} {answer : Answer}
    (answered : (builder.perform read operation).2 = .ok answer) (rest : List Operation) :
    builder.applyAll read (operation :: rest) =
      (builder.perform read operation).1.applyAll read rest := by
  rw [applyAll, apply]
  rcases outcome : builder.perform read operation with ⟨next, result⟩
  rw [outcome] at answered
  obtain rfl : result = .ok answer := answered
  rfl

theorem applyAll_cons_of_error {operation : Operation} {failure : Failure}
    (failed : (builder.perform read operation).2 = .error failure) (rest : List Operation) :
    builder.applyAll read (operation :: rest) =
      ((builder.perform read operation).1, some failure) := by
  rw [applyAll, apply]
  rcases outcome : builder.perform read operation with ⟨next, result⟩
  rw [outcome] at failed
  obtain rfl : result = .error failure := failed
  rfl

/-- Operations that cannot fail are all done. -/
theorem applyAll_of_succeeds (succeeds : ∀ operation ∈ operations, operation.Succeeds read) :
    builder.applyAll read operations = (builder.after (turns read operations), none) := by
  induction operations generalizing builder with
  | nil => rfl
  | cons operation rest ih =>
      obtain ⟨answer, answered⟩ := succeeds operation List.mem_cons_self builder
      rw [applyAll_cons_of_ok answered]
      exact ih fun other later => succeeds other (List.mem_cons_of_mem _ later)

theorem succeeds_exclude {pattern : String} {compiled : Pattern}
    (compiles : Pattern.compile pattern = .ok compiled) :
    (Operation.exclude pattern).Succeeds read := by
  intro builder
  by_cases present : builder.excluded.contains pattern
  · exact ⟨.done, by simp [perform, exclude, present, pure, Except.pure]⟩
  · exact ⟨.done, by simp [perform, exclude, present, compiles, bind, Except.bind, pure,
      Except.pure]⟩

theorem succeeds_offerMatching {pattern : String} {compiled : Pattern}
    (compiles : Pattern.compile pattern = .ok compiled) :
    (Operation.offerMatching pattern).Succeeds read := by
  intro builder
  rw [perform_offerMatching_of_ok read compiles]
  exact ⟨_, rfl⟩

/-- An operation that scans files succeeds if all of them can be read. -/
theorem succeeds_scan {operation : Operation} {found : String → List String} {paths : List Path}
    {texts : List String}
    (scans : ∀ builder : Builder, builder.perform read operation = builder.scan read found paths)
    (all_read : paths.mapM read = .ok texts) : operation.Succeeds read := by
  intro builder
  rw [scans, scan_snd, all_read]
  exact ⟨.done, rfl⟩

/-- It fails for the first of them that cannot be read. -/
theorem fails_scan {operation : Operation} {found : String → List String} {paths : List Path}
    {failure : Failure}
    (scans : ∀ builder : Builder, builder.perform read operation = builder.scan read found paths)
    (unread : paths.mapM read = .error failure) (builder : Builder) :
    (builder.perform read operation).2 = .error failure := by
  rw [scans, scan_snd, unread]
  rfl

theorem succeeds_addFiles (files : List String) : (Operation.addFiles files).Succeeds read :=
  fun _ => ⟨.done, rfl⟩

theorem succeeds_addCompileTargets (files : List String) :
    (Operation.addCompileTargets files).Succeeds read :=
  fun _ => ⟨.done, rfl⟩

/-! ## Effects -/

/-- Exclusions change nothing but what is held back. -/
theorem after_exclusions (builder : Builder) (read : SourceReader) (patterns : List String) :
    ∃ excluded, builder.after (turns read (patterns.map .exclude)) =
      { builder with excluded } := by
  induction patterns generalizing builder with
  | nil => exact ⟨builder.excluded, rfl⟩
  | cons pattern rest ih =>
      obtain ⟨excluded, last⟩ := ih (builder.perform read (.exclude pattern)).1
      have first_kept : { (builder.perform read (.exclude pattern)).1 with excluded } =
          { builder with excluded } := by
        rcases exclude_cases builder read pattern with ⟨same, _⟩ | ⟨_, _, _, same⟩
        · rw [same]
        · rw [same]
      exact ⟨excluded, last.trans first_kept⟩

/-- What is held back after exclusions is what one of the patterns occurs in. -/
theorem excludes_after_exclusions (classMap : ClassMap) (read : SourceReader)
    (patterns : List String) (name : String) :
    ((start classMap).after (turns read (patterns.map .exclude))).excludes name =
      patterns.any (occurs · name) := by
  have follows := (follows_start classMap).after (turns read (patterns.map .exclude))
  have events : history classMap (turns read (patterns.map .exclude)) =
      patterns.map .excluded := by
    rw [history, turns, List.flatMap_map, List.flatMap_map]
    exact List.map_eq_flatMap.symm
  rw [Bool.eq_iff_iff, follows.excludes_eq_true_iff, events]
  simp

/-- All other operations do together what their offers and files do. -/
theorem after_of_ne_exclude
    (plain : ∀ operation ∈ operations, ∀ pattern, operation ≠ .exclude pattern) :
    builder.after (turns read operations) =
      builder.taking (operations.flatMap (Operation.offers builder.classMap read))
        (operations.flatMap Operation.listed) (operations.flatMap Operation.targets) := by
  induction operations generalizing builder with
  | nil => rfl
  | cons operation rest ih =>
      have first : (builder.perform read operation).1 = _ :=
        perform_of_ne_exclude read (plain operation List.mem_cons_self)
      change ((builder.perform read operation).1).after (turns read rest) = _
      rw [first, ih fun other later => plain other (List.mem_cons_of_mem _ later), taking_taking]
      rfl

end OpcachePreload.Builder
