import Mathlib.Data.List.Nodup
import OpcachePreload.Proofs.FileTree.Way

/-!
# Listings

The order in which a tree lists its entries makes no difference to what is where, and a listing in
another order gives the same names and locations in another order. Where no name in the tree is too
long, a path that goes on from a directory by names that were listed always leads somewhere or
nowhere: to ask for it does not fail.
-/

namespace OpcachePreload.FileTree

variable {tree tree' : FileTree} {directory location start : Location} {node : Node} {path : Path}
  {names : List String} {name : String} {fault : PathFault}

/-- A tree that a file system can hold: one entry at a location, and no name that is too long. -/
structure Sound (tree : FileTree) : Prop where
  distinct : (tree.nodes.map Prod.fst).Nodup
  short : ∀ entry ∈ tree.nodes, ∀ name ∈ entry.1, name.utf8ByteSize ≤ nameLimit

theorem sound_empty : empty.Sound :=
  ⟨List.nodup_nil, fun _ present => absurd present List.not_mem_nil⟩

/-! ## Other orders -/

theorem Sound.of_perm (sound : tree.Sound) (rearranged : tree.nodes.Perm tree'.nodes) :
    tree'.Sound where
  distinct := (rearranged.map Prod.fst).nodup sound.distinct
  short entry present := sound.short entry (rearranged.mem_iff.mpr present)

/-- What is at a location is what an entry says. -/
theorem Sound.get?_eq_some_iff (sound : tree.Sound) (below_root : location ≠ []) :
    tree.get? location = some node ↔ (location, node) ∈ tree.nodes := by
  rw [get?, if_neg below_root, Option.map_eq_some_iff]
  constructor
  · rintro ⟨⟨other, _⟩, found, rfl⟩
    obtain rfl : other = location := by simpa using List.find?_some found
    exact List.mem_of_find?_eq_some found
  · intro present
    have found : (tree.nodes.find? (·.1 = location)).isSome :=
      List.find?_isSome.mpr ⟨_, present, by simp⟩
    obtain ⟨entry, found⟩ := Option.isSome_iff_exists.mp found
    have here : entry.1 = location := by simpa using List.find?_some found
    have same : entry = (location, node) :=
      List.inj_on_of_nodup_map sound.distinct (List.mem_of_find?_eq_some found) present here
    exact ⟨entry, found, congrArg Prod.snd same⟩

theorem Sound.get?_of_perm (sound : tree.Sound) (rearranged : tree.nodes.Perm tree'.nodes)
    (location : Location) : tree'.get? location = tree.get? location := by
  by_cases at_root : location = []
  · subst at_root
    rw [get?_root, get?_root]
  · ext node
    rw [sound.get?_eq_some_iff at_root, (sound.of_perm rearranged).get?_eq_some_iff at_root,
      rearranged.mem_iff]

theorem descend_congr (same : ∀ location, tree'.get? location = tree.get? location)
    (start : Location) (names : List String) :
    tree'.descend start names = tree.descend start names := by
  induction names generalizing start with
  | nil => rfl
  | cons name rest ih => simp only [descend_cons, same, ih]

theorem locate_congr (same : ∀ location, tree'.get? location = tree.get? location)
    (directory : Location) (path : Path) :
    tree'.locate directory path = tree.locate directory path := by
  unfold locate
  rw [descend_congr same]

theorem lookup_congr (same : ∀ location, tree'.get? location = tree.get? location)
    (directory : Location) (path : Path) :
    tree'.lookup directory path = tree.lookup directory path := by
  simp only [lookup, locate_congr same, same]

theorem names_perm (rearranged : tree.nodes.Perm tree'.nodes) (location : Location) :
    (tree.names location).Perm (tree'.names location) :=
  (rearranged.filterMap _).filter _

theorem below_perm (rearranged : tree.nodes.Perm tree'.nodes) (location : Location) :
    (tree.below location).Perm (tree'.below location) :=
  (rearranged.filterMap _).filter _

/-! ## Names that are not too long -/

theorem Sound.short_of_mem_names (sound : tree.Sound) (listed : name ∈ tree.names location) :
    name.utf8ByteSize ≤ nameLimit := by
  obtain ⟨entry, present, last⟩ := List.mem_filterMap.mp (List.mem_filter.mp listed).1
  split at last
  · exact sound.short entry present name (List.mem_of_getLast? last)
  · contradiction

theorem Sound.short_of_mem_below (sound : tree.Sound) (listed : names ∈ tree.below location) :
    ∀ name ∈ names, name.utf8ByteSize ≤ nameLimit := by
  obtain ⟨entry, present, rest⟩ := List.mem_filterMap.mp (List.mem_filter.mp listed).1
  split at rest
  · obtain rfl := Option.some.inj rest
    exact fun name member => sound.short entry present name (List.mem_of_mem_drop member)
  · contradiction

/-- Names by which a listing goes on from a location. -/
def Listed (tree : FileTree) (location : Location) (names : List String) : Prop :=
  names = [] ∨ names ∈ tree.below location ∨ ∃ name ∈ tree.names location, names = [name]

theorem Sound.short_of_listed (sound : tree.Sound) (listed : tree.Listed location names) :
    ∀ name ∈ names, name.utf8ByteSize ≤ nameLimit := by
  rcases listed with rfl | below | ⟨name, here, rfl⟩
  · simp
  · exact sound.short_of_mem_below below
  · simpa using sound.short_of_mem_names here

theorem isAbsence_of_descend (short : ∀ name ∈ names, name.utf8ByteSize ≤ nameLimit)
    (blocked : tree.descend start names = .error fault) : isAbsence fault = true := by
  induction names generalizing start with
  | nil => contradiction
  | cons name rest ih =>
      rw [descend_cons] at blocked
      split at blocked
      · obtain rfl := Except.error.inj blocked
        rfl
      · obtain rfl := Except.error.inj blocked
        rfl
      · rw [if_neg (Nat.not_lt.mpr (short name List.mem_cons_self))] at blocked
        exact ih (fun other later => short other (List.mem_cons_of_mem _ later)) blocked

/-! ## Asking for a path -/

/-- Whether a path leads to a file. -/
def leadsToFile (tree : FileTree) (directory : Location) (path : Path) : Bool :=
  (tree.read directory path).isOk

theorem exists_of_leadsToFile (leads : tree.leadsToFile directory path = true) :
    ∃ bytes, tree.read directory path = .ok bytes := by
  unfold leadsToFile at leads
  cases there : tree.read directory path with
  | error fault =>
      rw [there] at leads
      contradiction
  | ok bytes => exact ⟨bytes, rfl⟩

theorem lookup_of_read {bytes : List UInt8} (held : tree.read directory path = .ok bytes) :
    tree.lookup directory path = .ok (.file bytes) := by
  unfold read at held
  cases there : tree.lookup directory path with
  | error fault => simp [there, bind, Except.bind] at held
  | ok node =>
      rw [there] at held
      cases node with
      | directory => cases held
      | file other =>
          obtain rfl := Except.ok.inj held
          rfl

theorem read_congr (same : ∀ location, tree'.get? location = tree.get? location)
    (directory : Location) (path : Path) :
    tree'.read directory path = tree.read directory path := by
  simp only [read, lookup_congr same]

/-- Asking whether a path leads to something does not fail. -/
def Answers (tree : FileTree) (directory : Location) (path : Path) : Prop :=
  ∃ found, tree.probe directory path = .ok found

theorem probe_of_lookup (leads : tree.lookup directory path = .ok node) :
    tree.probe directory path = .ok (some node) := by
  rw [probe, leads]

theorem read_of_probe {bytes : List UInt8}
    (found : tree.probe directory path = .ok (some (.file bytes))) :
    tree.read directory path = .ok bytes := by
  unfold probe at found
  cases there : tree.lookup directory path with
  | ok node =>
      rw [there] at found
      obtain rfl := Option.some.inj (Except.ok.inj found)
      rw [read, there]
      rfl
  | error fault =>
      rw [there] at found
      dsimp only at found
      split at found <;> cases found

theorem not_isAbsence_of_probe (unanswered : tree.probe directory path = .error fault) :
    isAbsence fault = false := by
  unfold probe at unanswered
  split at unanswered
  · cases unanswered
  · split at unanswered
    · cases unanswered
    · rename_i present
      obtain rfl := Except.error.inj unanswered
      exact eq_false_of_ne_true present

theorem answers_of_lookup (leads : tree.lookup directory path = .ok node) :
    tree.Answers directory path :=
  ⟨some node, probe_of_lookup leads⟩

theorem answers_of_absence (blocked : tree.lookup directory path = .error fault)
    (absence : isAbsence fault = true) : tree.Answers directory path :=
  ⟨none, by rw [probe, blocked]; exact if_pos absence⟩

theorem answers_of_locate (cause : ∀ fault, tree.locate directory path = .error fault →
    isAbsence fault = true) : tree.Answers directory path := by
  cases found : tree.lookup directory path with
  | ok node => exact answers_of_lookup found
  | error fault =>
      apply answers_of_absence found
      simp only [lookup, bind, Except.bind] at found
      split at found
      · rename_i blocked
        obtain rfl := Except.error.inj found
        exact cause _ blocked
      · split at found
        · contradiction
        · obtain rfl := Except.error.inj found
          rfl

/-- Names that are not too long lead somewhere or nowhere. -/
theorem answers_append (leads : tree.locate directory path = .ok location)
    (short : ∀ name ∈ names, name.utf8ByteSize ≤ nameLimit) :
    tree.Answers directory { path with names := path.names ++ names } := by
  apply answers_of_locate
  intro fault blocked
  by_cases clean : Clean (path.names ++ names)
  · rw [locate_of_clean (clean_of_locate leads)] at leads
    rw [locate_of_clean clean, descend_append, leads] at blocked
    exact isAbsence_of_descend short blocked
  · rw [locate, if_pos (eq_true_of_ne_false clean)] at blocked
    obtain rfl := Except.error.inj blocked
    rfl

end OpcachePreload.FileTree
