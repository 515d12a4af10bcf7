import Mathlib.Data.List.Perm.Basic
import OpcachePreload.Proofs.FileTree.Listing

/-!
# Directories that hold the same

Two directories, in one tree or in two, may hold the same. Then names that go on from both without
going up lead to the same, and the listings of both, and of what is below them, give the same names.
-/

namespace OpcachePreload

namespace Path

variable {path : Path} {names more : List String}

/-- The path that goes on from a path by some names. -/
def below (path : Path) (names : List String) : Path := { path with names := path.names ++ names }

theorem below_below : (path.below names).below more = path.below (names ++ more) := by
  simp [below]

theorem below_injective (path : Path) (names more : List String)
    (same : path.below names = path.below more) : names = more :=
  List.append_cancel_left (congrArg Path.names same)

end Path

namespace FileTree

variable {tree tree' : FileTree} {directory directory' base base' location start : Location}
  {root root' : Path} {name : String} {names here : List String}

/-- Two directories hold the same, and nothing in them leads up. -/
structure Copy (tree tree' : FileTree) (base base' : Location) : Prop where
  same : ∀ names, tree.get? (base ++ names) = tree'.get? (base' ++ names)
  down : ∀ names, (tree.get? (base ++ names)).isSome = true → ".." ∉ names

/-! ## Going down -/

theorem Copy.isDirectoryAt_eq (copy : Copy tree tree' base base') (names : List String) :
    tree'.isDirectoryAt (base' ++ names) = tree.isDirectoryAt (base ++ names) := by
  rw [isDirectoryAt, isDirectoryAt, copy.same]

/-- Names that do not go up are followed in both directories, or in neither for the same cause. -/
theorem Copy.descend_eq (copy : Copy tree tree' base base') (here : List String)
    (down : ".." ∉ names) :
    ∃ result : Except PathFault Unit,
      tree.descend (base ++ here) names = result.map (fun _ => base ++ here ++ names) ∧
      tree'.descend (base' ++ here) names = result.map fun _ => base' ++ here ++ names := by
  induction names generalizing here with
  | nil => exact ⟨.ok (), by simp [descend, Except.map]⟩
  | cons name rest ih =>
      rw [List.mem_cons, not_or] at down
      have next (start : Location) : step (start ++ here) name = start ++ (here ++ [name]) := by
        rw [step, if_neg (Ne.symm down.1), List.append_assoc]
      rw [descend_cons, descend_cons, ← copy.same, next, next]
      rcases tree.get? (base ++ here) with _ | _ | _
      · exact ⟨.error .notFound, rfl, rfl⟩
      · dsimp only
        split
        · exact ⟨.error .nameTooLong, rfl, rfl⟩
        · simpa using ih (here ++ [name]) down.2
      · exact ⟨.error .notADirectory, rfl, rfl⟩

theorem locate_below_of_clean (leads : tree.locate directory root = .ok base)
    (clean : Clean names) :
    tree.locate directory (root.below names) = tree.descend base names := by
  have root_clean := clean_of_locate leads
  have whole_clean : Clean (root.below names).names := by
    unfold Clean at root_clean clean ⊢
    rw [Path.below, List.any_append, root_clean, clean]
    rfl
  rw [locate_of_clean root_clean] at leads
  rw [locate_of_clean whole_clean, Path.below, descend_append, leads]
  rfl

theorem locate_below_of_not_clean (obscured : ¬ Clean names) :
    tree.locate directory (root.below names) = .error .nullCharacter := by
  rw [Clean, Bool.not_eq_false] at obscured
  apply if_pos
  rw [Path.below, List.any_append, obscured, Bool.or_true]

/-- Two paths that lead to directories that hold the same. -/
structure Twins (tree tree' : FileTree) (directory directory' : Location) (root root' : Path)
    (base base' : Location) : Prop where
  sound : tree.Sound
  sound' : tree'.Sound
  leads : tree.locate directory root = .ok base
  leads' : tree'.locate directory' root' = .ok base'
  copy : Copy tree tree' base base'

/-- Below twins the same names lead to the same place. -/
theorem Twins.locate_eq (twins : Twins tree tree' directory directory' root root' base base')
    (down : ".." ∉ names) :
    ∃ result : Except PathFault Unit,
      tree.locate directory (root.below names) = result.map (fun _ => base ++ names) ∧
      tree'.locate directory' (root'.below names) = result.map fun _ => base' ++ names := by
  by_cases clean : Clean names
  · rw [locate_below_of_clean twins.leads clean, locate_below_of_clean twins.leads' clean]
    simpa using twins.copy.descend_eq [] down
  · exact ⟨.error .nullCharacter, locate_below_of_not_clean clean,
      locate_below_of_not_clean clean⟩

/-- They lead to the same. -/
theorem Twins.lookup_eq (twins : Twins tree tree' directory directory' root root' base base')
    (down : ".." ∉ names) :
    tree'.lookup directory' (root'.below names) = tree.lookup directory (root.below names) := by
  obtain ⟨result, located, located'⟩ := twins.locate_eq down
  have there := (twins.copy.same names).symm
  rw [lookup, lookup, located, located']
  cases result with
  | error fault => rfl
  | ok _ => simp only [Except.map, bind, Except.bind, there]

theorem Twins.leadsToFile_eq (twins : Twins tree tree' directory directory' root root' base base')
    (down : ".." ∉ names) :
    tree'.leadsToFile directory' (root'.below names) =
      tree.leadsToFile directory (root.below names) := by
  simp only [leadsToFile, read, twins.lookup_eq down]

/-! ## Listing -/

theorem Sound.mem_names_iff (sound : tree.Sound) :
    name ∈ tree.names location ↔
      (tree.get? (location ++ [name])).isSome = true ∧ Path.isName name = true := by
  rw [names, List.mem_filter, List.mem_filterMap, Option.isSome_iff_exists]
  apply and_congr_left
  rintro -
  constructor
  · rintro ⟨⟨place, node⟩, present, last⟩
    split at last
    · rename_i above
      obtain rfl : place = location ++ [name] := by
        rw [← above, List.dropLast_append_getLast? name last]
      exact ⟨node, (sound.get?_eq_some_iff (by simp)).mpr present⟩
    · contradiction
  · rintro ⟨node, there⟩
    exact ⟨_, (sound.get?_eq_some_iff (by simp)).mp there, by simp⟩

/-- A listing in which different places are said differently says nothing twice. -/
theorem Sound.nodup_filterMap {α : Type} (sound : tree.Sound) (said : Location → Option α)
    (apart : ∀ place place' what, what ∈ said place → what ∈ said place' → place = place') :
    (tree.nodes.filterMap fun entry => said entry.1).Nodup := by
  have by_place : tree.nodes.filterMap (fun entry => said entry.1) =
      (tree.nodes.map Prod.fst).filterMap said := by
    rw [List.filterMap_map]
    rfl
  rw [by_place]
  exact sound.distinct.filterMap apart

theorem Sound.nodup_names (sound : tree.Sound) (location : Location) :
    (tree.names location).Nodup := by
  apply List.Nodup.filter
  apply sound.nodup_filterMap fun place =>
    if place.dropLast = location then place.getLast? else none
  intro place place' name last last'
  split at last
  · split at last'
    · rename_i above above'
      rw [← List.dropLast_append_getLast? name last, ← List.dropLast_append_getLast? name last',
        above, above']
    · contradiction
  · contradiction

theorem Sound.mem_below_iff (sound : tree.Sound) :
    names ∈ tree.below location ↔
      names ≠ [] ∧ (tree.get? (location ++ names)).isSome = true ∧
        ∀ name ∈ names, Path.isName name = true := by
  rw [below, List.mem_filter, List.mem_filterMap, Option.isSome_iff_exists, List.all_eq_true,
    ← and_assoc]
  apply and_congr_left
  rintro -
  constructor
  · rintro ⟨⟨place, node⟩, present, rest⟩
    split at rest
    · rename_i inside
      rw [Bool.and_eq_true, List.isPrefixOf_iff_prefix] at inside
      obtain ⟨⟨more, rfl⟩, longer⟩ := inside
      obtain rfl : more = names := by simpa using rest
      have some_more : more ≠ [] := by
        rintro rfl
        simp at longer
      exact ⟨some_more, node, (sound.get?_eq_some_iff (by simp [some_more])).mpr present⟩
    · contradiction
  · rintro ⟨some_more, node, there⟩
    exact ⟨_, (sound.get?_eq_some_iff (by simp [some_more])).mp there, by simp [some_more]⟩

theorem Sound.nodup_below (sound : tree.Sound) (location : Location) :
    (tree.below location).Nodup := by
  apply List.Nodup.filter
  apply sound.nodup_filterMap fun place =>
    if location.isPrefixOf place && place.length != location.length then
      some (place.drop location.length)
    else none
  intro place place' names rest rest'
  split at rest
  · split at rest'
    · rename_i inside inside'
      rw [Bool.and_eq_true, List.isPrefixOf_iff_prefix] at inside inside'
      obtain ⟨more, rfl⟩ := inside.1
      obtain ⟨more', rfl⟩ := inside'.1
      obtain rfl : more = names := by simpa using rest
      obtain rfl : more' = more := by simpa using rest'
      rfl
    · contradiction
  · contradiction

theorem Copy.names_perm (copy : Copy tree tree' base base') (sound : tree.Sound)
    (sound' : tree'.Sound) (here : List String) :
    (tree'.names (base' ++ here)).Perm (tree.names (base ++ here)) := by
  rw [List.perm_ext_iff_of_nodup (sound'.nodup_names _) (sound.nodup_names _)]
  intro name
  rw [sound'.mem_names_iff, sound.mem_names_iff, List.append_assoc, List.append_assoc, copy.same]

theorem Copy.below_perm (copy : Copy tree tree' base base') (sound : tree.Sound)
    (sound' : tree'.Sound) (here : List String) :
    (tree'.below (base' ++ here)).Perm (tree.below (base ++ here)) := by
  rw [List.perm_ext_iff_of_nodup (sound'.nodup_below _) (sound.nodup_below _)]
  intro names
  rw [sound'.mem_below_iff, sound.mem_below_iff, List.append_assoc, List.append_assoc, copy.same]

/-- What is listed below a directory does not lead up from it. -/
theorem Copy.down_of_listed (copy : Copy tree tree' base base') (sound : tree.Sound)
    (listed : tree.Listed (base ++ here) names) : ".." ∉ names := by
  have down_of_present (there : (tree.get? (base ++ here ++ names)).isSome = true) :
      ".." ∉ names := by
    rw [List.append_assoc] at there
    exact fun up => copy.down _ there (List.mem_append_right here up)
  rcases listed with rfl | below | ⟨name, present, rfl⟩
  · exact List.not_mem_nil
  · exact down_of_present (sound.mem_below_iff.mp below).2.1
  · exact down_of_present (sound.mem_names_iff.mp present).1

end FileTree

end OpcachePreload
