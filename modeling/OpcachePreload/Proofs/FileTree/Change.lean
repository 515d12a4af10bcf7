import OpcachePreload.FileTree

/-!
# Changes to trees of files

What is at a location after something was put there or elsewhere, where paths lead in a tree that
has more directories, and what is read from a path after bytes were written to it.
-/

namespace OpcachePreload.FileTree

variable {tree tree' tree'' : FileTree} {directory location other : Location} {node : Node}
  {path : Path} {names : List String} {bytes : List UInt8}

/-! ## Putting -/

@[simp]
theorem get?_root (tree : FileTree) : tree.get? [] = some .directory :=
  rfl

theorem ne_nil_of_get?_ne (differs : tree.get? location ≠ some .directory) : location ≠ [] := by
  rintro rfl
  exact differs rfl

/-- What was put at a location is there. -/
theorem get?_put_self (tree : FileTree) (below_root : location ≠ []) (node : Node) :
    (tree.put location node).get? location = some node := by
  unfold get? put
  rw [if_neg below_root]
  split
  · rename_i present
    obtain ⟨entry, listed, here⟩ := List.any_eq_true.mp present
    have found : ((tree.nodes.map fun entry =>
        if entry.1 = location then (location, node) else entry).find? (·.1 = location)).isSome := by
      rw [List.find?_isSome]
      exact ⟨_, List.mem_map_of_mem listed, by simp [of_decide_eq_true here]⟩
    obtain ⟨last, last_found⟩ := Option.isSome_iff_exists.mp found
    have last_here := List.find?_some last_found
    obtain ⟨origin, _, rfl⟩ := List.mem_map.mp (List.mem_of_find?_eq_some last_found)
    rw [last_found]
    split at last_here
    · simp_all
    · rename_i elsewhere
      exact absurd (of_decide_eq_true last_here) elsewhere
  · rename_i absent
    have none_found : tree.nodes.find? (·.1 = location) = none := by
      rw [List.find?_eq_none]
      intro entry listed here
      exact absent (List.any_eq_true.mpr ⟨entry, listed, here⟩)
    simp [List.find?_append, none_found]

/-- What is elsewhere stays. -/
theorem get?_put_of_ne (tree : FileTree) (elsewhere : other ≠ location) (node : Node) :
    (tree.put location node).get? other = tree.get? other := by
  unfold get? put
  split
  · rfl
  split
  · rw [List.find?_map]
    have same : (tree.nodes.find? ((fun entry => decide (entry.1 = other)) ∘ fun entry =>
        if entry.1 = location then (location, node) else entry)) =
          tree.nodes.find? (·.1 = other) := by
      congr 1
      funext entry
      by_cases here : entry.1 = location
      · simp [here]
      · simp [here]
    rw [same, Option.map_map]
    cases found : tree.nodes.find? (·.1 = other) with
    | none => rfl
    | some entry =>
        have there : entry.1 = other := by simpa using List.find?_some found
        simp [there, elsewhere]
  · simp [List.find?_append, Ne.symm elsewhere]

/-! ## Files -/

/-- The bytes of the file at a location, if a file is there. -/
def bytesAt? (tree : FileTree) (location : Location) : Option (List UInt8) :=
  match tree.get? location with
  | some (.file bytes) => some bytes
  | _ => none

theorem bytesAt?_put_of_ne (tree : FileTree) (elsewhere : other ≠ location) (node : Node) :
    (tree.put location node).bytesAt? other = tree.bytesAt? other := by
  rw [bytesAt?, get?_put_of_ne tree elsewhere, bytesAt?]

/-! ## More directories -/

/-- A tree that has directories where another one has nothing, and is the same elsewhere. -/
def Furnishes (tree tree' : FileTree) : Prop :=
  ∀ location, tree'.get? location = tree.get? location ∨
    tree.get? location = none ∧ tree'.get? location = some .directory

theorem Furnishes.refl (tree : FileTree) : tree.Furnishes tree :=
  fun _ => .inl rfl

theorem Furnishes.trans (first : tree.Furnishes tree') (second : tree'.Furnishes tree'') :
    tree.Furnishes tree'' := by
  intro location
  rcases first location with same | ⟨absent, made⟩
  · rw [← same]
    exact second location
  · rcases second location with same | ⟨absent', _⟩
    · exact .inr ⟨absent, same.trans made⟩
    · rw [made] at absent'
      contradiction

/-- A directory in a place where nothing is. -/
theorem furnishes_put (absent : tree.get? location = none) :
    tree.Furnishes (tree.put location .directory) := by
  intro other
  by_cases here : other = location
  · subst here
    have below_root : other ≠ [] := by
      rintro rfl
      contradiction
    exact .inr ⟨absent, get?_put_self tree below_root _⟩
  · exact .inl (get?_put_of_ne tree here _)

theorem Furnishes.get?_eq_some (furnishes : tree.Furnishes tree')
    (present : tree.get? location = some node) : tree'.get? location = some node := by
  rcases furnishes location with same | ⟨absent, _⟩
  · exact same.trans present
  · rw [absent] at present
    contradiction

/-- Files stay, and none are added. -/
theorem Furnishes.bytesAt?_eq (furnishes : tree.Furnishes tree') (location : Location) :
    tree'.bytesAt? location = tree.bytesAt? location := by
  unfold bytesAt?
  rcases furnishes location with same | ⟨absent, made⟩
  · rw [same]
  · rw [absent, made]

/-! ## Where paths lead -/

/-- A path leads on through the directories of a tree, so it leads to the same place wherever these
are directories. -/
theorem descend_eq_ok (kept : ∀ location, tree.get? location = some .directory →
    tree'.get? location = some .directory) {start : Location}
    (leads : tree.descend start names = .ok location) :
    tree'.descend start names = .ok location := by
  induction names generalizing start with
  | nil => exact leads
  | cons name rest ih =>
      unfold descend at leads ⊢
      split at leads
      · contradiction
      · contradiction
      · rename_i here
        rw [kept start here]
        dsimp only
        split at leads
        · contradiction
        · rename_i short
          rw [if_neg short]
          split at leads
          · rename_i up
            rw [if_pos up]
            exact ih leads
          · rename_i down
            rw [if_neg down]
            exact ih leads

theorem locate_eq_ok (kept : ∀ location, tree.get? location = some .directory →
    tree'.get? location = some .directory) (leads : tree.locate directory path = .ok location) :
    tree'.locate directory path = .ok location := by
  unfold locate at leads ⊢
  split at leads
  · contradiction
  · rename_i clean
    rw [if_neg clean]
    exact descend_eq_ok kept leads

/-! ## Writing and reading -/

theorem write_eq_ok_iff :
    tree.write directory path bytes = .ok tree' ↔
      ∃ location, tree.locate directory path = .ok location ∧
        tree.get? location ≠ some .directory ∧ tree' = tree.put location (.file bytes) := by
  unfold write
  cases leads : tree.locate directory path with
  | error fault => simp [bind, Except.bind]
  | ok location =>
      simp only [bind, Except.bind, Except.ok.injEq, exists_eq_left']
      rcases tree.get? location with _ | _ | held
      all_goals simp [pure, Except.pure, throw, throwThe, MonadExceptOf.throw, eq_comm]

/-- A tree after bytes were written to a path: the path leads to them, and the files elsewhere are
those of before. -/
def Rewrites (before after : FileTree) (directory : Location) (path : Path) (bytes : List UInt8) :
    Prop :=
  ∃ location, after.locate directory path = .ok location ∧
    after.get? location = some (.file bytes) ∧
    ∀ other ≠ location, after.bytesAt? other = before.bytesAt? other

theorem rewrites_of_write (written : tree.write directory path bytes = .ok tree') :
    tree.Rewrites tree' directory path bytes := by
  obtain ⟨location, leads, not_directory, rfl⟩ := write_eq_ok_iff.mp written
  refine ⟨location, locate_eq_ok ?_ leads,
    get?_put_self tree (ne_nil_of_get?_ne not_directory) _,
    fun other elsewhere => bytesAt?_put_of_ne tree elsewhere _⟩
  intro other present
  rw [get?_put_of_ne tree _ _, present]
  rintro rfl
  exact not_directory present

/-- Directories that were made before are no other change. -/
theorem Furnishes.rewrites (furnishes : tree.Furnishes tree')
    (rewrites : tree'.Rewrites tree'' directory path bytes) :
    tree.Rewrites tree'' directory path bytes := by
  obtain ⟨location, leads, held, same⟩ := rewrites
  exact ⟨location, leads, held, fun other elsewhere =>
    (same other elsewhere).trans (furnishes.bytesAt?_eq other)⟩

/-- What was written to a path is read from it. -/
theorem Rewrites.read_eq (rewrites : tree.Rewrites tree' directory path bytes) :
    tree'.read directory path = .ok bytes := by
  obtain ⟨location, leads, held, _⟩ := rewrites
  simp only [read, lookup, leads, held, bind, Except.bind]
  rfl

end OpcachePreload.FileTree
