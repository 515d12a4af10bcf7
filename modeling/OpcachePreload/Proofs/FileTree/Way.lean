import OpcachePreload.Proofs.FileTree.Change

/-!
# Making directories

Directories are made from the end of a path: the last one first, and if that fails because something
above it is missing, what is above it. This comes to the same as going along the path from its start
and making what is missing on the way.
-/

namespace OpcachePreload.FileTree

variable {tree way : FileTree} {directory location start : Location} {path : Path}
  {root : PathRoot} {name : String} {names kept : List String} {fault : PathFault}

/-! ## Going along -/

/-- The location that a name leads to. -/
def step (location : Location) (name : String) : Location :=
  if name = ".." then location.dropLast else location ++ [name]

/-- The location that names lead to. -/
def steps (location : Location) (names : List String) : Location := names.foldl step location

/-- Where paths with a root start. -/
def origin (directory : Location) (root : PathRoot) : Location :=
  if root = .relative then directory else []

/-- The tree with a directory at every location on the way along some names, if each of them is one
or can be made one. -/
def wayAlong (tree : FileTree) (location : Location) : List String → Option FileTree
  | [] => if tree.get? location = some .directory then some tree else none
  | name :: names =>
    if tree.get? location = some .directory ∧ name.utf8ByteSize ≤ nameLimit then
      if name ≠ ".." ∧ tree.get? (step location name) = none then
        wayAlong (tree.put (step location name) .directory) (step location name) names
      else wayAlong tree (step location name) names
    else none

theorem descend_cons (tree : FileTree) (location : Location) (name : String)
    (names : List String) :
    tree.descend location (name :: names) =
      match tree.get? location with
      | none => .error .notFound
      | some (.file _) => .error .notADirectory
      | some .directory =>
        if nameLimit < name.utf8ByteSize then .error .nameTooLong
        else tree.descend (step location name) names := by
  rw [descend, step]
  rcases tree.get? location with _ | _ | _
  · rfl
  · by_cases up : name = ".." <;> simp [up]
  · rfl

theorem descend_append (tree : FileTree) (location : Location) (names more : List String) :
    tree.descend location (names ++ more) =
      (tree.descend location names).bind fun reached => tree.descend reached more := by
  induction names generalizing location with
  | nil => rfl
  | cons name names ih =>
      rw [List.cons_append, descend_cons, descend_cons]
      split
      · rfl
      · rfl
      · split
        · rfl
        · exact ih _

theorem eq_steps_of_descend (leads : tree.descend start names = .ok location) :
    location = steps start names := by
  induction names generalizing start with
  | nil => exact (Except.ok.inj leads).symm
  | cons name names ih =>
      rw [descend_cons] at leads
      split at leads
      · contradiction
      · contradiction
      · split at leads
        · contradiction
        · exact ih leads

/-- What a path goes along is there, if it leads to something. -/
theorem get?_isSome_of_descend (leads : tree.descend start names = .ok location)
    (present : tree.get? location = some .directory) : tree.get? start = some .directory := by
  cases names with
  | nil => rwa [Except.ok.inj leads]
  | cons name names =>
      rw [descend_cons] at leads
      split at leads
      · contradiction
      · contradiction
      · assumption

/-- The way is made once it has been gone. -/
theorem descend_of_wayAlong (made : tree.wayAlong start names = some way) :
    tree.Furnishes way ∧ way.descend start names = .ok (steps start names) ∧
      way.get? (steps start names) = some .directory := by
  induction names generalizing tree start with
  | nil =>
      rw [wayAlong] at made
      split at made
      · obtain rfl := Option.some.inj made
        exact ⟨.refl tree, rfl, ‹_›⟩
      · contradiction
  | cons name names ih =>
      rw [wayAlong] at made
      split at made
      · rename_i here
        have onward : tree.Furnishes way ∧
            way.descend (step start name) names = .ok (steps (step start name) names) ∧
            way.get? (steps (step start name) names) = some .directory := by
          split at made
          · rename_i missing
            obtain ⟨furnishes, leads, present⟩ := ih made
            exact ⟨(furnishes_put missing.2).trans furnishes, leads, present⟩
          · exact ih made
        obtain ⟨furnishes, leads, present⟩ := onward
        refine ⟨furnishes, ?_, present⟩
        rw [descend_cons, furnishes.get?_eq_some here.1]
        exact (if_neg (Nat.not_lt.mpr here.2)).trans leads
      · contradiction

/-- Nothing has to be made where a path leads to a directory. -/
theorem wayAlong_of_descend (leads : tree.descend start names = .ok location)
    (present : tree.get? location = some .directory) : tree.wayAlong start names = some tree := by
  induction names generalizing start with
  | nil =>
      obtain rfl := Except.ok.inj leads
      exact if_pos present
  | cons name names ih =>
      have here := get?_isSome_of_descend leads present
      rw [descend_cons, here] at leads
      dsimp only at leads
      split at leads
      · contradiction
      · rename_i short
        have next := get?_isSome_of_descend leads present
        rw [wayAlong, if_pos ⟨here, Nat.not_lt.mp short⟩, if_neg (by simp [next])]
        exact ih leads

/-- Nothing can be made beyond what is no directory, or below a name that is too long. -/
theorem wayAlong_of_fault (blocked : tree.descend start names = .error fault)
    (other : fault ≠ .notFound) : tree.wayAlong start names = none := by
  induction names generalizing start with
  | nil => contradiction
  | cons name names ih =>
      rw [descend_cons] at blocked
      rw [wayAlong]
      split at blocked
      · exact absurd (Except.error.inj blocked).symm other
      · simp [*]
      · rename_i here
        split at blocked
        · rename_i long
          exact if_neg fun passable => Nat.not_lt.mpr passable.2 long
        · rename_i short
          have there : ¬(name ≠ ".." ∧ tree.get? (step start name) = none) := by
            rintro ⟨_, absent⟩
            cases names with
            | nil => contradiction
            | cons next names =>
                rw [descend_cons, absent] at blocked
                exact other (Except.error.inj blocked).symm
          rw [if_pos ⟨here, Nat.not_lt.mp short⟩, if_neg there]
          exact ih blocked

theorem wayAlong_append (tree : FileTree) (start : Location) (names more : List String) :
    tree.wayAlong start (names ++ more) =
      (tree.wayAlong start names).bind fun way => way.wayAlong (steps start names) more := by
  induction names generalizing tree start with
  | nil =>
      rw [List.nil_append, wayAlong]
      split
      · rfl
      · rename_i nowhere
        cases more with
        | nil => exact if_neg nowhere
        | cons name more => exact if_neg fun passable => nowhere passable.1
  | cons name names ih =>
      rw [List.cons_append, wayAlong, wayAlong]
      split
      · split
        · exact ih _ _
        · exact ih _ _
      · rfl

/-! ## Making what is missing -/

/-- Whether no name has a null character in it. -/
def Clean (names : List String) : Prop := names.any (·.toList.contains (Char.ofNat 0)) = false

theorem locate_of_clean (clean : Clean path.names) :
    tree.locate directory path = tree.descend (origin directory path.root) path.names := by
  have start : (if path.isAbsolute then [] else directory) = origin directory path.root := by
    rw [origin, Path.isAbsolute]
    cases path.root <;> rfl
  rw [locate, clean, start]
  rfl

theorem clean_of_locate (leads : tree.locate directory path = .ok location) :
    Clean path.names := by
  unfold locate at leads
  split at leads
  · contradiction
  · exact Bool.not_eq_true _ |>.mp ‹_›

theorem ensureOne_of_error (blocked : tree.locate directory path = .error fault) :
    tree.ensureOne directory path = .error ⟨fault, path⟩ := by
  have not_made : tree.makeDirectory directory path = .error fault := by
    rw [makeDirectory, blocked]
    rfl
  have not_found : tree.lookup directory path = .error fault := by
    rw [lookup, blocked]
    rfl
  rw [ensureOne, not_made, not_found]
  cases fault <;> rfl

/-- Where a path leads, a directory is there, can be made, or cannot be. -/
theorem ensureOne_of_ok (leads : tree.locate directory path = .ok location) :
    tree.ensureOne directory path =
      if tree.get? location = some .directory then .ok tree
      else if tree.get? location = none ∧ path.names ≠ [] ∧ path.names.getLast? ≠ some ".." then
        .ok (tree.put location .directory)
      else .error ⟨.alreadyThere, path⟩ := by
  have made : tree.makeDirectory directory path =
      if path.names = [] ∨ path.names.getLast? = some ".." ∨ tree.get? location ≠ none then
        .error .alreadyThere
      else .ok (tree.put location .directory) := by
    rw [makeDirectory, leads]
    by_cases empty : path.names = []
    · simp [empty, bind, Except.bind, throw, throwThe, MonadExceptOf.throw]
    · by_cases up : path.names.getLast? = some ".."
      · simp [up, bind, Except.bind, throw, throwThe, MonadExceptOf.throw]
      · rcases held : tree.get? location with _ | node <;>
          simp [held, empty, up, bind, Except.bind, throw, throwThe, MonadExceptOf.throw, pure,
            Except.pure]
  have found : tree.lookup directory path = (tree.get? location).elim (.error .notFound) .ok := by
    rw [lookup, leads]
    cases held : tree.get? location <;> simp [held, bind, Except.bind, pure, Except.pure, throw,
      throwThe, MonadExceptOf.throw]
  rw [ensureOne, made, found]
  rcases tree.get? location with _ | _ | bytes
  · by_cases empty : path.names = []
    · simp [empty]
    · by_cases up : path.names.getLast? = some ".." <;> simp [empty, up]
  · simp
  · simp

/-- Below a directory, making the last name of a path is going along it. What stops it is not that
something is missing. -/
theorem ensureOne_below {reached : Location} (clean : Clean (names ++ [name]))
    (leads : tree.descend (origin directory root) names = .ok reached)
    (present : tree.get? reached = some .directory) :
    (∃ way, tree.wayAlong reached [name] = some way ∧
      tree.ensureOne directory ⟨root, names ++ [name]⟩ = .ok way) ∨
    (tree.wayAlong reached [name] = none ∧ ∃ fault, fault.fault ≠ .notFound ∧
      tree.ensureOne directory ⟨root, names ++ [name]⟩ = .error fault) := by
  have located : tree.locate directory ⟨root, names ++ [name]⟩ =
      if nameLimit < name.utf8ByteSize then .error .nameTooLong else .ok (step reached name) := by
    rw [locate_of_clean clean, descend_append, leads, Except.bind, descend_cons, present]
    rfl
  rw [wayAlong]
  by_cases long : nameLimit < name.utf8ByteSize
  · rw [if_pos long] at located
    rw [if_neg fun passable => Nat.not_lt.mpr passable.2 long]
    exact .inr ⟨rfl, _, by simp, ensureOne_of_error located⟩
  · rw [if_neg long] at located
    rw [if_pos ⟨present, Nat.not_lt.mp long⟩, ensureOne_of_ok located]
    rcases held : tree.get? (step reached name) with _ | _ | bytes
    · by_cases up : name = ".."
      · subst up
        exact .inr ⟨by simp [wayAlong, held], ⟨.alreadyThere, ⟨root, names ++ [".."]⟩⟩, by simp,
          by simp⟩
      · have empty : tree.get? (step reached name) ≠ some .directory := by simp [held]
        have below_root := ne_nil_of_get?_ne empty
        exact .inl ⟨tree.put (step reached name) .directory,
          by simp [up, wayAlong, get?_put_self tree below_root], by simp [up]⟩
    · exact .inl ⟨tree, by simp [wayAlong, held], by simp⟩
    · exact .inr ⟨by simp [wayAlong, held], ⟨.alreadyThere, ⟨root, names ++ [name]⟩⟩, by simp,
        by simp⟩

/-- Nothing leads on from where no directory is. -/
theorem descend_snoc_eq_error
    (nowhere : ∀ reached, tree.descend start names = .ok reached →
      tree.get? reached ≠ some .directory) :
    ∃ fault, tree.descend start (names ++ [name]) = .error fault := by
  rw [descend_append]
  cases leads : tree.descend start names with
  | error fault => exact ⟨fault, rfl⟩
  | ok reached =>
      rw [Except.bind, descend_cons]
      have absent := nowhere reached leads
      split
      · exact ⟨_, rfl⟩
      · exact ⟨_, rfl⟩
      · contradiction

/-- Where the directory above is there, the last name is made at once. -/
theorem ensureNames_cons_of_reached {reached : Location} (clean : Clean (kept.reverse ++ [name]))
    (leads : tree.descend (origin directory root) kept.reverse = .ok reached)
    (present : tree.get? reached = some .directory) :
    tree.ensureNames directory root (name :: kept) = (way, none) ↔
      tree.wayAlong (origin directory root) (kept.reverse ++ [name]) = some way := by
  rw [ensureNames, List.reverse_cons, wayAlong_append, wayAlong_of_descend leads present,
    Option.bind_some, ← eq_steps_of_descend leads]
  rcases ensureOne_below clean leads present with
    ⟨made, along, ensured⟩ | ⟨along, fault, other, ensured⟩
  · simp [along, ensured]
  · simp [along, ensured, other]

/-- Where the directory above is not there, the last name is made after it. -/
theorem ensureNames_cons_of_blocked (clean : Clean (kept.reverse ++ [name]))
    (blocked : tree.descend (origin directory root) (kept.reverse ++ [name]) = .error fault)
    (above : ∀ made, tree.ensureNames directory root kept = (made, none) ↔
      tree.wayAlong (origin directory root) kept.reverse = some made) :
    tree.ensureNames directory root (name :: kept) = (way, none) ↔
      tree.wayAlong (origin directory root) (kept.reverse ++ [name]) = some way := by
  have located : tree.locate directory ⟨root, kept.reverse ++ [name]⟩ = .error fault :=
    (locate_of_clean clean).trans blocked
  rw [ensureNames, List.reverse_cons, wayAlong_append]
  simp only [ensureOne_of_error located]
  by_cases missing : fault = .notFound
  · rw [if_pos missing]
    rcases below : tree.ensureNames directory root kept with ⟨made, _ | fault⟩
    · have along := (above made).mp below
      obtain ⟨_, leads, present⟩ := descend_of_wayAlong along
      rw [along, Option.bind_some]
      rcases ensureOne_below clean leads present with
        ⟨last, onward, ensured⟩ | ⟨onward, fault, _, ensured⟩
      · simp [onward, ensured]
      · simp [onward, ensured]
    · have stopped : tree.wayAlong (origin directory root) kept.reverse = none := by
        rw [Option.eq_none_iff_forall_ne_some]
        intro made along
        cases below.symm.trans ((above made).mpr along)
      simp [stopped]
  · have stopped := wayAlong_of_fault blocked missing
    rw [wayAlong_append] at stopped
    simp [missing, stopped]

/-- Directories are made from the end of a path exactly if they can be made from its start, and they
are the same ones. -/
theorem ensureNames_eq_none_iff (clean : Clean kept.reverse) :
    tree.ensureNames directory root kept = (way, none) ↔
      tree.wayAlong (origin directory root) kept.reverse = some way := by
  induction kept generalizing way with
  | nil =>
      have located : tree.locate directory ⟨root, []⟩ = .ok (origin directory root) :=
        locate_of_clean clean
      rw [ensureNames, ensureOne_of_ok located, List.reverse_nil, wayAlong]
      by_cases present : tree.get? (origin directory root) = some .directory
      · simp [present]
      · simp [present]
  | cons name kept ih =>
      rw [List.reverse_cons] at clean ⊢
      have clean_kept : Clean kept.reverse := by
        unfold Clean at clean ⊢
        simp only [List.any_append, Bool.or_eq_false_iff] at clean
        exact clean.1
      by_cases there : ∃ reached, tree.descend (origin directory root) kept.reverse = .ok reached ∧
          tree.get? reached = some .directory
      · obtain ⟨reached, leads, present⟩ := there
        exact ensureNames_cons_of_reached clean leads present
      · obtain ⟨fault, blocked⟩ : ∃ fault,
            tree.descend (origin directory root) (kept.reverse ++ [name]) = .error fault :=
          descend_snoc_eq_error fun reached leads present => there ⟨reached, leads, present⟩
        exact ensureNames_cons_of_blocked clean blocked fun made => ih clean_kept

theorem ensureDirectory_eq_none_iff (clean : Clean path.names) :
    tree.ensureDirectory directory path = (way, none) ↔
      tree.wayAlong (origin directory path.root) path.names = some way := by
  rw [ensureDirectory, ensureNames_eq_none_iff (by simpa using clean), List.reverse_reverse]

/-- No directory is made for a path with a null character in it. -/
theorem clean_of_ensureDirectory (made : tree.ensureDirectory directory path = (way, none)) :
    Clean path.names := by
  by_cases clean : path.names.any (·.toList.contains (Char.ofNat 0))
  · have refused : tree.ensureOne directory path = .error ⟨.nullCharacter, path⟩ :=
      ensureOne_of_error (if_pos clean)
    rw [ensureDirectory] at made
    rcases reversed : path.names.reverse with _ | ⟨name, kept⟩
    · simp [List.reverse_eq_nil_iff.mp reversed] at clean
    · have same : (⟨path.root, (name :: kept).reverse⟩ : Path) = path := by
        rw [← reversed, List.reverse_reverse]
      rw [reversed, ensureNames, same, refused] at made
      simp at made
  · exact Bool.not_eq_true _ |>.mp clean

theorem furnishes_makeDirectory {made : FileTree}
    (done : tree.makeDirectory directory path = .ok made) : tree.Furnishes made := by
  unfold makeDirectory at done
  cases leads : tree.locate directory path with
  | error fault => simp [leads, bind, Except.bind] at done
  | ok location =>
      simp only [leads, bind, Except.bind] at done
      split at done
      · contradiction
      · rcases held : tree.get? location with _ | node
        · simp only [held, pure, Except.pure, Except.ok.injEq] at done
          exact done ▸ furnishes_put held
        · simp [held, throw, throwThe, MonadExceptOf.throw] at done

theorem furnishes_ensureOne {made : FileTree} (done : tree.ensureOne directory path = .ok made) :
    tree.Furnishes made := by
  unfold ensureOne at done
  split at done
  · exact Except.ok.inj done ▸ furnishes_makeDirectory ‹_›
  · split at done
    · exact Except.ok.inj done ▸ .refl tree
    · contradiction

theorem furnishes_ensureNames (tree : FileTree) (directory : Location) (root : PathRoot)
    (kept : List String) : tree.Furnishes (tree.ensureNames directory root kept).1 := by
  induction kept generalizing tree with
  | nil =>
      rw [ensureNames]
      split
      · exact furnishes_ensureOne ‹_›
      · exact .refl tree
  | cons name kept ih =>
      have above := ih tree
      rw [ensureNames]
      split
      · exact furnishes_ensureOne ‹_›
      · split
        · split
          · rename_i fails
            rwa [fails] at above
          · rename_i made
            rw [made] at above
            split
            · exact above.trans (furnishes_ensureOne ‹_›)
            · exact above
        · exact .refl tree

/-- Whether or not a directory could be made, nothing but directories were. -/
theorem furnishes_ensureDirectory (tree : FileTree) (directory : Location) (path : Path) :
    tree.Furnishes (tree.ensureDirectory directory path).1 :=
  furnishes_ensureNames tree directory path.root path.names.reverse

/-! ## Writing below directories that are made -/

/-- Whether a file can be written at a path: the path leads to a file or to nothing, in a directory
that is there or can be made. -/
def Writable (tree : FileTree) (directory : Location) (path : Path) : Prop :=
  ∃ way location, tree.wayAlong (origin directory path.root) path.names.dropLast = some way ∧
    way.locate directory path = .ok location ∧ way.get? location ≠ some .directory

/-- The writable paths are those that can be written to once the directory above them was made. -/
theorem writable_iff (bytes : List UInt8) :
    tree.Writable directory path ↔ ∃ way after,
      tree.ensureDirectory directory path.parent = (way, none) ∧
      way.write directory path bytes = .ok after := by
  constructor
  · rintro ⟨way, location, along, leads, free⟩
    have clean : Clean path.parent.names := by
      have whole := clean_of_locate leads
      unfold Clean at whole ⊢
      rw [List.any_eq_false] at whole ⊢
      exact fun name above => whole name (List.dropLast_subset _ above)
    exact ⟨way, _, (ensureDirectory_eq_none_iff clean).mpr along,
      write_eq_ok_iff.mpr ⟨location, leads, free, rfl⟩⟩
  · rintro ⟨way, after, made, written⟩
    obtain ⟨location, leads, free, _⟩ := write_eq_ok_iff.mp written
    exact ⟨way, location,
      (ensureDirectory_eq_none_iff (clean_of_ensureDirectory made)).mp made, leads, free⟩

end OpcachePreload.FileTree
