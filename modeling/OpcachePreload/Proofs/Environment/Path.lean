import OpcachePreload.Proofs.Environment
import OpcachePreload.Proofs.Path.Text

/-!
# Reading a path before or after replacing

A text is read as a path once the home directory and variables in it are replaced. A path may be
read from the text first, and its own text replaced and read again; or it may be replaced, and what
comes of it replaced again. Both ways lead to the same path for texts that meet some conditions,
since the pieces that reading drops, those that are empty or a single dot, have nothing to replace
in them.
-/

namespace OpcachePreload

open Text (split joinWith)
open OpcachePreload.Path (kept)

namespace Text

variable {separator : Char} {pieces : List (List Char)}

theorem joinWith_cons (nonempty : pieces ≠ []) (piece : List Char) :
    joinWith separator (piece :: pieces) = piece ++ separator :: joinWith separator pieces := by
  cases pieces with
  | nil => contradiction
  | cons => rfl

theorem split_append (separator : Char) (text rest : List Char) :
    split separator (text ++ separator :: rest) = split separator text ++ split separator rest := by
  induction text with
  | nil => simp [split]
  | cons c text ih =>
      obtain ⟨piece, pieces, cut⟩ := List.exists_cons_of_ne_nil (split_ne_nil separator text)
      by_cases same : c = separator
      · simp [split, same, ih]
      · simp [split, same, ih, cut]

theorem mem_joinWith {c : Char} (differs : c ≠ separator) :
    c ∈ joinWith separator pieces ↔ ∃ piece ∈ pieces, c ∈ piece := by
  induction pieces with
  | nil => simp [joinWith]
  | cons piece rest ih =>
      by_cases empty : rest = []
      · simp [empty, joinWith]
      · simp [joinWith_cons empty, ih, differs]

/-- A text before which a piece ends: an empty one, or one that starts with a separator. -/
def AtBoundary (separator : Char) (text : List Char) : Prop :=
  text = [] ∨ text.head? = some separator

/-- Pieces follow the pieces of every text in the same way. -/
theorem exists_joinWith_split_append (separator : Char) (pieces : List (List Char)) :
    ∃ rest, AtBoundary separator rest ∧
      ∀ text, joinWith separator (split separator text ++ pieces) = text ++ rest := by
  by_cases last : pieces = []
  · exact ⟨[], .inl rfl, fun text => by rw [last, List.append_nil, joinWith_split, List.append_nil]⟩
  · refine ⟨separator :: joinWith separator pieces, .inr rfl, fun text => ?_⟩
    induction text with
    | nil => exact joinWith_cons last []
    | cons c text ih =>
        obtain ⟨piece, others, cut⟩ := List.exists_cons_of_ne_nil (split_ne_nil separator text)
        by_cases same : c = separator
        · simp [split, same, joinWith_cons, split_ne_nil, ih]
        · rw [cut] at ih
          have more : others ++ pieces ≠ [] := by simp [last]
          rw [List.cons_append, joinWith_cons more] at ih
          simp [split, same, cut, joinWith_cons more, ih]

/-- The first piece of a text is empty if a piece before the text would end there. -/
theorem exists_split_eq_nil_cons_iff {text : List Char} :
    (∃ others, split separator text = [] :: others) ↔ AtBoundary separator text := by
  unfold AtBoundary
  cases text with
  | nil => simp [split]
  | cons c rest =>
      obtain ⟨piece, others, cut⟩ := List.exists_cons_of_ne_nil (split_ne_nil separator rest)
      by_cases same : c = separator <;> simp [split, same, cut]

theorem split_append_of_nil_cons {text : List Char} (cut : split separator text = [] :: pieces)
    (before : List Char) : split separator (before ++ text) = split separator before ++ pieces := by
  rcases exists_split_eq_nil_cons_iff.mp ⟨pieces, cut⟩ with rfl | front
  · obtain rfl := (List.cons.inj cut).2
    simp
  · obtain ⟨rest, rfl⟩ := List.head?_eq_some_iff.mp front
    rw [split, if_pos rfl] at cut
    rw [split_append, (List.cons.inj cut).2]

end Text

/-! ## Pieces that give no name -/

namespace Path

variable {piece text : List Char} {pieces some_pieces : List (List Char)}

/-- The names that the pieces of a text give. -/
def namesIn (text : List Char) : List String := (split '/' text).filterMap kept

theorem names_ofString (text : String) : (ofString text).names = namesIn text.toList :=
  rfl

theorem kept_eq_none_iff : kept piece = none ↔ piece = [] ∨ piece = ['.'] := by
  simp [kept, or_iff_not_imp_left]

theorem namesIn_joinWith (texts : List (List Char)) :
    namesIn (joinWith '/' texts) = texts.flatMap namesIn := by
  induction texts with
  | nil => rfl
  | cons text rest ih =>
      by_cases last : rest = []
      · simp [last, joinWith]
      · rw [Text.joinWith_cons last, List.flatMap_cons, ← ih]
        simp [namesIn, Text.split_append]

/-- Pieces that are left when some that give no name are dropped. -/
inductive Thinned : List (List Char) → List (List Char) → Prop where
  | nil : Thinned [] []
  | drop {some_pieces pieces : List (List Char)} {piece : List Char} (idle : kept piece = none)
      (thinned : Thinned some_pieces pieces) : Thinned some_pieces (piece :: pieces)
  | keep {some_pieces pieces : List (List Char)} (piece : List Char)
      (thinned : Thinned some_pieces pieces) : Thinned (piece :: some_pieces) (piece :: pieces)

theorem Thinned.sublist (thinned : Thinned some_pieces pieces) : some_pieces.Sublist pieces := by
  induction thinned with
  | nil => exact .slnil
  | drop _ _ ih => exact .cons _ ih
  | keep _ _ ih => exact .cons_cons _ ih

theorem Thinned.append (thinned : Thinned some_pieces pieces) (before : List (List Char)) :
    Thinned (before ++ some_pieces) (before ++ pieces) := by
  induction before with
  | nil => exact thinned
  | cons piece _ ih => exact .keep piece ih

theorem Thinned.flatMap_eq {α : Type} {f : List Char → List α}
    (thinned : Thinned some_pieces pieces) (idle : ∀ piece, kept piece = none → f piece = []) :
    some_pieces.flatMap f = pieces.flatMap f := by
  induction thinned with
  | nil => rfl
  | drop dropped _ ih => rw [List.flatMap_cons, idle _ dropped, List.nil_append, ih]
  | keep _ _ ih => rw [List.flatMap_cons, List.flatMap_cons, ih]

/-- Reading a path leaves the pieces that give names. -/
theorem thinned_filterMap_kept (pieces : List (List Char)) :
    Thinned ((pieces.filterMap kept).map String.toList) pieces := by
  induction pieces with
  | nil => exact .nil
  | cons piece rest ih =>
      cases read : kept piece with
      | none =>
          rw [List.filterMap_cons_none read]
          exact .drop read ih
      | some name =>
          have spelled : name.toList = piece := by
            unfold kept at read
            split at read
            · cases read
            · rw [← Option.some.inj read, String.toList_ofList]
          rw [List.filterMap_cons_some read, List.map_cons, spelled]
          exact .keep piece ih

end Path

namespace Environment

open Text (AtBoundary)
open OpcachePreload.Path (namesIn Thinned)

variable {env : Environment} {text : List Char} {pieces some_pieces : List (List Char)}

/-- Pieces of a text are replaced one by one where no variable is written across a slash; so are
some of them that are left when others are dropped. -/
theorem expandVariables_joinWith (env : Environment) (left : some_pieces.Sublist pieces)
    (free : ∀ piece ∈ pieces, '/' ∉ piece)
    (undivided : ∀ part ∈ parts (joinWith '/' pieces), part.Undivided) :
    env.expandVariables (joinWith '/' some_pieces) =
      joinWith '/' (some_pieces.map env.expandVariables) := by
  induction left with
  | slnil => rfl
  | @cons some_pieces pieces piece left ih =>
      rw [List.forall_mem_cons] at free
      by_cases empty : pieces = []
      · subst empty
        obtain rfl := List.sublist_nil.mp left
        rfl
      · rw [Text.joinWith_cons empty] at undivided
        exact ih free.2 (undivided_of_append_slash free.1 undivided)
  | @cons_cons some_pieces pieces piece left ih =>
      rw [List.forall_mem_cons] at free
      by_cases last : some_pieces = []
      · subst last
        rfl
      · have more : pieces ≠ [] := fun empty => last (List.sublist_nil.mp (empty ▸ left))
        have fewer : '\x7d' ∈ joinWith '/' some_pieces → '\x7d' ∈ joinWith '/' pieces := by
          rw [Text.mem_joinWith (by decide), Text.mem_joinWith (by decide)]
          rintro ⟨piece, kept, present⟩
          exact ⟨piece, left.subset kept, present⟩
        rw [Text.joinWith_cons more] at undivided
        rw [Text.joinWith_cons last, expandVariables_append_slash env free.1 undivided fewer,
          ih free.2 (undivided_of_append_slash free.1 undivided), List.map_cons,
          Text.joinWith_cons (by simpa using last)]

theorem namesIn_expandVariables_of_idle {piece : List Char} (env : Environment)
    (idle : kept piece = none) : namesIn (env.expandVariables piece) = [] := by
  rcases Path.kept_eq_none_iff.mp idle with rfl | rfl <;> rfl

/-- The names are the same whether pieces that give none are dropped before variables are replaced
or after. -/
theorem namesIn_expandVariables_of_thinned (env : Environment)
    (thinned : Thinned some_pieces (split '/' text))
    (undivided : ∀ part ∈ parts text, part.Undivided) :
    namesIn (env.expandVariables (joinWith '/' some_pieces)) =
      namesIn (env.expandVariables text) := by
  have free : ∀ piece ∈ split '/' text, '/' ∉ piece := fun _ => Text.not_mem_of_mem_split
  rw [← Text.joinWith_split '/' text] at undivided
  have whole := expandVariables_joinWith env (List.Sublist.refl _) free undivided
  rw [Text.joinWith_split] at whole
  rw [expandVariables_joinWith env thinned.sublist free undivided, whole, Path.namesIn_joinWith,
    Path.namesIn_joinWith, List.flatMap_map, List.flatMap_map]
  exact thinned.flatMap_eq fun _ => namesIn_expandVariables_of_idle env

/-! ## The text of a path -/

theorem expandVariables_cons {c : Char} (differs : c ≠ '$') (env : Environment) (text : List Char) :
    env.expandVariables (c :: text) = c :: env.expandVariables text := by
  simp [expandVariables, expandFrom, differs]

theorem namesIn_slash (text : List Char) : namesIn ('/' :: text) = namesIn text := by
  simp [namesIn, split, kept]

theorem toList_toString_of_relative {names : List String} (nonempty : names ≠ []) :
    (toString (⟨.relative, names⟩ : Path)).toList = joinWith '/' (names.map String.toList) := by
  simp [toString, Path.toString, PathRoot.text, nonempty, Text.joinWith_eq_intercalate]

/-- The text of a path gives the names that its names give when they are put together. -/
theorem namesIn_expandVariables_toString (env : Environment) (path : Path) :
    namesIn (env.expandVariables (toString path).toList) =
      namesIn (env.expandVariables (joinWith '/' (path.names.map String.toList))) := by
  obtain ⟨root, names⟩ := path
  cases root with
  | relative =>
      cases names with
      | nil => rfl
      | cons first rest => rw [toList_toString_of_relative (List.cons_ne_nil _ _)]
  | slash =>
      simp [toString, Path.toString, PathRoot.text, Text.joinWith_eq_intercalate,
        expandVariables_cons, namesIn_slash]
  | doubleSlash =>
      simp [toString, Path.toString, PathRoot.text, Text.joinWith_eq_intercalate,
        expandVariables_cons, namesIn_slash]

/-! ## Home directories -/

variable {user rest : List Char} {home : String}

theorem expandHome_eq_self (away : text.head? ≠ some '~') : env.expandHome text = text := by
  unfold expandHome
  split
  · simp at away
  · rfl

/-- The name after a tilde ends at the first slash. -/
theorem takeWhile_of_atBoundary (free : '/' ∉ user) (stands : AtBoundary '/' rest) :
    (user ++ rest).takeWhile (· != '/') = user := by
  have none_in : ∀ c ∈ user, (c != '/') = true := fun c present =>
    bne_iff_ne.mpr fun same => free (same ▸ present)
  rw [List.takeWhile_append_of_pos none_in]
  rcases stands with rfl | front
  · simp
  · obtain ⟨more, rfl⟩ := List.head?_eq_some_iff.mp front
    simp

/-- The tilde of a user without a home directory stays. -/
theorem expandHome_of_none (homeless : env.home? user = none) (free : '/' ∉ user)
    (stands : AtBoundary '/' rest) :
    env.expandHome ('~' :: (user ++ rest)) = '~' :: (user ++ rest) := by
  simp only [expandHome, takeWhile_of_atBoundary free stands, homeless]

theorem expandHome_of_some (found : env.home? user = some home) (free : '/' ∉ user)
    (stands : AtBoundary '/' rest) :
    env.expandHome ('~' :: (user ++ rest)) =
      if (bareHome home ++ rest).isEmpty then ['/'] else bareHome home ++ rest := by
  simp only [expandHome, takeWhile_of_atBoundary free stands, found, List.drop_left]

/-- The single slash that stands for an empty home directory gives no name. -/
theorem namesIn_expandHome (found : env.home? user = some home) (free : '/' ∉ user)
    (stands : AtBoundary '/' rest) :
    namesIn (env.expandVariables (env.expandHome ('~' :: (user ++ rest)))) =
      namesIn (env.expandVariables (bareHome home ++ rest)) := by
  rw [expandHome_of_some found free stands]
  split
  · rename_i empty
    rw [List.isEmpty_iff.mp empty]
    rfl
  · rfl

/-! ## Both ways -/

theorem names_path (env : Environment) (text : String) :
    (env.path text).names = namesIn (env.expandVariables (env.expandHome text.toList)) := by
  rw [path, Path.names_ofString, String.toList_ofList]

/-- A text that means the same path when the path is read from it before replacing. -/
structure Regular (env : Environment) (text : String) : Prop where
  /-- No variable is written across a slash. -/
  undivided : ∀ part ∈ parts (env.expandHome text.toList), part.Undivided
  /-- Reading the path brings no tilde to the front. -/
  home : (toString (Path.ofString text)).toList.head? = some '~' → text.toList.head? = some '~'
  /-- Nor does it bring the value of a variable there that starts at another root. -/
  root : (env.path (toString (Path.ofString text))).root = (env.path text).root

/-- How a text that starts with a tilde goes on, and how the text of the path that is read from it
does. They have the first piece in common, which names the user; after it come all other pieces in
one, and those that give names in the other. -/
structure GoesOn (text user rest : List Char) (others some_others : List (List Char))
    (tail : List Char) : Prop where
  written : text = '~' :: (user ++ rest)
  free : '/' ∉ user
  stands : AtBoundary '/' rest
  cut : split '/' rest = [] :: others
  thinned : Thinned some_others others
  tail_stands : AtBoundary '/' tail
  joined : ∀ before, joinWith '/' (split '/' before ++ some_others) = before ++ tail
  whole : (toString (Path.ofString (String.ofList text))).toList = '~' :: (user ++ tail)

theorem exists_goesOn (rest : List Char) :
    ∃ user after others some_others tail,
      GoesOn ('~' :: rest) user after others some_others tail := by
  obtain ⟨user, others, cut⟩ := List.exists_cons_of_ne_nil (Text.split_ne_nil '/' rest)
  obtain ⟨after, stands, joined⟩ := Text.exists_joinWith_split_append '/' others
  obtain ⟨tail, tail_stands, tail_joined⟩ :=
    Text.exists_joinWith_split_append '/' ((others.filterMap kept).map String.toList)
  have free : '/' ∉ user := Text.not_mem_of_mem_split (cut ▸ List.mem_cons_self)
  have rest_eq : rest = user ++ after := by
    rw [← joined, Text.split_of_not_mem free, List.singleton_append, ← cut, Text.joinWith_split]
  have after_cut : split '/' after = [] :: others := by
    obtain ⟨pieces, after_cut⟩ := Text.exists_split_eq_nil_cons_iff.mpr stands
    have same := Text.split_append_of_nil_cons after_cut user
    rw [← rest_eq, cut, Text.split_of_not_mem free] at same
    rw [after_cut, (List.cons.inj same).2]
    rfl
  refine ⟨user, after, others, _, tail, ⟨by rw [rest_eq], free, stands, after_cut,
    Path.thinned_filterMap_kept others, tail_stands, tail_joined, ?_⟩⟩
  have tilde_free : '/' ∉ '~' :: user := by simpa using free
  have read : Path.ofString (String.ofList ('~' :: rest)) =
      ⟨.relative, String.ofList ('~' :: user) :: others.filterMap kept⟩ := by
    have pieces : split '/' ('~' :: rest) = ('~' :: user) :: others := by simp [split, cut]
    have named : kept ('~' :: user) = some (String.ofList ('~' :: user)) := by simp [kept]
    have names : namesIn ('~' :: rest) = String.ofList ('~' :: user) :: others.filterMap kept := by
      rw [namesIn, pieces, List.filterMap_cons_some named]
    rw [← names, Path.ofString, String.toList_ofList]
    rfl
  rw [read, toList_toString_of_relative (List.cons_ne_nil _ _), List.map_cons,
    String.toList_ofList, ← List.cons_append, ← tail_joined, Text.split_of_not_mem tilde_free]
  rfl

/-- Where only variables are replaced, reading the path first drops pieces that give no name. -/
theorem namesIn_expandVariables_ofString {text : String}
    (undivided : ∀ part ∈ parts text.toList, part.Undivided) :
    namesIn (env.expandVariables (toString (Path.ofString text)).toList) =
      namesIn (env.expandVariables text.toList) := by
  rw [namesIn_expandVariables_toString]
  exact namesIn_expandVariables_of_thinned env (Path.thinned_filterMap_kept _) undivided

/-- The names of a path are the same both ways. -/
theorem names_path_toString {text : String}
    (undivided : ∀ part ∈ parts (env.expandHome text.toList), part.Undivided)
    (home : (toString (Path.ofString text)).toList.head? = some '~' →
      text.toList.head? = some '~') :
    (env.path (toString (Path.ofString text))).names = (env.path text).names := by
  rw [names_path, names_path]
  by_cases starts : text.toList.head? = some '~'
  · obtain ⟨rest, spelled⟩ := List.head?_eq_some_iff.mp starts
    obtain ⟨user, after, others, _, tail, on⟩ := exists_goesOn rest
    have whole := on.whole
    rw [← spelled, String.ofList_toList] at whole
    rw [spelled, on.written] at undivided ⊢
    rw [whole]
    cases found : env.home? user with
    | none =>
        -- The tilde stays in front of either, and variables are all that is replaced.
        rw [expandHome_of_none found on.free on.stands] at undivided ⊢
        rw [expandHome_of_none found on.free on.tail_stands, ← whole]
        rw [← on.written, ← spelled] at undivided ⊢
        exact namesIn_expandVariables_ofString undivided
    | some directory =>
        -- The home directory takes the place of the tilde in front of either.
        rw [namesIn_expandHome found on.free on.tail_stands,
          namesIn_expandHome found on.free on.stands, ← on.joined]
        refine namesIn_expandVariables_of_thinned env ?_ ?_
        · rw [Text.split_append_of_nil_cons on.cut]
          exact on.thinned.append _
        · rw [expandHome_of_some found on.free on.stands] at undivided
          split at undivided
          · rename_i empty
            rw [List.isEmpty_iff.mp empty]
            nofun
          · exact undivided
  · rw [expandHome_eq_self starts] at undivided ⊢
    rw [expandHome_eq_self fun front => starts (home front)]
    exact namesIn_expandVariables_ofString undivided

/-- A regular text means the same path when the path is read from it first. -/
theorem Regular.path_eq {text : String} (regular : Regular env text) :
    env.path (toString (Path.ofString text)) = env.path text := by
  have names := names_path_toString regular.undivided regular.home
  have root := regular.root
  generalize env.path (toString (Path.ofString text)) = first at names root ⊢
  obtain ⟨_, _⟩ := first
  subst names root
  rfl

/-- A text in which there is nothing to replace. -/
structure Settled (env : Environment) (text : List Char) : Prop where
  home : env.expandHome text = text
  stands : ∀ part ∈ parts text, part.value env = part.text

/-- A path whose text is settled is what its text means. -/
theorem Settled.path_eq {path : Path} (settled : Settled env (toString path).toList)
    (proper : path.Proper) : env.path (toString path) = path := by
  rw [Environment.path, settled.home, expandVariables_eq_self settled.stands,
    String.ofList_toList]
  exact Path.ofString_toString proper

/-- What a text means is expanded to itself if nothing is left to replace. -/
theorem path_path {text : String} (settled : Settled env (toString (env.path text)).toList) :
    env.path (toString (env.path text)) = env.path text :=
  settled.path_eq (Path.proper_ofString _)

end Environment

end OpcachePreload
