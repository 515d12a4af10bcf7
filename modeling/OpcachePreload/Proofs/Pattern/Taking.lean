import Mathlib.Data.List.Forall2
import OpcachePreload.Proofs.Pattern.Reading
import OpcachePreload.Proofs.Text.Run

/-!
# What patterns take

Whichever of its ways a pattern matches in, what it takes off the front of a text is of a kind that
can be said without matching: a run of characters, a given text, one such text behind another. Where
only one text of the kind can stand, backtracking makes no difference.
-/

namespace OpcachePreload.Pattern

open Text (Run MaximalRun)

/-- Whichever way a pattern matches in, it takes a text of a kind off the front of what is there. -/
def Takes (pattern : Pattern) (kind : List Char → Prop) : Prop :=
  ∀ (cursor : Cursor) (follow : Cursor → Option Cursor) (last : Cursor),
    run pattern cursor follow = some last →
      ∃ (taken : List Char) (next : Cursor), cursor.after = taken ++ next.after ∧ kind taken ∧
        follow next = some last

variable {pattern first second body : Pattern} {kind kind' : List Char → Prop}

theorem Takes.imp (takes : Takes pattern kind) (implies : ∀ taken, kind taken → kind' taken) :
    Takes pattern kind' := by
  intro cursor follow last matched
  obtain ⟨taken, next, split_text, of_kind, matched⟩ := takes _ _ _ matched
  exact ⟨taken, next, split_text, implies taken of_kind, matched⟩

theorem takes_one (set : Charset) :
    Takes (one set) fun taken => ∃ c, set.contains c = true ∧ taken = [c] := by
  rintro ⟨position, before, after, captures⟩ follow last matched
  cases after with
  | nil => cases matched
  | cons c after =>
      rw [run] at matched
      dsimp only at matched
      split at matched
      · rename_i inside
        exact ⟨[c], _, rfl, ⟨c, inside, rfl⟩, matched⟩
      · cases matched

theorem takes_literal (text : String) : Takes (literal text) (· = text.toList) := by
  intro cursor follow last matched
  rw [literal, ← spelling, run_spelling] at matched
  split at matched
  · rename_i starts
    obtain ⟨rest, whole⟩ := List.isPrefixOf_iff_prefix.mp starts
    exact ⟨text.toList, _, by simp [← whole], rfl, matched⟩
  · cases matched

theorem Takes.andThen (takes_first : Takes first kind) (takes_second : Takes second kind') :
    Takes (andThen first second) fun taken =>
      ∃ front back, taken = front ++ back ∧ kind front ∧ kind' back := by
  intro cursor follow last matched
  obtain ⟨front, middle, split_front, of_kind, matched⟩ := takes_first _ _ _ matched
  obtain ⟨back, next, split_back, of_kind', matched⟩ := takes_second _ _ _ matched
  refine ⟨front ++ back, next, ?_, ⟨front, back, rfl, of_kind, of_kind'⟩, matched⟩
  rw [split_front, split_back, List.append_assoc]

/-- What stands in front of a text of some kinds, one after the other. -/
def InOrder : List (List Char → Prop) → List Char → Prop
  | [], text => text = []
  | kind :: kinds, text => ∃ front back, text = front ++ back ∧ kind front ∧ InOrder kinds back

/-- A sequence takes what its patterns take, one after the other. -/
theorem takes_sequence {patterns : List Pattern} {kinds : List (List Char → Prop)}
    (takes : List.Forall₂ Takes patterns kinds) : Takes (sequence patterns) (InOrder kinds) := by
  induction takes with
  | nil => exact fun cursor follow last matched => ⟨[], cursor, rfl, rfl, matched⟩
  | cons takes_first _ ih =>
      intro cursor follow last matched
      rw [run_sequence_cons] at matched
      exact takes_first.andThen ih cursor follow last matched

theorem Takes.group (takes : Takes body kind) (index : Nat) : Takes (group index body) kind := by
  intro cursor follow last matched
  obtain ⟨taken, next, split_text, of_kind, matched⟩ := takes _ _ _ matched
  exact ⟨taken, { next with captures := (index, next.since cursor) :: next.captures }, split_text,
    of_kind, matched⟩

theorem run_optional (body : Pattern) (cursor : Cursor) (follow : Cursor → Option Cursor) :
    run (optional body) cursor follow = (run body cursor follow <|> follow cursor) :=
  rfl

theorem orElse_cases {α : Type} {first second : Option α} {a : α}
    (found : (first <|> second) = some a) : first = some a ∨ second = some a := by
  cases first with
  | none => exact .inr found
  | some b => exact .inl found

theorem Takes.orElse (takes_first : Takes first kind) (takes_second : Takes second kind) :
    Takes (orElse first second) kind := by
  intro cursor follow last matched
  rw [run] at matched
  exact (orElse_cases matched).elim (takes_first _ _ _) (takes_second _ _ _)

/-- What is optional takes what its body takes, or nothing. -/
theorem Takes.optional (takes : Takes body kind) :
    Takes (optional body) fun taken => taken = [] ∨ kind taken := by
  intro cursor follow last matched
  rw [run_optional] at matched
  rcases orElse_cases matched with present | absent
  · obtain ⟨taken, next, split_text, of_kind, matched⟩ := takes _ _ _ present
    exact ⟨taken, next, split_text, .inr of_kind, matched⟩
  · exact ⟨[], cursor, rfl, .inl rfl, absent⟩

/-! ## Any pattern -/

theorem skip_eq_some {folding : Folding} {text : List Char} {cursor next : Cursor}
    (skipped : cursor.skip folding text = some next) :
    ∃ taken, cursor.after = taken ++ next.after := by
  induction text generalizing cursor with
  | nil =>
      obtain rfl := Option.some.inj skipped
      exact ⟨[], rfl⟩
  | cons c text ih =>
      unfold Cursor.skip at skipped
      split at skipped
      · cases skipped
      · rename_i d after there
        split at skipped
        · obtain ⟨taken, split_text⟩ := ih skipped
          exact ⟨d :: taken, there.trans (congrArg (d :: ·) split_text)⟩
        · cases skipped

/-- A repetition goes on with a part of the text left if its body does. -/
theorem exists_of_repeatFrom (takes : Takes body fun _ => True) (repetition : Repetition)
    {follow : Cursor → Option Cursor} {last : Cursor} (fuel count : Nat) (began : Option Nat)
    (cursor : Cursor)
    (matched : repeatFrom (run body) repetition fuel count began cursor follow = some last) :
    ∃ next : Cursor, next.after <:+ cursor.after ∧ follow next = some last := by
  induction fuel generalizing count began cursor with
  | zero => cases matched
  | succ fuel ih =>
      have of_stop (stopped : follow cursor = some last) :
          ∃ next : Cursor, next.after <:+ cursor.after ∧ follow next = some last :=
        ⟨cursor, List.suffix_rfl, stopped⟩
      have of_round {count : Nat} {began : Option Nat}
          (round : run body cursor (repeatFrom (run body) repetition fuel count began · follow) =
            some last) :
          ∃ next : Cursor, next.after <:+ cursor.after ∧ follow next = some last := by
        obtain ⟨taken, middle, split_text, _, matched⟩ := takes _ _ _ round
        obtain ⟨next, suffix, matched⟩ := ih _ _ _ matched
        exact ⟨next, suffix.trans ⟨taken, split_text.symm⟩, matched⟩
      rw [repeatFrom] at matched
      dsimp only at matched
      split at matched
      · exact of_round matched
      split at matched
      · rcases orElse_cases matched with more | stopped
        · split at more
          · exact of_round more
          · cases more
        · exact of_stop stopped
      · rcases orElse_cases matched with stopped | more
        · exact of_stop stopped
        · split at more
          · exact of_round more
          · cases more

/-- No pattern puts back what stands before it. -/
theorem takes_something (pattern : Pattern) : Takes pattern fun _ => True := by
  induction pattern with
  | nothing => exact fun cursor _ _ matched => ⟨[], cursor, rfl, trivial, matched⟩
  | one set => exact (takes_one set).imp fun _ _ => trivial
  | andThen first second takes_first takes_second =>
      exact (takes_first.andThen takes_second).imp fun _ _ => trivial
  | orElse first second takes_first takes_second => exact takes_first.orElse takes_second
  | repeated body repetition takes =>
      intro cursor follow last matched
      obtain ⟨next, ⟨taken, split_text⟩, matched⟩ := exists_of_repeatFrom takes _ _ _ _ _ matched
      exact ⟨taken, next, split_text.symm, trivial, matched⟩
  | group index body takes => exact takes.group index
  | atomic body takes =>
      intro cursor follow last matched
      obtain ⟨found, first_way, matched⟩ := Option.bind_eq_some_iff.mp matched
      obtain ⟨taken, next, split_text, _, same⟩ := takes _ _ _ first_way
      obtain rfl := Option.some.inj same
      exact ⟨taken, next, split_text, trivial, matched⟩
  | anchored anchor =>
      intro cursor follow last matched
      rw [run] at matched
      split at matched
      · exact ⟨[], cursor, rfl, trivial, matched⟩
      · cases matched
  | ahead holds body =>
      intro cursor follow last matched
      rw [run] at matched
      split at matched <;> split at matched
      · exact ⟨[], { cursor with captures := _ }, rfl, trivial, matched⟩
      · cases matched
      · cases matched
      · exact ⟨[], cursor, rfl, trivial, matched⟩
  | behind holds width body =>
      intro cursor follow last matched
      rw [run] at matched
      split at matched <;> split at matched
      · exact ⟨[], { cursor with captures := _ }, rfl, trivial, matched⟩
      · cases matched
      · cases matched
      · exact ⟨[], cursor, rfl, trivial, matched⟩
  | again index folding =>
      intro cursor follow last matched
      obtain ⟨text, _, matched⟩ := Option.bind_eq_some_iff.mp matched
      obtain ⟨next, skipped, matched⟩ := Option.bind_eq_some_iff.mp matched
      obtain ⟨taken, split_text⟩ := skip_eq_some skipped
      exact ⟨taken, next, split_text, trivial, matched⟩
  | whether index yes no takes_yes takes_no =>
      intro cursor follow last matched
      rw [run] at matched
      split at matched
      · exact takes_yes _ _ _ matched
      · exact takes_no _ _ _ matched

/-! ## Runs of characters -/

/-- A repetition of characters takes characters of its set, at most all there are. -/
theorem takes_many (set : Charset) :
    Takes (many (one set)) fun taken => ∀ c ∈ taken, set.contains c = true := by
  rintro ⟨position, before, after, captures⟩ follow last matched
  induction after generalizing position before with
  | nil =>
      rw [(moves_one set).run_many] at matched
      exact ⟨[], _, rfl, by simp, matched⟩
  | cons c after ih =>
      rw [(moves_one set).run_many] at matched
      rcases orElse_cases matched with more | stopped
      · rw [run] at more
        dsimp only at more
        split at more
        · rename_i inside
          obtain ⟨taken, next, split_text, all_inside, matched⟩ := ih _ _ more
          refine ⟨c :: taken, next, ?_, ?_, matched⟩
          · exact congrArg (c :: ·) split_text
          · rintro d (_ | later)
            · exact inside
            · exact all_inside d (by assumption)
        · cases more
      · exact ⟨[], _, rfl, by simp, stopped⟩

/-- With one character at least, it takes a run. -/
theorem takes_many1 (set : Charset) : Takes (many1 (one set)) (Run set.contains) := by
  intro cursor follow last matched
  rw [(moves_one set).run_many1] at matched
  obtain ⟨_, middle, split_first, ⟨c, inside, rfl⟩, matched⟩ := takes_one set _ _ _ matched
  obtain ⟨taken, next, split_text, all_inside, matched⟩ := takes_many set _ _ _ matched
  refine ⟨c :: taken, next, ?_, ⟨by simp, ?_⟩, matched⟩
  · rw [split_first, split_text]
    rfl
  · rintro d (_ | later)
    · exact inside
    · exact all_inside d (by assumption)

theorem refuses_one {set : Charset} {text : List Char}
    (ends : ∀ c ∈ text.head?, set.contains c = false) : Refuses (one set) text := by
  cases text with
  | nil => exact fun _ _ _ _ => rfl
  | cons c rest => exact refuses_one_cons (ends c rfl) rest

theorem refuses_many1 {set : Charset} {text : List Char}
    (ends : ∀ c ∈ text.head?, set.contains c = false) : Refuses (many1 (one set)) text := by
  intro position before captures follow
  rw [(moves_one set).run_many1]
  exact refuses_one ends _ _ _ _

/-- A repetition of characters takes all characters of its set that stand there. -/
theorem reads_many {set : Charset} {run rest : List Char}
    (inside : ∀ c ∈ run, set.contains c = true)
    (ends : ∀ c ∈ rest.head?, set.contains c = false) : Reads (many (one set)) run rest [] := by
  have reads_piece (piece behind : List Char) (among : piece ∈ run.map fun c => [c]) :
      Reads (one set) piece (behind ++ rest) [] := by
    obtain ⟨c, member, rfl⟩ := List.mem_map.mp among
    exact reads_one (inside c member) _
  have reads_pieces := (moves_one set).reads_many (refuses_one ends) _ reads_piece
  rwa [← List.flatMap_def, List.flatMap_singleton'] at reads_pieces

/-- A run that does not go on is taken as a whole. -/
theorem reads_many1 {set : Charset} {run rest : List Char}
    (maximal : MaximalRun set.contains run rest) : Reads (many1 (one set)) run rest [] := by
  obtain ⟨c, more, rfl⟩ := List.exists_cons_of_ne_nil maximal.nonempty
  intro position before captures follow last follows
  rw [(moves_one set).run_many1]
  have first_inside := maximal.inside c List.mem_cons_self
  have more_inside : ∀ d ∈ more, set.contains d = true :=
    fun d later => maximal.inside d (List.mem_cons_of_mem _ later)
  refine reads_one first_inside (more ++ rest) position before captures _ last ?_
  refine reads_many more_inside maximal.ends _ _ _ _ _ ?_
  simpa [Nat.add_assoc, Nat.add_comm 1] using follows

end OpcachePreload.Pattern
