import OpcachePreload.Proofs.Pattern.Literal

/-!
# Reading with patterns

How a pattern takes a given text off the front of what it is tried on: in its preferred way, so that
whatever follows it there is the result. A greedy repetition of a body that moves forward is the
body once more and the repetition again, or else nothing.
-/

namespace OpcachePreload.Pattern

/-! ## Repetitions -/

/-- A pattern that ends later than it starts, and nearer to the end of the text. -/
def Moves (pattern : Pattern) : Prop :=
  ∀ (cursor : Cursor) (follow other : Cursor → Option Cursor),
    (∀ next : Cursor, cursor.position < next.position →
      next.after.length < cursor.after.length → follow next = other next) →
    run pattern cursor follow = run pattern cursor other

theorem moves_one (set : Charset) : Moves (one set) := by
  rintro ⟨position, before, after, captures⟩ follow other same
  cases after with
  | nil => rfl
  | cons c after =>
      simp only [run]
      split
      · exact same _ (Nat.lt_succ_self position) (Nat.lt_succ_self after.length)
      · rfl

theorem Moves.andThen {first second : Pattern} (moves_first : Moves first)
    (moves_second : Moves second) : Moves (andThen first second) := by
  intro cursor follow other same
  refine moves_first cursor _ _ fun between later nearer => ?_
  refine moves_second between _ _ fun next later' nearer' => ?_
  exact same next (Nat.lt_trans later later') (Nat.lt_trans nearer' nearer)

theorem Moves.orElse {left right : Pattern} (moves_left : Moves left)
    (moves_right : Moves right) : Moves (orElse left right) := by
  intro cursor follow other same
  rw [run, run, moves_left cursor _ _ same, moves_right cursor _ _ same]

/-- How often a body that moves has been repeated makes no difference once that is often enough, nor
does where the round before began, nor the fuel if there is enough. -/
theorem Moves.repeatFrom_eq {body : Pattern} (moves : Moves body)
    (follow : Cursor → Option Cursor) {least least' : Nat} :
    ∀ (fuel fuel' count count' : Nat) (last last' : Option Nat) (cursor : Cursor),
      cursor.after.length < fuel → cursor.after.length < fuel' →
      least ≤ count → least' ≤ count' →
      last ≠ some cursor.position → last' ≠ some cursor.position →
      repeatFrom (run body) ⟨least, none, .greedy⟩ fuel count last cursor follow =
        repeatFrom (run body) ⟨least', none, .greedy⟩ fuel' count' last' cursor follow := by
  intro fuel
  induction fuel with
  | zero => exact fun _ _ _ _ _ _ enough => absurd enough (Nat.not_lt_zero _)
  | succ fuel ih =>
      intro fuel' count count' last last' cursor enough enough' often often' moved moved'
      cases fuel' with
      | zero => exact absurd enough' (Nat.not_lt_zero _)
      | succ fuel' =>
          simp only [repeatFrom, Nat.not_lt.mpr often, Nat.not_lt.mpr often', if_false,
            Repetition.allows, Option.all_none, Bool.true_and, bne_iff_ne.mpr moved,
            bne_iff_ne.mpr moved', if_true]
          congr 1
          refine moves cursor _ _ fun next later nearer => ?_
          have began : some cursor.position ≠ some next.position := by
            simpa using Nat.ne_of_lt later
          exact ih fuel' _ _ _ _ next (by omega) (by omega) (by omega) (by omega) began began

/-- A body that moves is repeated once more if that lets what follows succeed. -/
theorem Moves.run_many {body : Pattern} (moves : Moves body) (cursor : Cursor)
    (follow : Cursor → Option Cursor) :
    run (many body) cursor follow =
      (run body cursor (fun next => run (many body) next follow) <|> follow cursor) := by
  conv => lhs; unfold many run
  simp only [Nat.zero_add]
  rw [repeatFrom]
  simp only [Nat.not_lt_zero, if_false, Repetition.allows, Option.all_none, Bool.true_and]
  simp only [show ((none : Option Nat) != some cursor.position) = true from rfl, if_true]
  congr 1
  refine moves cursor _ _ fun next later nearer => ?_
  have began : some cursor.position ≠ some next.position := by
    simpa using Nat.ne_of_lt later
  exact moves.repeatFrom_eq follow _ _ _ _ _ _ next (by omega) (by simp) (by simp) (by simp) began
    (by simp)

/-- A body that has to be repeated once at least is read, and then repeated as often as possible. -/
theorem Moves.run_many1 {body : Pattern} (moves : Moves body) (cursor : Cursor)
    (follow : Cursor → Option Cursor) :
    run (many1 body) cursor follow =
      run body cursor fun next => run (many body) next follow := by
  conv => lhs; unfold many1 run
  have enough : 1 + cursor.after.length + 2 = cursor.after.length + 2 + 1 := by omega
  rw [enough, repeatFrom]
  simp only [Nat.zero_lt_one, if_true]
  refine moves cursor _ _ fun next _ nearer => ?_
  conv => rhs; unfold many run
  exact moves.repeatFrom_eq follow _ _ _ _ _ _ next (by omega) (by omega) (by simp) (by simp)
    (by simp) (by simp)

/-! ## Refusing -/

/-- A pattern that does not match in front of a text. -/
def Refuses (pattern : Pattern) (text : List Char) : Prop :=
  ∀ (position : Nat) (before : List Char) (captures : List (Nat × List Char))
    (follow : Cursor → Option Cursor), run pattern ⟨position, before, text, captures⟩ follow = none

theorem refuses_one_cons {set : Charset} {c : Char} (outside : set.contains c = false)
    (rest : List Char) : Refuses (one set) (c :: rest) := by
  intro position before captures follow
  simp [run, outside]

theorem refuses_literal (text : String) {after : List Char}
    (differs : text.toList.isPrefixOf after = false) : Refuses (literal text) after := by
  intro position before captures follow
  exact (run_spelling text.toList _ follow).trans (if_neg (by simp [differs]))

theorem Refuses.andThen {first : Pattern} {text : List Char} (refuses : Refuses first text)
    (second : Pattern) : Refuses (andThen first second) text :=
  fun position before captures _ => refuses position before captures _

theorem Refuses.orElse {left right : Pattern} {text : List Char} (refuses_left : Refuses left text)
    (refuses_right : Refuses right text) : Refuses (orElse left right) text := by
  intro position before captures follow
  rw [run, refuses_left, refuses_right]
  rfl

/-! ## Reading -/

/-- In its preferred way, a pattern takes a text off the front of what is there, and its groups
capture. -/
def Reads (pattern : Pattern) (taken rest : List Char) (captured : List (Nat × List Char)) : Prop :=
  ∀ (position : Nat) (before : List Char) (captures : List (Nat × List Char))
    (follow : Cursor → Option Cursor) (last : Cursor),
    follow ⟨position + taken.length, taken.reverse ++ before, rest, captured ++ captures⟩ =
      some last →
    run pattern ⟨position, before, taken ++ rest, captures⟩ follow = some last

/-- Patterns that take pieces of a text, one after the other up to a rest. -/
inductive ReadsAll (rest : List Char) :
    List Pattern → List (List Char) → List (List (Nat × List Char)) → Prop
  | nil : ReadsAll rest [] [] []
  | cons {pattern : Pattern} {patterns : List Pattern} {taken : List Char}
      {pieces : List (List Char)} {captured : List (Nat × List Char)}
      {others : List (List (Nat × List Char))}
      (reads_first : Reads pattern taken (pieces.flatten ++ rest) captured)
      (reads_others : ReadsAll rest patterns pieces others) :
      ReadsAll rest (pattern :: patterns) (taken :: pieces) (captured :: others)

theorem orElse_of_eq_some {α : Type} {first : Option α} {a : α} (found : first = some a)
    (second : Option α) : (first <|> second) = some a := by
  rw [found]
  rfl

variable {pattern first second left right body : Pattern} {taken taken' rest : List Char}
  {captured captured' : List (Nat × List Char)}

theorem reads_one {set : Charset} {c : Char} (inside : set.contains c = true) (rest : List Char) :
    Reads (one set) [c] rest [] := by
  intro position before captures follow last follows
  simpa [run, inside] using follows

theorem reads_spelling (text rest : List Char) : Reads (spelling text) text rest [] := by
  intro position before captures follow last follows
  rw [run_spelling]
  simpa using follows

theorem reads_literal (text : String) (rest : List Char) :
    Reads (literal text) text.toList rest [] :=
  reads_spelling text.toList rest

theorem Reads.andThen (reads_first : Reads first taken (taken' ++ rest) captured)
    (reads_second : Reads second taken' rest captured') :
    Reads (andThen first second) (taken ++ taken') rest (captured' ++ captured) := by
  intro position before captures follow last follows
  rw [run, List.append_assoc]
  refine reads_first _ _ _ _ _ (reads_second _ _ _ _ _ ?_)
  simpa [Nat.add_assoc] using follows

/-- A sequence takes what its patterns take; the latest capture comes first. -/
theorem ReadsAll.reads_sequence {patterns : List Pattern} {pieces : List (List Char)}
    {captures : List (List (Nat × List Char))} (reads : ReadsAll rest patterns pieces captures) :
    Reads (sequence patterns) pieces.flatten rest captures.reverse.flatten := by
  induction reads with
  | nil => exact fun _ _ _ _ _ follows => follows
  | cons reads_first reads_others ih =>
      intro position before captures follow last follows
      rw [run_sequence_cons]
      refine (reads_first.andThen ih) position before captures follow last ?_
      simpa using follows

theorem Reads.orElse_left (reads : Reads left taken rest captured) (right : Pattern) :
    Reads (orElse left right) taken rest captured := by
  intro position before captures follow last follows
  rw [run, reads position before captures follow last follows]
  rfl

theorem Reads.orElse_right (refuses : Refuses left (taken ++ rest))
    (reads : Reads right taken rest captured) : Reads (orElse left right) taken rest captured := by
  intro position before captures follow last follows
  rw [run, refuses, reads position before captures follow last follows]
  rfl

/-- A group captures what its body takes. -/
theorem Reads.group (reads : Reads body taken rest captured) (index : Nat) :
    Reads (group index body) taken rest ((index, taken) :: captured) := by
  intro position before captures follow last follows
  refine reads _ _ _ _ _ ?_
  simpa [Cursor.since] using follows

/-- A repetition takes one piece after the other up to where its body refuses. -/
theorem Moves.reads_many (moves : Moves body) (refuses : Refuses body rest) :
    ∀ pieces : List (List Char),
      (∀ (piece : List Char) (behind : List Char), piece ∈ pieces →
        Reads body piece (behind ++ rest) []) →
      Reads (many body) pieces.flatten rest [] := by
  intro pieces
  induction pieces with
  | nil =>
      intro _ position before captures follow last follows
      rw [moves.run_many]
      simp only [List.flatten_nil, List.nil_append]
      rw [refuses]
      exact follows
  | cons piece pieces ih =>
      intro reads position before captures follow last follows
      rw [moves.run_many, List.flatten_cons, List.append_assoc]
      refine orElse_of_eq_some ?_ _
      refine reads piece _ (by simp) _ _ _ _ _ ?_
      refine ih (fun other behind later => reads other behind (by simp [later])) _ _ _ _ _ ?_
      simpa [Nat.add_assoc] using follows

/-- An optional part is taken if it is there. -/
theorem Reads.optional (reads : Reads body taken rest captured) :
    Reads (optional body) taken rest captured := by
  intro position before captures follow last follows
  rw [Pattern.optional, run, repeatFrom]
  refine orElse_of_eq_some ?_ _
  exact reads position before captures _ last follows

theorem Refuses.reads_optional (refuses : Refuses body rest) :
    Reads (optional body) [] rest [] := by
  intro position before captures follow last follows
  rw [Pattern.optional, run, repeatFrom]
  change (run body ⟨position, before, rest, captures⟩ _ <|> follow _) = some last
  rw [refuses]
  exact follows

/-! ## Searching -/

/-- What a pattern reads is its match. -/
theorem Reads.matchAt (reads : Reads pattern taken rest captured) (position : Nat)
    (before : List Char) :
    matchAt pattern false ⟨position, before, taken ++ rest, []⟩ =
      some ⟨⟨position, before, taken ++ rest, []⟩,
        ⟨position + taken.length, taken.reverse ++ before, rest, captured⟩⟩ := by
  have ends := reads position before [] some _ rfl
  rw [List.append_nil] at ends
  rw [Pattern.matchAt]
  change (run pattern _ some).map _ = _
  rw [ends]
  rfl

/-- A match right here is the leftmost one. -/
theorem findFrom_of_matchAt {moving : Bool} {position : Nat} {before after : List Char}
    {found : Match} (matched : matchAt pattern moving ⟨position, before, after, []⟩ = some found) :
    findFrom pattern moving position before after = some found := by
  cases after with
  | nil => exact matched
  | cons c rest =>
      rw [findFrom, matched]
      rfl

end OpcachePreload.Pattern
