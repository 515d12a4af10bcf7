import OpcachePreload.Proofs.Pattern.Taking

/-!
# Patterns that cover others

A pattern covers another one if it matches wherever that one does and leaves the same text, in one
of its ways at least. What the two capture, and where in the text they stand, makes no difference.
-/

namespace OpcachePreload.Pattern

/-- Where something goes on, something else goes on with the same text left. -/
def Admits (follow other : Cursor → Option Cursor) : Prop :=
  ∀ cursor cursor' : Cursor, cursor.after = cursor'.after →
    (follow cursor).isSome = true → (other cursor').isSome = true

/-- The second pattern matches wherever the first one does, with the same text left. -/
def CoveredBy (first second : Pattern) : Prop :=
  ∀ follow other : Cursor → Option Cursor, Admits follow other →
    ∀ cursor cursor' : Cursor, cursor.after = cursor'.after →
      (run first cursor follow).isSome = true → (run second cursor' other).isSome = true

theorem isSome_orElse {α : Type} (first second : Option α) :
    (first <|> second).isSome = (first.isSome || second.isSome) := by
  cases first <;> rfl

variable {first second first' second' body body' other : Pattern}

theorem coveredBy_one (set : Charset) : CoveredBy (one set) (one set) := by
  rintro follow other admits ⟨position, before, after, captures⟩ cursor' rfl matched
  cases there : cursor'.after with
  | nil => simp [run, there] at matched
  | cons c after =>
      simp only [run, there] at matched ⊢
      cases inside : set.contains c with
      | false => simp [inside] at matched
      | true =>
          rw [if_pos inside] at matched
          exact admits _ _ (by rfl) matched

theorem CoveredBy.andThen (covered : CoveredBy first first') (covered' : CoveredBy second second') :
    CoveredBy (andThen first second) (andThen first' second') :=
  fun _ _ admits => covered _ _ (covered' _ _ admits)

/-- Sequences are covered pattern by pattern. -/
theorem coveredBy_sequence {patterns patterns' : List Pattern}
    (covered : List.Forall₂ CoveredBy patterns patterns') :
    CoveredBy (sequence patterns) (sequence patterns') := by
  induction covered with
  | nil => exact fun _ _ admits _ _ same => admits _ _ same
  | cons covered_first _ ih =>
      intro follow other admits
      simp only [run_sequence_cons]
      exact covered_first _ _ (ih _ _ admits)

theorem coveredBy_literal (text : String) : CoveredBy (literal text) (literal text) := by
  refine coveredBy_sequence (List.forall₂_same.mpr fun pattern listed => ?_)
  obtain ⟨c, _, rfl⟩ := List.mem_map.mp listed
  exact coveredBy_one _

theorem CoveredBy.orElse (covered : CoveredBy first first') (covered' : CoveredBy second second') :
    CoveredBy (orElse first second) (orElse first' second') := by
  intro follow other admits cursor cursor' same matched
  simp only [run, isSome_orElse, Bool.or_eq_true] at matched ⊢
  exact matched.imp (covered _ _ admits _ _ same) (covered' _ _ admits _ _ same)

/-- Two alternatives before something else are covered if each of them is. -/
theorem coveredBy_of_orElse (covered : CoveredBy (.andThen first other) second)
    (covered' : CoveredBy (.andThen first' other) second) :
    CoveredBy (.andThen (.orElse first first') other) second := by
  intro follow next admits cursor cursor' same matched
  simp only [run, isSome_orElse, Bool.or_eq_true] at matched
  exact matched.elim (covered _ _ admits _ _ same) (covered' _ _ admits _ _ same)

theorem CoveredBy.optional (covered : CoveredBy body body') :
    CoveredBy (optional body) (optional body') := by
  intro follow other admits cursor cursor' same matched
  simp only [run_optional, isSome_orElse, Bool.or_eq_true] at matched ⊢
  exact matched.imp (covered _ _ admits _ _ same) (admits _ _ same)

/-- An optional part may be there. -/
theorem CoveredBy.given (covered : CoveredBy first second) :
    CoveredBy first (.optional second) := by
  intro follow other admits cursor cursor' same matched
  simp only [run_optional, isSome_orElse, Bool.or_eq_true]
  exact .inl (covered _ _ admits _ _ same matched)

/-- An optional part may be missing. -/
theorem CoveredBy.missing (covered : CoveredBy first second) (body : Pattern) :
    CoveredBy first (.andThen (.optional body) second) := by
  intro follow other admits cursor cursor' same matched
  simp only [run, run_optional, isSome_orElse, Bool.or_eq_true]
  exact .inr (covered _ _ admits _ _ same matched)

/-- A group only captures. -/
theorem CoveredBy.group (covered : CoveredBy first second) (index : Nat) :
    CoveredBy first (group index second) := by
  intro follow other admits cursor cursor' same matched
  rw [run]
  refine covered follow _ ?_ _ _ same matched
  exact fun _ _ same => admits _ _ same

/-- A condition behind a pattern only restricts it. -/
theorem CoveredBy.restricted (covered : CoveredBy first second) (anchor : Anchor) :
    CoveredBy (.andThen first (anchored anchor)) second := by
  intro follow other admits cursor cursor' same matched
  refine covered _ _ ?_ _ _ same matched
  intro next next' same found
  cases holds : anchor.holds next with
  | false => simp [run, holds] at found
  | true =>
      simp only [run, holds, if_true] at found
      exact admits _ _ same found

/-- The last patterns of a sequence may be taken together with what follows it. -/
theorem coveredBy_of_append {patterns others : List Pattern}
    (covered : CoveredBy (sequence (patterns ++ [.andThen (sequence others) other])) second) :
    CoveredBy (.andThen (sequence (patterns ++ others)) other) second := by
  intro follow next admits cursor cursor' same matched
  rw [run, run_sequence_append] at matched
  refine covered follow next admits _ _ same ?_
  rw [run_sequence_append]
  exact matched

theorem coveredBy_many (set : Charset) : CoveredBy (many (one set)) (many (one set)) := by
  rintro follow other admits ⟨position, before, after, captures⟩ ⟨position', before', _, captures'⟩
    rfl matched
  induction after generalizing position before position' before' with
  | nil =>
      rw [(moves_one set).run_many, isSome_orElse, Bool.or_eq_true] at matched ⊢
      rcases matched with more | stopped
      · cases more
      · exact .inr (admits _ _ (by rfl) stopped)
  | cons c after ih =>
      rw [(moves_one set).run_many, isSome_orElse, Bool.or_eq_true] at matched ⊢
      rcases matched with more | stopped
      · left
        simp only [run] at more ⊢
        cases inside : set.contains c with
        | false => simp [inside] at more
        | true =>
            rw [if_pos inside] at more
            exact ih _ _ _ _ more
      · exact .inr (admits _ _ (by rfl) stopped)

theorem coveredBy_many1 (set : Charset) : CoveredBy (many1 (one set)) (many1 (one set)) := by
  intro follow other admits
  simp only [(moves_one set).run_many1]
  exact coveredBy_one set _ _ (coveredBy_many set _ _ admits)

theorem coveredBy_lastLineEnd : CoveredBy (anchored .lastLineEnd) (anchored .lastLineEnd) := by
  intro follow other admits cursor cursor' same matched
  have alike : Anchor.lastLineEnd.holds cursor = Anchor.lastLineEnd.holds cursor' := by
    simp only [Anchor.holds, same]
  rw [run, alike] at matched
  rw [run]
  cases ended : Anchor.lastLineEnd.holds cursor' with
  | false => simp [ended] at matched
  | true =>
      rw [if_pos ended] at matched
      exact admits _ _ same matched

end OpcachePreload.Pattern
