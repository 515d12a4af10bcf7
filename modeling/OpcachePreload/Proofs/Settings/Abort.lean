import OpcachePreload.Proofs.Settings.Accepted

/-!
# Checks that are given up

A check of settings is given up, instead of being made to its end, for one cause only: a pattern
among those to leave out or to preload in which a count is too large. Of several such patterns the
first counts.
-/

namespace OpcachePreload.Settings

namespace Checked

variable {α β : Type}

/-- The pattern for which a check is given up, and why it is rejected. -/
def aborted? : Checked α → Option (String × Pattern.Rejection)
  | aborted pattern rejection => some (pattern, rejection)
  | valid _ | invalid _ => none

theorem eq_aborted_iff {checked : Checked α} {pattern : String} {rejection : Pattern.Rejection} :
    checked = .aborted pattern rejection ↔ checked.aborted? = some (pattern, rejection) := by
  cases checked <;> simp [aborted?]

@[simp]
theorem aborted?_misfit (reason : Misfit) : (misfit reason : Checked α).aborted? = none := rfl

@[simp]
theorem aborted?_map (f : α → β) (checked : Checked α) :
    (f <$> checked).aborted? = checked.aborted? := by
  change (map f checked).aborted? = _
  cases checked <;> rfl

/-- What is checked first counts. -/
@[simp]
theorem aborted?_seq (change : Checked (α → β)) (checked : Checked α) :
    (change <*> checked).aborted? = change.aborted?.or checked.aborted? := by
  change (both change checked).aborted? = _
  cases change <;> cases checked <;> rfl

@[simp]
theorem aborted?_within (step : String) (checked : Checked α) :
    (checked.within step).aborted? = checked.aborted? := by
  cases checked <;> rfl

theorem aborted?_all {checks : List (Checked α)}
    (none_aborted : ∀ check ∈ checks, check.aborted? = none) :
    (all checks).aborted? = none := by
  induction checks with
  | nil => rfl
  | cons first rest ih =>
      obtain ⟨first_finishes, rest_finish⟩ := List.forall_mem_cons.mp none_aborted
      rw [all, aborted?_seq, aborted?_map, first_finishes, ih rest_finish]
      rfl

end Checked

open Checked

/-! ## Checks that are never given up -/

theorem aborted?_text (value : Value) : (text value).aborted? = none := by
  cases value with
  | bytes bytes =>
      simp only [text]
      cases Text.Utf8.decode bytes <;> rfl
  | _ => rfl

theorem aborted?_textOrNothing (value : Value) : (textOrNothing value).aborted? = none := by
  unfold textOrNothing
  split
  · rfl
  · rw [aborted?_map, aborted?_text]

theorem aborted?_texts (value : Value) : (texts value).aborted? = none := by
  have items_finish (items : List Value) :
      (Checked.all (items.zipIdx.map fun item => (text item.1).within (toString item.2))).aborted? =
        none := by
    apply aborted?_all
    rintro _ listed
    obtain ⟨item, _, rfl⟩ := List.mem_map.mp listed
    rw [aborted?_within, aborted?_text]
  cases value with
  | list items => exact items_finish items
  | set items => exact items_finish items
  | _ => rfl

theorem aborted?_path (value : Value) : (path value).aborted? = none := by
  cases value <;> rfl

theorem aborted?_expandedPath (env : Environment) (value : Value) :
    (expandedPath env value).aborted? = none := by
  cases value <;> rfl

theorem aborted?_wordTruth (word : String) : (wordTruth word).aborted? = none := by
  simp only [wordTruth]
  split
  · rfl
  · split <;> rfl

theorem aborted?_truth (value : Value) : (truth value).aborted? = none := by
  cases value with
  | int n =>
      simp only [truth, numberTruth]
      split
      · rfl
      · split
        · rfl
        · split <;> rfl
  | float x =>
      simp only [truth]
      split
      · rfl
      · split <;> rfl
  | text word => exact aborted?_wordTruth word
  | bytes bytes =>
      simp only [truth]
      cases Text.Utf8.decode bytes with
      | ok word => exact aborted?_wordTruth _
      | error malformed => rfl
  | _ => rfl

theorem aborted?_hostKind (value : Value) : (hostKind value).aborted? = none := by
  cases value with
  | text name =>
      simp only [hostKind]
      cases HostKind.ofName? name <;> rfl
  | _ => rfl

section

variable {α : Type} {check : Value → Checked α}

theorem aborted?_field (entries : List (Value × Value)) (name : String) (check : Value → Checked α)
    (usual : α) :
    (field entries name check usual).aborted? =
      (Value.field? entries name).bind fun value => (check value).aborted? := by
  unfold field
  cases Value.field? entries name with
  | none => rfl
  | some value => exact aborted?_within name (check value)

/-- A field whose check is never given up. -/
theorem aborted?_field_of_finishes (finishes : ∀ value, (check value).aborted? = none)
    (entries : List (Value × Value)) (name : String) (usual : α) :
    (field entries name check usual).aborted? = none := by
  rw [aborted?_field]
  cases Value.field? entries name with
  | none => rfl
  | some value => exact finishes value

end

theorem aborted?_noOthers (names : List String) (entries : List (Value × Value)) :
    (noOthers names entries).aborted? = none := by
  simp only [noOthers]
  split <;> rfl

theorem aborted?_group {α : Type} {ofEntries : List (Value × Value) → Checked α}
    (finishes : ∀ entries, (ofEntries entries).aborted? = none) (value : Value) :
    (group ofEntries value).aborted? = none := by
  cases value with
  | mapping entries => exact finishes entries
  | _ => rfl

theorem Scan.aborted?_ofEntries (entries : List (Value × Value)) :
    (Scan.ofEntries entries).aborted? = none := by
  simp [Scan.ofEntries, aborted?_field_of_finishes aborted?_texts, aborted?_noOthers]

theorem Loader.aborted?_ofEntries (entries : List (Value × Value)) :
    (Loader.ofEntries entries).aborted? = none := by
  simp [Loader.ofEntries, aborted?_field_of_finishes aborted?_hostKind,
    aborted?_field_of_finishes aborted?_text, aborted?_field_of_finishes aborted?_textOrNothing,
    aborted?_field_of_finishes aborted?_path, aborted?_field_of_finishes aborted?_truth,
    aborted?_noOthers]

/-! ## Patterns with counts that are too large -/

theorem firstRejected_eq_some_iff {list : List String} {pattern : String}
    {rejection : Pattern.Rejection} :
    firstRejected list = some (pattern, rejection) ↔
      ∃ before after, list = before ++ pattern :: after ∧
        (∀ earlier ∈ before, ∃ compiled, Pattern.compile earlier = .ok compiled) ∧
        Pattern.compile pattern = .error rejection := by
  induction list with
  | nil => simp [firstRejected]
  | cons first rest ih =>
      unfold firstRejected
      cases compiles : Pattern.compile first with
      | ok compiled =>
          simp only [ih]
          constructor
          · rintro ⟨before, after, rfl, earlier, rejected⟩
            exact ⟨first :: before, after, rfl,
              List.forall_mem_cons.mpr ⟨⟨compiled, compiles⟩, earlier⟩, rejected⟩
          · rintro ⟨before, after, split, earlier, rejected⟩
            cases before with
            | nil =>
                obtain rfl := (List.cons.inj split).1
                simp [compiles] at rejected
            | cons _ before =>
                obtain ⟨rfl, rfl⟩ := List.cons.inj split
                exact ⟨before, after, rfl, (List.forall_mem_cons.mp earlier).2, rejected⟩
      | error why =>
          simp only [Option.some.injEq, Prod.mk.injEq]
          constructor
          · rintro ⟨rfl, rfl⟩
            exact ⟨[], rest, rfl, by simp, compiles⟩
          · rintro ⟨before, after, split, earlier, rejected⟩
            cases before with
            | nil =>
                obtain rfl := (List.cons.inj split).1
                exact ⟨rfl, Except.error.inj (compiles.symm.trans rejected)⟩
            | cons _ before =>
                obtain ⟨rfl, _⟩ := List.cons.inj split
                obtain ⟨compiled, accepted⟩ := earlier first List.mem_cons_self
                simp [compiles] at accepted

/-- A field holds texts of which the first that is no pattern is rejected for a count that is too
large. -/
def Uncountable (entries : List (Value × Value)) (name pattern : String) : Prop :=
  ∃ value before after, Value.field? entries name = some value ∧
    texts value = .valid (before ++ pattern :: after) ∧
    (∀ earlier ∈ before, ∃ compiled, Pattern.compile earlier = .ok compiled) ∧
    Pattern.compile pattern = .error .countTooLarge

theorem aborted?_patterns_eq_some_iff {value : Value} {pattern : String}
    {rejection : Pattern.Rejection} :
    (patterns value).aborted? = some (pattern, rejection) ↔
      rejection = .countTooLarge ∧
        ∃ before after, texts value = .valid (before ++ pattern :: after) ∧
        (∀ earlier ∈ before, ∃ compiled, Pattern.compile earlier = .ok compiled) ∧
        Pattern.compile pattern = .error .countTooLarge := by
  have given_up : (patterns value).aborted? = some (pattern, rejection) ↔
      rejection = .countTooLarge ∧ ∃ list, texts value = .valid list ∧
        firstRejected list = some (pattern, .countTooLarge) := by
    have finishes := aborted?_texts value
    unfold patterns
    cases found : texts value with
    | aborted other why =>
        rw [found] at finishes
        cases finishes
    | invalid faults => simp [aborted?]
    | valid list =>
        dsimp only
        rcases rejected : firstRejected list with _ | ⟨other, why⟩
        · simp [aborted?, rejected]
        · cases why <;> simp [aborted?, rejected, misfit, and_comm, eq_comm]
  rw [given_up]
  refine and_congr_right fun _ => ?_
  constructor
  · rintro ⟨_, listed, rejected⟩
    obtain ⟨before, after, rfl, earlier, why⟩ := firstRejected_eq_some_iff.mp rejected
    exact ⟨before, after, listed, earlier, why⟩
  · rintro ⟨before, after, listed, earlier, why⟩
    exact ⟨_, listed, firstRejected_eq_some_iff.mpr ⟨before, after, rfl, earlier, why⟩⟩

theorem aborted?_field_patterns_eq_some_iff {entries : List (Value × Value)} {name pattern : String}
    {rejection : Pattern.Rejection} {usual : List String} :
    (field entries name patterns usual).aborted? = some (pattern, rejection) ↔
      rejection = .countTooLarge ∧ Uncountable entries name pattern := by
  simp only [aborted?_field, Option.bind_eq_some_iff, aborted?_patterns_eq_some_iff, Uncountable]
  constructor
  · rintro ⟨value, given, why, before, after, rest⟩
    exact ⟨why, value, before, after, given, rest⟩
  · rintro ⟨why, value, before, after, given, rest⟩
    exact ⟨value, given, why, before, after, rest⟩

theorem aborted?_ofEntries (env : Environment) (entries : List (Value × Value)) :
    (ofEntries env entries).aborted? =
      (field entries "exclude" patterns []).aborted?.or
        (field entries "preload" patterns []).aborted? := by
  simp [ofEntries, aborted?_field_of_finishes (aborted?_expandedPath env),
    aborted?_field_of_finishes (aborted?_group Scan.aborted?_ofEntries),
    aborted?_field_of_finishes aborted?_texts,
    aborted?_field_of_finishes (aborted?_group Loader.aborted?_ofEntries)]

/-- Settings are given up exactly for a pattern with a count that is too large. Those to leave out
are looked at before those to preload. -/
theorem ofEntries_eq_aborted_iff {env : Environment} {entries : List (Value × Value)}
    {pattern : String} {rejection : Pattern.Rejection} :
    ofEntries env entries = .aborted pattern rejection ↔
      rejection = .countTooLarge ∧
        (Uncountable entries "exclude" pattern ∨
          (∀ other, ¬Uncountable entries "exclude" other) ∧
            Uncountable entries "preload" pattern) := by
  have none_iff : (field entries "exclude" patterns []).aborted? = none ↔
      ∀ other, ¬Uncountable entries "exclude" other := by
    rw [Option.eq_none_iff_forall_ne_some]
    constructor
    · intro finishes other uncountable
      exact finishes (other, .countTooLarge)
        (aborted?_field_patterns_eq_some_iff.mpr ⟨rfl, uncountable⟩)
    · rintro none_uncountable ⟨other, why⟩ given_up
      exact none_uncountable other (aborted?_field_patterns_eq_some_iff.mp given_up).2
  rw [eq_aborted_iff, aborted?_ofEntries, Option.or_eq_some_iff, none_iff,
    aborted?_field_patterns_eq_some_iff, aborted?_field_patterns_eq_some_iff]
  constructor
  · rintro (⟨why, excluded⟩ | ⟨none_excluded, why, preloaded⟩)
    · exact ⟨why, .inl excluded⟩
    · exact ⟨why, .inr ⟨none_excluded, preloaded⟩⟩
  · rintro ⟨why, excluded | ⟨none_excluded, preloaded⟩⟩
    · exact .inl ⟨why, excluded⟩
    · exact .inr ⟨none_excluded, why, preloaded⟩

end OpcachePreload.Settings
