import Mathlib.Data.List.Basic

/-!
# Runs of characters

A run is a text of characters of one kind. A run at the front of a text is cut off as far as it
goes, so that what follows it does not go on with the same kind.
-/

namespace OpcachePreload.Text

/-- A text of characters of one kind, at least one of them. -/
structure Run (kind : Char → Bool) (text : List Char) : Prop where
  nonempty : text ≠ []
  inside : ∀ c ∈ text, kind c = true

/-- A run that does not go on in the text that follows it. -/
structure MaximalRun (kind : Char → Bool) (run rest : List Char) : Prop extends Run kind run where
  ends : ∀ c ∈ rest.head?, kind c = false

/-- The run at the front of a text, if there is one, and what follows it. -/
def cutRun (kind : Char → Bool) (text : List Char) : Option (List Char × List Char) :=
  if text.head?.any kind then some (text.takeWhile kind, text.dropWhile kind) else none

variable {kind : Char → Bool} {run rest text : List Char}

theorem Run.maximal (all : Run kind run) {c : Char} (other : kind c = false) (rest : List Char) :
    MaximalRun kind run (c :: rest) where
  toRun := all
  ends := by
    rintro _ ⟨⟩
    exact other

theorem takeWhile_of_ends (ends : ∀ c ∈ rest.head?, kind c = false) : rest.takeWhile kind = [] := by
  cases rest with
  | nil => rfl
  | cons c rest => exact List.takeWhile_cons_of_neg (by simp [ends c rfl])

theorem dropWhile_of_ends (ends : ∀ c ∈ rest.head?, kind c = false) :
    rest.dropWhile kind = rest := by
  cases rest with
  | nil => rfl
  | cons c rest => exact List.dropWhile_cons_of_neg (by simp [ends c rfl])

/-- A maximal run is what is cut off. -/
theorem MaximalRun.cutRun_eq (maximal : MaximalRun kind run rest) :
    cutRun kind (run ++ rest) = some (run, rest) := by
  have starts : (run ++ rest).head?.any kind = true := by
    obtain ⟨c, more, rfl⟩ := List.exists_cons_of_ne_nil maximal.nonempty
    exact maximal.inside c List.mem_cons_self
  rw [cutRun, if_pos starts, List.takeWhile_append_of_pos maximal.inside,
    List.dropWhile_append_of_pos maximal.inside, takeWhile_of_ends maximal.ends,
    dropWhile_of_ends maximal.ends, List.append_nil]

theorem cutRun_eq_some_iff :
    cutRun kind text = some (run, rest) ↔ text = run ++ rest ∧ MaximalRun kind run rest := by
  constructor
  · intro cut
    unfold cutRun at cut
    split at cut
    · rename_i starts
      obtain ⟨rfl, rfl⟩ := Prod.mk.inj (Option.some.inj cut)
      refine ⟨List.takeWhile_append_dropWhile.symm, ⟨?_, ?_⟩, ?_⟩
      · intro empty
        cases text with
        | nil => cases starts
        | cons c text =>
            have first : kind c = true := starts
            rw [List.takeWhile_cons_of_pos first] at empty
            cases empty
      · exact List.all_eq_true.mp List.all_takeWhile
      · intro c first
        have outside := List.head?_dropWhile_not kind text
        rw [first] at outside
        simpa using outside
    · cases cut
  · rintro ⟨rfl, maximal⟩
    exact maximal.cutRun_eq

/-- What follows a text in another one is what is left when the text is dropped from its front. -/
theorem dropPrefix?_eq_some_iff {front : List Char} :
    text.dropPrefix? front = some rest ↔ text = front ++ rest := by
  simp [List.dropPrefix?_eq_some_iff]

end OpcachePreload.Text
