/-!
# Texts between separators

Cutting a text at every occurrence of a character. There is always one piece more than there are
separators, and putting the separators back gives the text.
-/

namespace OpcachePreload.Text

/-- The pieces of a text between the occurrences of a character. -/
def split (separator : Char) : List Char → List (List Char)
  | [] => [[]]
  | c :: rest =>
    if c = separator then [] :: split separator rest
    else match split separator rest with
      | [] => [[c]]
      | piece :: pieces => (c :: piece) :: pieces

/-- Pieces with a separator between them. -/
def joinWith (separator : Char) : List (List Char) → List Char
  | [] => []
  | [piece] => piece
  | piece :: pieces => piece ++ separator :: joinWith separator pieces

theorem split_ne_nil (separator : Char) (text : List Char) : split separator text ≠ [] := by
  cases text with
  | nil => simp [split]
  | cons c rest =>
      simp only [split]
      split
      · simp
      · split <;> simp

/-- Cutting loses nothing. -/
theorem joinWith_split (separator : Char) (text : List Char) :
    joinWith separator (split separator text) = text := by
  induction text with
  | nil => rfl
  | cons c rest ih =>
      by_cases same : c = separator
      · simp only [split, if_pos same]
        obtain ⟨piece, pieces, cut⟩ := List.exists_cons_of_ne_nil (split_ne_nil separator rest)
        rw [cut] at ih ⊢
        simp [joinWith, ih, same]
      · simp only [split, if_neg same]
        obtain ⟨piece, pieces, cut⟩ := List.exists_cons_of_ne_nil (split_ne_nil separator rest)
        rw [cut] at ih ⊢
        cases pieces <;> simp_all [joinWith]

/-- No piece holds a separator. -/
theorem not_mem_of_mem_split {separator : Char} {text piece : List Char}
    (present : piece ∈ split separator text) : separator ∉ piece := by
  induction text generalizing piece with
  | nil =>
      obtain rfl := List.mem_singleton.mp present
      simp
  | cons c rest ih =>
      by_cases same : c = separator
      · simp only [split, if_pos same, List.mem_cons] at present
        rcases present with rfl | later
        · simp
        · exact ih later
      · simp only [split, if_neg same] at present
        obtain ⟨first, pieces, cut⟩ := List.exists_cons_of_ne_nil (split_ne_nil separator rest)
        rw [cut] at present ih
        rcases List.mem_cons.mp present with rfl | later
        · rw [List.mem_cons, not_or]
          exact ⟨Ne.symm same, ih List.mem_cons_self⟩
        · exact ih (List.mem_cons_of_mem _ later)

theorem split_append_cons {separator : Char} {piece : List Char} (free : separator ∉ piece)
    (text : List Char) :
    split separator (piece ++ separator :: text) = piece :: split separator text := by
  induction piece with
  | nil => simp [split]
  | cons c rest ih =>
      rw [List.mem_cons, not_or] at free
      simp only [List.cons_append, split, if_neg (Ne.symm free.1), ih free.2]

theorem split_of_not_mem {separator : Char} {piece : List Char} (free : separator ∉ piece) :
    split separator piece = [piece] := by
  induction piece with
  | nil => rfl
  | cons c rest ih =>
      rw [List.mem_cons, not_or] at free
      simp only [split, if_neg (Ne.symm free.1), ih free.2]

/-- Pieces without separators are found again. -/
theorem split_joinWith {separator : Char} {pieces : List (List Char)} (nonempty : pieces ≠ [])
    (free : ∀ piece ∈ pieces, separator ∉ piece) :
    split separator (joinWith separator pieces) = pieces := by
  induction pieces with
  | nil => contradiction
  | cons piece rest ih =>
      cases rest with
      | nil => exact split_of_not_mem (free piece List.mem_cons_self)
      | cons next rest =>
          have joined : joinWith separator (piece :: next :: rest) =
              piece ++ separator :: joinWith separator (next :: rest) := rfl
          rw [joined, split_append_cons (free piece List.mem_cons_self),
            ih (List.cons_ne_nil _ _) fun other present =>
              free other (List.mem_cons_of_mem _ present)]

theorem joinWith_eq_intercalate (separator : Char) (pieces : List (List Char)) :
    joinWith separator pieces = [separator].intercalate pieces := by
  induction pieces with
  | nil => rfl
  | cons piece rest ih =>
      cases rest with
      | nil => simp [joinWith]
      | cons next rest =>
          rw [List.intercalate_cons_cons, ← ih, List.append_assoc]
          rfl

end OpcachePreload.Text
