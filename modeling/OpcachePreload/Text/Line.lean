/-!
# Lines

Text read from a file has one kind of line end, the line feed, whichever of the three usual kinds
the file uses. A place in a text is named by its line and column, both counted from one.
-/

namespace OpcachePreload.Text

/-- Turn every carriage return, with the line feed after it if there is one, into a line feed. -/
def unifyNewlines : List Char → List Char
  | [] => []
  | '\r' :: '\n' :: rest => '\n' :: unifyNewlines rest
  | c :: rest => (if c = '\r' then '\n' else c) :: unifyNewlines rest

/-- Text without carriage returns is left alone. -/
theorem unifyNewlines_of_not_mem {text : List Char} (clean : '\r' ∉ text) :
    unifyNewlines text = text := by
  fun_induction unifyNewlines text with
  | case1 => rfl
  | case2 => simp at clean
  | case3 c rest _ ih =>
      simp only [List.mem_cons, not_or] at clean
      rw [ih clean.2, if_neg (Ne.symm clean.1)]

/-- The line of the character at `position`. -/
def lineOf (text : List Char) (position : Nat) : Nat :=
  (text.take position).count '\n' + 1

/-- The column of the character at `position`. -/
def columnOf (text : List Char) (position : Nat) : Nat :=
  ((text.take position).reverse.takeWhile (· != '\n')).length + 1

end OpcachePreload.Text
