import Mathlib.Data.List.Basic
import Mathlib.Data.List.TakeWhile
import OpcachePreload.Environment

/-!
# Variables in a text

A text is read as parts: characters that stand for themselves, and variables. Replacing variables
puts the value of every part in its place, and nothing else happens. So a text all of whose parts
stand for themselves is left as it is, and a text may be replaced name by name if no variable is
written across a slash.
-/

namespace OpcachePreload.Environment

/-- A part of a text: a character that stands for itself, or a variable with its name and how it is
written after the dollar sign. -/
inductive Part where
  | plain (c : Char)
  | reference (name written : List Char)
  deriving DecidableEq

/-- The text of a part. -/
def Part.text : Part → List Char
  | plain c => [c]
  | reference _ written => '$' :: written

/-- What stands for a part. -/
def Part.value (env : Environment) : Part → List Char
  | plain c => [c]
  | reference name written =>
    ((env.get? (String.ofList name)).map String.toList).getD ('$' :: written)

/-- A part that does not reach across a slash. -/
def Part.Undivided : Part → Prop
  | plain _ => True
  | reference name _ => '/' ∉ name

instance (part : Part) : Decidable part.Undivided := by
  unfold Part.Undivided
  split <;> infer_instance

/-- The parts of what follows `skip` characters that have been dealt with. -/
def partsFrom (skip : Nat) : List Char → List Part
  | [] => []
  | c :: rest =>
    match skip with
    | skip + 1 => partsFrom skip rest
    | 0 =>
      if c = '$' then
        match reference? rest with
        | none => .plain c :: partsFrom 0 rest
        | some (name, written) => .reference name written :: partsFrom written.length rest
      else .plain c :: partsFrom 0 rest

/-- The parts of a text. -/
def parts (text : List Char) : List Part := partsFrom 0 text

variable {env : Environment} {text rest piece name written : List Char} {skip : Nat}

theorem partsFrom_of_ne {c : Char} (differs : c ≠ '$') (rest : List Char) :
    partsFrom 0 (c :: rest) = .plain c :: partsFrom 0 rest := by
  simp [partsFrom, differs]

theorem partsFrom_of_none (none_there : reference? rest = none) :
    partsFrom 0 ('$' :: rest) = .plain '$' :: partsFrom 0 rest := by
  simp [partsFrom, none_there]

theorem partsFrom_of_some (found : reference? rest = some (name, written)) :
    partsFrom 0 ('$' :: rest) = .reference name written :: partsFrom written.length rest := by
  simp [partsFrom, found]

/-! ## Variables -/

/-- The name of a variable in braces ends at the first brace that closes. -/
theorem reference?_of_closed (inner : '\x7d' ∉ name) (rest : List Char) :
    reference? ('\x7b' :: (name ++ '\x7d' :: rest)) =
      some (name, '\x7b' :: name ++ ['\x7d']) := by
  have before : (name ++ '\x7d' :: rest).takeWhile (· != '\x7d') = name := by
    rw [List.takeWhile_append_of_pos, List.takeWhile_cons_of_neg (by simp), List.append_nil]
    intro c present
    exact bne_iff_ne.mpr fun same => inner (same ▸ present)
  simp [reference?, before]

theorem reference?_of_unclosed (unclosed : '\x7d' ∉ rest) : reference? ('\x7b' :: rest) = none := by
  have all : rest.takeWhile (· != '\x7d') = rest :=
    List.takeWhile_eq_self_iff.mpr fun c present => bne_iff_ne.mpr fun same =>
      unclosed (same ▸ present)
  simp [reference?, all]

theorem reference?_of_ne {c : Char} (differs : c ≠ '\x7b') (rest : List Char) :
    reference? (c :: rest) =
      if isNameChar c then
        some (c :: rest.takeWhile isNameChar, c :: rest.takeWhile isNameChar)
      else none := by
  unfold reference?
  split
  · rename_i same
    exact absurd (List.cons.inj same).1 differs
  · cases named : isNameChar c <;> simp [named]

/-- A variable is written with the characters that follow its dollar sign. -/
theorem prefix_of_reference? (found : reference? rest = some (name, written)) :
    written <+: rest := by
  cases rest with
  | nil => cases found
  | cons c rest =>
      by_cases brace : c = '\x7b'
      · subst brace
        by_cases closed : '\x7d' ∈ rest
        · obtain ⟨inner, after, rfl, free⟩ := List.eq_append_cons_of_mem closed
          rw [reference?_of_closed free] at found
          obtain ⟨rfl, rfl⟩ := Prod.mk.inj (Option.some.inj found)
          exact ⟨after, by simp⟩
        · rw [reference?_of_unclosed closed] at found
          cases found
      · rw [reference?_of_ne brace] at found
        split at found
        · obtain ⟨rfl, rfl⟩ := Prod.mk.inj (Option.some.inj found)
          exact (List.prefix_cons_inj c).mpr (List.takeWhile_prefix _)
        · cases found

/-- Replacing variables puts the value of every part in its place. -/
theorem expandVariables_eq_flatMap (env : Environment) (text : List Char) :
    env.expandVariables text = (parts text).flatMap (Part.value env) := by
  suffices all :
    ∀ skip, env.expandFrom skip text = (partsFrom skip text).flatMap (Part.value env) from
    all 0
  induction text with
  | nil => intro _; rfl
  | cons c rest ih =>
      intro skip
      cases skip with
      | succ skip => exact ih skip
      | zero =>
          by_cases dollar : c = '$'
          · subst dollar
            cases found : reference? rest with
            | none => simp [expandFrom, partsFrom_of_none found, found, Part.value, ih]
            | some pair => simp [expandFrom, partsFrom_of_some found, found, Part.value, ih]
          · simp [expandFrom, partsFrom_of_ne dollar, dollar, Part.value, ih]

/-- The parts of a text are the whole text. -/
theorem flatMap_text_parts (text : List Char) : (parts text).flatMap Part.text = text := by
  suffices all : ∀ skip, (partsFrom skip text).flatMap Part.text = text.drop skip from all 0
  induction text with
  | nil => intro _; simp [partsFrom]
  | cons c rest ih =>
      intro skip
      cases skip with
      | succ skip => exact ih skip
      | zero =>
          by_cases dollar : c = '$'
          · subst dollar
            cases found : reference? rest with
            | none => simp [partsFrom_of_none found, Part.text, ih]
            | some pair =>
                have whole := List.prefix_iff_eq_append.mp (prefix_of_reference? found)
                simp [partsFrom_of_some found, Part.text, ih, whole]
          · simp [partsFrom_of_ne dollar, Part.text, ih]

/-- In braces, a name may have a slash. -/
example : parts "$A-$\x7bB/C\x7d".toList =
    [.reference ['A'] ['A'], .plain '-', .reference ['B', '/', 'C'] "\x7bB/C\x7d".toList] := by
  decide

/-- A text in which every part stands for itself has nothing to replace. -/
theorem expandVariables_eq_self (stands : ∀ part ∈ parts text, part.value env = part.text) :
    env.expandVariables text = text := by
  rw [expandVariables_eq_flatMap, List.flatMap_congr stands, flatMap_text_parts]

/-! ## Names of a path -/

/-- What follows a slash does not change the variable before it, unless its name reaches across. -/
theorem reference?_append_slash {more : List Char} (free : '/' ∉ piece)
    (undivided : ∀ name written, reference? (piece ++ '/' :: rest) =
      some (name, written) → '/' ∉ name)
    (fewer : '\x7d' ∈ more → '\x7d' ∈ rest) :
    reference? (piece ++ '/' :: more) = reference? piece := by
  cases piece with
  | nil => rfl
  | cons c piece =>
      rw [List.cons_append]
      by_cases brace : c = '\x7b'
      · subst brace
        by_cases closed : '\x7d' ∈ piece
        · obtain ⟨inner, after, rfl, inner_free⟩ := List.eq_append_cons_of_mem closed
          rw [List.append_assoc, List.cons_append, reference?_of_closed inner_free,
            reference?_of_closed inner_free]
        · have unclosed : '\x7d' ∉ rest := by
            intro later
            obtain ⟨inner, after, rfl, inner_free⟩ := List.eq_append_cons_of_mem later
            have whole_free : '\x7d' ∉ piece ++ '/' :: inner := by simp [closed, inner_free]
            have read : reference? ('\x7b' :: piece ++ '/' :: (inner ++ '\x7d' :: after)) =
                some (piece ++ '/' :: inner, '\x7b' :: (piece ++ '/' :: inner) ++ ['\x7d']) := by
              simpa using reference?_of_closed whole_free after
            exact undivided _ _ read (by simp)
          rw [reference?_of_unclosed closed, reference?_of_unclosed]
          simp only [List.mem_append, List.mem_cons, not_or]
          exact ⟨closed, by decide, fun later => unclosed (fewer later)⟩
      · rw [reference?_of_ne brace, reference?_of_ne brace]
        have stops : (piece ++ '/' :: more).takeWhile isNameChar = piece.takeWhile isNameChar := by
          rw [List.takeWhile_append, List.takeWhile_cons_of_neg (by decide), List.append_nil]
          split
          · rename_i whole
            exact ((List.takeWhile_prefix isNameChar).eq_of_length whole).symm
          · rfl
        rw [stops]

/-- The parts of a text before a slash and after it, where no part reaches across the slash. The
text that follows may be another one that closes no brace. -/
theorem partsFrom_append_slash {more : List Char} (free : '/' ∉ piece)
    (undivided : ∀ part ∈ partsFrom skip (piece ++ '/' :: rest), part.Undivided)
    (fewer : '\x7d' ∈ more → '\x7d' ∈ rest) (within : skip ≤ piece.length) :
    partsFrom skip (piece ++ '/' :: more) = partsFrom skip piece ++ .plain '/' :: parts more := by
  induction piece generalizing skip with
  | nil =>
      obtain rfl := Nat.le_zero.mp within
      rfl
  | cons c piece ih =>
      rw [List.mem_cons, not_or] at free
      cases skip with
      | succ skip => exact ih free.2 undivided (Nat.le_of_succ_le_succ within)
      | zero =>
          rw [List.cons_append] at undivided ⊢
          by_cases dollar : c = '$'
          · subst dollar
            have same {more : List Char} (fewer : '\x7d' ∈ more → '\x7d' ∈ rest) :
                reference? (piece ++ '/' :: more) = reference? piece := by
              refine reference?_append_slash free.2 (fun name written found => ?_) fewer
              exact undivided (.reference name written)
                (partsFrom_of_some found ▸ List.mem_cons_self)
            cases found : reference? piece with
            | none =>
                rw [partsFrom_of_none ((same id).trans found), List.forall_mem_cons] at undivided
                rw [partsFrom_of_none ((same fewer).trans found), partsFrom_of_none found,
                  ih free.2 undivided.2 (Nat.zero_le _), List.cons_append]
            | some pair =>
                have within := (prefix_of_reference? found).length_le
                rw [partsFrom_of_some ((same id).trans found), List.forall_mem_cons] at undivided
                rw [partsFrom_of_some ((same fewer).trans found), partsFrom_of_some found,
                  ih free.2 undivided.2 within, List.cons_append]
          · rw [partsFrom_of_ne dollar, List.forall_mem_cons] at undivided
            rw [partsFrom_of_ne dollar, partsFrom_of_ne dollar,
              ih free.2 undivided.2 (Nat.zero_le _),
              List.cons_append]

theorem undivided_of_append_slash (free : '/' ∉ piece)
    (undivided : ∀ part ∈ parts (piece ++ '/' :: rest), part.Undivided) :
    ∀ part ∈ parts rest, part.Undivided := by
  intro part present
  refine undivided part ?_
  rw [parts, partsFrom_append_slash free undivided id (Nat.zero_le _)]
  exact List.mem_append_right _ (List.mem_cons_of_mem _ present)

theorem expandVariables_append_slash (env : Environment) {more : List Char} (free : '/' ∉ piece)
    (undivided : ∀ part ∈ parts (piece ++ '/' :: rest), part.Undivided)
    (fewer : '\x7d' ∈ more → '\x7d' ∈ rest) :
    env.expandVariables (piece ++ '/' :: more) =
      env.expandVariables piece ++ '/' :: env.expandVariables more := by
  simp only [expandVariables_eq_flatMap, parts,
    partsFrom_append_slash free undivided fewer (Nat.zero_le _), List.flatMap_append,
      List.flatMap_cons]
  rfl

end OpcachePreload.Environment
