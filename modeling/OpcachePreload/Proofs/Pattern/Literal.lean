import OpcachePreload.ClassName
import OpcachePreload.Pattern.Compile

/-!
# Patterns of literal text

A text in which every special character is escaped is read as the sequence of its characters,
whatever it is, and that sequence matches the text and nothing else. So the pattern of a namespace
occurs in the names that start with the namespace.
-/

namespace OpcachePreload.Pattern

open ClassName (specialChars)

/-! ## Matching -/

/-- The pattern that takes the characters of a text one after the other. -/
def spelling (text : List Char) : Pattern := sequence (text.map fun c => one (.single c))

theorem run_sequence_cons (pattern : Pattern) (rest : List Pattern) (cursor : Cursor)
    (follow : Cursor → Option Cursor) :
    run (sequence (pattern :: rest)) cursor follow =
      run pattern cursor fun next => run (sequence rest) next follow := by
  cases rest with
  | nil => rfl
  | cons next rest => rfl

theorem run_sequence_append (first second : List Pattern) (cursor : Cursor)
    (follow : Cursor → Option Cursor) :
    run (sequence (first ++ second)) cursor follow =
      run (sequence first) cursor fun next => run (sequence second) next follow := by
  induction first generalizing cursor with
  | nil => rfl
  | cons pattern rest ih =>
      rw [List.cons_append, run_sequence_cons, run_sequence_cons]
      exact congrArg (run pattern cursor) (funext ih)

/-- Literal text matches where it stands, and what follows it has to match behind it. -/
theorem run_spelling (text : List Char) (cursor : Cursor) (follow : Cursor → Option Cursor) :
    run (spelling text) cursor follow =
      if text.isPrefixOf cursor.after then
        follow { cursor with
          position := cursor.position + text.length
          before := text.reverse ++ cursor.before
          after := cursor.after.drop text.length }
      else none := by
  induction text generalizing cursor with
  | nil => rfl
  | cons c text ih =>
      rw [spelling, List.map_cons, run_sequence_cons, ← spelling]
      obtain ⟨position, before, after, captures⟩ := cursor
      cases after with
      | nil => rfl
      | cons d after =>
          by_cases same : c = d
          · subst same
            simp only [run, Charset.contains_single, decide_true, if_true, ih]
            simp [List.isPrefixOf, Nat.add_assoc, Nat.add_comm 1]
          · simp [run, same, List.isPrefixOf]

/-- Some patterns one after the other, the first of them at the start of the text. -/
def fromStart (parts : List Pattern) : Pattern := sequence (anchored .textStart :: parts)

theorem matchAt_fromStart_of_before_ne_nil (parts : List Pattern) (moving : Bool) {cursor : Cursor}
    (later : cursor.before ≠ []) : matchAt (fromStart parts) moving cursor = none := by
  have not_at_start : cursor.before.isEmpty = false := by
    simpa using later
  simp [matchAt, fromStart, run_sequence_cons, run, Anchor.holds, not_at_start]

theorem findFrom_fromStart_of_before_ne_nil (parts : List Pattern) (moving : Bool) (position : Nat)
    {before : List Char} (later : before ≠ []) (after : List Char) :
    findFrom (fromStart parts) moving position before after = none := by
  induction after generalizing moving position before with
  | nil => exact matchAt_fromStart_of_before_ne_nil parts moving later
  | cons c after ih =>
      rw [findFrom, matchAt_fromStart_of_before_ne_nil parts moving later,
        ih false (position + 1) (List.cons_ne_nil c before)]
      rfl

/-- A pattern that is bound to the start matches there or nowhere. -/
theorem find?_fromStart (parts : List Pattern) (text : List Char) :
    find? (fromStart parts) text = matchAt (fromStart parts) false (.start text) := by
  rw [find?]
  cases text with
  | nil => rfl
  | cons c rest =>
      rw [findFrom, findFrom_fromStart_of_before_ne_nil parts false 1 (List.cons_ne_nil c [])]
      exact Option.orElse_eq_or.trans Option.or_none

/-- The pattern of the texts that start with a text. -/
def startingWith (text : List Char) : Pattern :=
  sequence (anchored .textStart :: text.map fun c => one (.single c))

/-- A pattern that is bound to the start occurs in a text exactly if the text starts with it. -/
theorem occursIn_startingWith (text : List Char) (name : String) :
    (startingWith text).occursIn name = text.isPrefixOf name.toList := by
  rw [occursIn, startingWith, ← fromStart, find?_fromStart, matchAt, fromStart, run_sequence_cons]
  change ((run (spelling text) _ _).map _).isSome = _
  rw [run_spelling]
  change (Option.map _ (if text.isPrefixOf name.toList then _ else none)).isSome = _
  cases text.isPrefixOf name.toList <;> simp

/-- The pattern of one text from its start to its end. -/
def spanning (text : List Char) : Pattern :=
  fromStart ((text.map fun c => one (.single c)) ++ [anchored .lastLineEnd])

/-- Such a pattern occurs in its text and in no other one, but for a line feed that may follow. -/
theorem occursIn_spanning (text : List Char) (name : String) :
    (spanning text).occursIn name = true ↔ name.toList = text ∨ name.toList = text ++ ['\n'] := by
  have taken : (spanning text).occursIn name = true ↔
      ∃ tail, name.toList = text ++ tail ∧ (tail = [] ∨ tail = ['\n']) := by
    rw [occursIn, spanning, find?_fromStart, matchAt, fromStart, run_sequence_cons]
    change (Option.map _ (run (sequence (text.map _ ++ _)) (.start name.toList) _)).isSome = _ ↔ _
    rw [run_sequence_append, ← spelling, run_spelling]
    change (Option.map _ (if text.isPrefixOf name.toList then _ else none)).isSome = _ ↔ _
    by_cases starts : text.isPrefixOf name.toList
    · obtain ⟨tail, whole⟩ := List.isPrefixOf_iff_prefix.mp starts
      rw [if_pos starts, ← whole]
      simp [sequence, run, Cursor.start, Anchor.holds]
    · rw [if_neg starts]
      have absent : ∀ tail, name.toList ≠ text ++ tail := fun tail whole =>
        starts (List.isPrefixOf_iff_prefix.mpr ⟨tail, whole.symm⟩)
      simp [absent]
  rw [taken]
  constructor
  · rintro ⟨tail, whole, rfl | rfl⟩
    · exact .inl (whole.trans (List.append_nil text))
    · exact .inr whole
  · rintro (whole | whole)
    · exact ⟨[], whole.trans (List.append_nil text).symm, .inl rfl⟩
    · exact ⟨['\n'], whole, .inr rfl⟩

/-! ## Reading -/

theorem mem_specialChars {c : Char} : c ∈ specialChars ↔ c ∈ ['(', ')', '[', ']', '\x7b', '\x7d',
    '?', '*', '+', '-', '|', '^', '$', '\\', '.', '&', '~', '#', ' ', '\t', '\n', '\r',
    Char.ofNat 11, Char.ofNat 12] :=
  Iff.rfl

/-- A special character after a backslash stands for itself. -/
theorem escapePart_special (state : State) (source : Source) {c : Char}
    (special : c ∈ specialChars) :
    escapePart state source c = .ok (state.frame.flags.literalPart c.toNat, source) := by
  rw [mem_specialChars] at special
  simp only [List.mem_cons, List.not_mem_nil, or_false] at special
  rcases special with rfl | rfl | rfl | rfl | rfl | rfl | rfl | rfl | rfl | rfl | rfl | rfl | rfl |
    rfl | rfl | rfl | rfl | rfl | rfl | rfl | rfl | rfl | rfl | rfl <;> rfl

/-- Any other character stands for itself as it is. -/
theorem plainStep_of_not_mem (state : State) (source : Source) {c : Char}
    (plain : c ∉ specialChars) (compact : state.frame.flags.verbose = false) :
    plainStep state source c =
      .ok ({ state with source }.push (state.frame.flags.literalPart c.toNat)) := by
  simp only [plainStep, compact, Bool.false_and, Bool.false_eq_true, if_false]
  split
  all_goals first | rfl | exact absurd (by decide) plain

/-- The pattern of a character. -/
def escapedChar (c : Char) : List Char := if c ∈ specialChars then ['\\', c] else [c]

theorem settle_of_ne {source : Source} (complete : source.rest ≠ ['\\']) :
    source.settle = .ok source :=
  if_neg complete

/-- One step reads the pattern of a character. -/
theorem step_escapedChar {state : State} {position : Nat} {c : Char} {rest : List Char}
    (here : state.source = ⟨position, escapedChar c ++ rest⟩) (complete : rest ≠ ['\\'])
    (compact : state.frame.flags.verbose = false) :
    step state = .ok (some ({ state with
      source := ⟨position + (escapedChar c).length, rest⟩ }.push
        (state.frame.flags.literalPart c.toNat))) := by
  have settled (place : Nat) : Source.settle ⟨place, rest⟩ = .ok ⟨place, rest⟩ :=
    settle_of_ne complete
  by_cases special : c ∈ specialChars
  · have escaped : escapedChar c = ['\\', c] := if_pos special
    rw [escaped] at here ⊢
    simp only [step, here, List.cons_append, List.nil_append, Source.peek, Source.advance, settled,
      bind, Except.bind, escapePart_special _ _ special]
    rfl
  · have unescaped : escapedChar c = [c] := if_neg special
    have not_backslash : c ≠ '\\' := fun same => special (same ▸ by decide)
    have not_bar : c ≠ '|' := fun same => special (same ▸ by decide)
    have not_closing : c ≠ ')' := fun same => special (same ▸ by decide)
    rw [unescaped] at here ⊢
    have peeked : state.source.peek = some (.plain c) := by
      rw [here]
      unfold Source.peek
      split <;> simp_all
    have advanced : state.source.advance = .ok ⟨position + 1, rest⟩ := by
      rw [here]
      unfold Source.advance
      split <;> simp_all
    unfold step
    rw [peeked, advanced]
    simp only [bind, Except.bind, plainStep_of_not_mem _ _ special compact]
    rfl

theorem escape_cons (c : Char) (text : List Char) :
    ClassName.escape (c :: text) = escapedChar c ++ ClassName.escape text :=
  rfl

/-- No backslash is left alone at the end of an escaped text. -/
theorem escape_append_ne {tail : List Char} (complete : tail ≠ ['\\']) (text : List Char) :
    ClassName.escape text ++ tail ≠ ['\\'] := by
  cases text with
  | nil => exact complete
  | cons c text =>
      rw [escape_cons, escapedChar]
      split
      · simp
      · rename_i plain
        intro same
        obtain ⟨rfl, _⟩ := List.cons.inj same
        exact plain (by decide)

theorem readAll_of_step {state next : State} (taken : step state = .ok (some next))
    (shorter : next.source.rest.length < state.source.rest.length) :
    readAll state = readAll next := by
  rw [readAll]
  simp only [taken, bind, Except.bind, shorter, if_true]

theorem readAll_of_end {state : State} (ended : step state = .ok none) :
    readAll state = .ok state := by
  rw [readAll]
  simp only [ended, bind, Except.bind]
  rfl

/-- An escaped text is read as its characters, one part for each. -/
theorem readAll_escape (text : List Char) {tail : List Char} (complete : tail ≠ ['\\'])
    {state : State} {position : Nat}
    (here : state.source = ⟨position, ClassName.escape text ++ tail⟩)
    (compact : state.frame.flags.verbose = false) :
    ∃ place, readAll state = readAll { state with
      source := ⟨place, tail⟩
      frame := { state.frame with
        parts := (text.map fun c => state.frame.flags.literalPart c.toNat).reverse ++
          state.frame.parts } } := by
  induction text generalizing state position with
  | nil =>
      obtain ⟨source, _⟩ := state
      cases here
      exact ⟨position, rfl⟩
  | cons c text ih =>
      rw [escape_cons, List.append_assoc] at here
      have taken := step_escapedChar here (escape_append_ne complete text) compact
      have nonempty : 0 < (escapedChar c).length := by
        unfold escapedChar
        split <;> simp
      rw [readAll_of_step taken (by rw [here]; simp [State.push, nonempty])]
      have next_here : ({ state with
          source := ⟨position + (escapedChar c).length, ClassName.escape text ++ tail⟩ }.push
            (state.frame.flags.literalPart c.toNat)).source =
          ⟨position + (escapedChar c).length, ClassName.escape text ++ tail⟩ :=
        rfl
      obtain ⟨place, rest⟩ := ih next_here compact
      exact ⟨place, rest.trans (by simp [State.push])⟩

theorem step_caret {rest : List Char} (complete : rest ≠ ['\\']) (state : State)
    (here : state.source = ⟨0, '^' :: rest⟩) (flags : state.frame.flags = {}) :
    step state = .ok (some ({ state with source := ⟨1, rest⟩ }.push (anchorPart .textStart))) := by
  have advanced : state.source.advance = .ok ⟨1, rest⟩ := by
    rw [here]
    exact settle_of_ne complete
  have peeked : state.source.peek = some (.plain '^') := by
    rw [here]
    rfl
  unfold step
  rw [peeked, advanced]
  simp only [bind, Except.bind, plainStep, flags]
  rfl

/-- The state in which some parts have been read, latest first, and a text is left. -/
def State.reading (position : Nat) (left : List Char) (parts : List Part) : State where
  source := ⟨position, left⟩
  frame := { kind := .whole, start := 0, flags := {}, parts }

theorem compile_eq {text : List Char} (complete : text ≠ ['\\']) :
    compile (String.ofList text) = (readAll (.reading 0 text [])).bind finish := by
  rw [compile, String.toList_ofList, settle_of_ne complete]
  rfl

/-- Where nothing is left, the parts are the pattern. -/
theorem finish_reading (position : Nat) (parts : List Part) :
    (readAll (.reading position [] parts)).bind finish =
      .ok (sequence (parts.reverse.map Part.pattern)) := by
  rw [readAll_of_end rfl]
  rfl

/-- What a caret and an escaped text come to before the end of a pattern. -/
theorem readAll_caret_escape (text tail : List Char) (complete : tail ≠ ['\\']) :
    ∃ place, readAll (.reading 0 ('^' :: (ClassName.escape text ++ tail)) []) =
      readAll (.reading place tail
        ((text.map fun c => onePart (.single c)).reverse ++ [anchorPart .textStart])) := by
  have first := step_caret (escape_append_ne complete text)
    (.reading 0 ('^' :: (ClassName.escape text ++ tail)) []) rfl rfl
  rw [readAll_of_step first (by simp [State.push, State.reading])]
  exact readAll_escape text complete rfl rfl

/-- A caret and an escaped text are read as the pattern of what starts with the text. -/
theorem compile_startingWith (text : List Char) :
    compile (String.ofList ('^' :: ClassName.escape text)) = .ok (startingWith text) := by
  obtain ⟨place, read⟩ := readAll_caret_escape text [] (by simp)
  rw [List.append_nil] at read
  rw [compile_eq (by simp), read, finish_reading]
  simp [startingWith, Function.comp_def, onePart, anchorPart]

/-- One step reads a dollar sign at the end of a pattern. -/
theorem step_dollar (position : Nat) (parts : List Part) :
    step (.reading position ['$'] parts) =
      .ok (some (.reading (position + 1) [] (anchorPart .lastLineEnd :: parts))) :=
  rfl

/-- With a dollar sign behind it, the text is read as the pattern that spans it. -/
theorem compile_spanning (text : List Char) :
    compile (String.ofList ('^' :: (ClassName.escape text ++ ['$']))) = .ok (spanning text) := by
  obtain ⟨place, read⟩ := readAll_caret_escape text ['$'] (by simp)
  rw [compile_eq (by simp), read, readAll_of_step (step_dollar _ _) (by simp [State.reading]),
    finish_reading]
  simp [spanning, fromStart, Function.comp_def, onePart, anchorPart]

end OpcachePreload.Pattern

/-! ## Namespaces -/

namespace OpcachePreload.ClassName

/-- Whether a name is that of a class in the namespace that some parts make. -/
def isWithin (parts : List String) (name : String) : Bool :=
  (namespaceOf parts ++ [separator]).isPrefixOf name.toList

/-- The pattern of a namespace is one, whatever the parts are. -/
theorem compile_startsWithNamespace (parts : List String) :
    Pattern.compile (startsWithNamespace parts) =
      .ok (Pattern.startingWith (namespaceOf parts ++ [separator])) := by
  rw [← Pattern.compile_startingWith]
  simp [startsWithNamespace, escape]

/-- The pattern of a namespace occurs in the names of its classes and in no other name. -/
theorem occursIn_namespace (parts : List String) (name : String) :
    (Pattern.startingWith (namespaceOf parts ++ [separator])).occursIn name = isWithin parts name :=
  Pattern.occursIn_startingWith _ name

end OpcachePreload.ClassName
