import OpcachePreload.Proofs.ClassMap.Autoload
import OpcachePreload.Proofs.Replay.Script

/-!
# The text of a script

A statement is read off the front of a text in one way only: its verb is told by its first
character, and the literal of its file ends where a reader of single-quoted strings ends it,
whatever the file is called. So different scripts have different texts, and no file can end its
literal early or pass for a statement.
-/

namespace OpcachePreload.Script

/-! ## Literals -/

/-- What the single-quoted string at the front of a text stands for, and what follows it. -/
def quoted? (text : List Char) : Option (String × List Char) :=
  (Pattern.matchAt (ClassMap.Autoload.string 1) false (.start text)).map fun found =>
    (String.ofList (ClassMap.Autoload.unescape ((found.capture? 1).getD [])), found.last.after)

/-- A literal is read up to its end, and stands for its text. -/
theorem quoted?_literal (text : String) (rest : List Char) :
    quoted? ((literal text).toList ++ rest) = some (text, rest) := by
  have matched := (ClassMap.Autoload.reads_string 1 text rest).matchAt 0 []
  rw [quoted?, Cursor.start, matched]
  simp [Pattern.Match.capture?, Cursor.capture?, ClassMap.Autoload.unescape_escape]

/-- Literals in front of the same text are the same, and so is what follows them. -/
theorem eq_of_literal_append_eq {text other : String} {rest rest' : List Char}
    (same : (literal text).toList ++ rest = (literal other).toList ++ rest') :
    text = other ∧ rest = rest' := by
  have read := quoted?_literal text rest
  rw [same, quoted?_literal, Option.some.injEq, Prod.mk.injEq] at read
  exact ⟨read.1.symm, read.2.symm⟩

/-! ## Statements -/

/-- What stands in front of the file of a statement. -/
def Verb.opening : Verb → String
  | .require => "require_once "
  | .include => "include_once "
  | .compile => compilePrimitive ++ "("

/-- What stands behind the file of a statement. -/
def Verb.closing : Verb → String
  | .require | .include => ";"
  | .compile => ");"

/-- The first character of a statement. -/
def Verb.initial : Verb → Char
  | .require => 'r'
  | .include => 'i'
  | .compile => 'o'

theorem Verb.initial_injective {verb other : Verb} (same : verb.initial = other.initial) :
    verb = other := by
  cases verb <;> cases other <;> first | rfl | exact absurd same (by decide)

theorem Verb.head?_opening (verb : Verb) : verb.opening.toList.head? = some verb.initial := by
  cases verb <;> rfl

/-- A statement is its file between an opening and a closing text. -/
theorem Statement.toList_text (statement : Statement) :
    statement.text.toList = statement.verb.opening.toList ++
      ((literal statement.file).toList ++ statement.verb.closing.toList) := by
  obtain ⟨verb, file⟩ := statement
  cases verb <;> simp [text, Verb.opening, Verb.closing]

theorem Statement.head?_text (statement : Statement) (rest : List Char) :
    (statement.text.toList ++ rest).head? = some statement.verb.initial := by
  rw [toList_text, List.append_assoc, List.head?_append, Verb.head?_opening]
  rfl

/-- Statements in front of the same text are the same, and so is what follows them. -/
theorem Statement.eq_of_text_append_eq {statement other : Statement} {rest rest' : List Char}
    (same : statement.text.toList ++ rest = other.text.toList ++ rest') :
    statement = other ∧ rest = rest' := by
  have verb_same : statement.verb = other.verb := by
    apply Verb.initial_injective
    rw [← Option.some.injEq, ← statement.head?_text rest, same, other.head?_text]
  obtain ⟨verb, file⟩ := statement
  obtain ⟨verb', file'⟩ := other
  obtain rfl : verb = verb' := verb_same
  simp only [toList_text, List.append_assoc, List.append_cancel_left_eq] at same
  obtain ⟨rfl, closing_same⟩ := eq_of_literal_append_eq same
  exact ⟨rfl, List.append_cancel_left closing_same⟩

/-! ## Scripts -/

/-- The text in front of the statements. -/
def heading (guarded : Bool) : List Char :=
  "<?php declare(strict_types = 1);".toList ++
    '\n' :: if guarded then '\n' :: guardText.toList else []

/-- The text of statements up to the end of a script: every statement starts a line. -/
def listing (statements : List Statement) : List Char :=
  (statements.flatMap fun statement => '\n' :: statement.text.toList) ++ ['\n']

theorem listing_cons (statement : Statement) (statements : List Statement) :
    listing (statement :: statements) =
      '\n' :: (statement.text.toList ++ listing statements) := by
  simp [listing]

theorem intercalate_lines (first : List Char) (rest : List (List Char)) :
    ['\n'].intercalate (first :: rest) = first ++ rest.flatMap ('\n' :: ·) := by
  induction rest generalizing first with
  | nil => simp [List.intercalate]
  | cons second rest ih =>
      rw [List.flatMap_cons, List.cons_append, ← ih second]
      simp [List.intercalate]

-- This is about any tag and any guard: where the texts themselves stand, checking the proof spells
-- them out character by character.
/-- The lines of a script, with a tag in front and perhaps a guard. -/
theorem toList_joined (tag guard : String) (guarded : Bool) (statements : List Statement) :
    (String.intercalate "\n" ([tag, ""] ++ (if guarded then [guard] else []) ++
      statements.map Statement.text) ++ "\n").toList =
        (tag.toList ++ '\n' :: if guarded then '\n' :: guard.toList else []) ++
          listing statements := by
  have newline : "\n".toList = ['\n'] := rfl
  rw [String.toList_append, String.toList_intercalate, List.cons_append, List.cons_append,
    List.map_cons, newline, intercalate_lines, listing]
  cases guarded <;> simp [List.flatMap_map]

/-- A script is its heading and its statements. -/
theorem toList_text (script : Script) :
    script.text.toList = heading script.guarded ++ listing script.statements.toList :=
  toList_joined _ guardText script.guarded script.statements.toList

/-- Statements are told by their text. -/
theorem listing_injective {statements others : List Statement}
    (same : listing statements = listing others) : statements = others := by
  induction statements generalizing others with
  | nil =>
      cases others with
      | nil => rfl
      | cons other others => simp [listing] at same
  | cons statement statements ih =>
      cases others with
      | nil => simp [listing] at same
      | cons other others =>
          rw [listing_cons, listing_cons, List.cons.injEq] at same
          obtain ⟨rfl, rest_same⟩ := Statement.eq_of_text_append_eq same.2
          rw [ih rest_same]

theorem exists_guardCheck_eq (condition : String) (lack : Capabilities.Lack) :
    ∃ rest, (guardCheck condition lack).toList = 'i' :: 'f' :: rest := by
  unfold guardCheck
  simp only [String.toList_append, List.append_assoc]
  exact ⟨_, rfl⟩

theorem exists_guardText_eq : ∃ rest, guardText.toList = 'i' :: 'f' :: rest := by
  have newline : "\n".toList = ['\n'] := rfl
  obtain ⟨rest, first⟩ := exists_guardCheck_eq "!ini_get('opcache.enable')" .cache
  rw [guardText, String.toList_intercalate, List.map_cons, newline, intercalate_lines, first]
  exact ⟨_, rfl⟩

/-- No statement starts as the guard does. -/
theorem Verb.opening_append_ne (verb : Verb) (rest rest' : List Char) :
    verb.opening.toList ++ rest ≠ 'i' :: 'f' :: rest' := by
  cases verb <;> simp [opening, compilePrimitive]

/-- Statements do not start as the guard does. -/
theorem listing_ne_guard (statements : List Statement) (rest : List Char) :
    listing statements ≠ '\n' :: (guardText.toList ++ rest) := by
  obtain ⟨behind, guard_eq⟩ := exists_guardText_eq
  rw [guard_eq]
  cases statements with
  | nil => simp [listing]
  | cons statement statements =>
      rw [listing_cons, Statement.toList_text, List.append_assoc]
      intro same
      exact statement.verb.opening_append_ne _ _ (List.cons.inj same).2

/-- Between a text in front and its statements a script may have a guard. If no statements start as
the guard does, the rest tells both. -/
theorem eq_of_joined_eq {tag guard : List Char} {guarded guarded' : Bool}
    {statements others : List Statement}
    (unlike : ∀ statements rest, listing statements ≠ '\n' :: (guard ++ rest))
    (same : (tag ++ '\n' :: if guarded then '\n' :: guard else []) ++ listing statements =
      (tag ++ '\n' :: if guarded' then '\n' :: guard else []) ++ listing others) :
    guarded = guarded' ∧ statements = others := by
  rw [List.append_assoc, List.append_assoc, List.append_cancel_left_eq, List.cons_append,
    List.cons_append, List.cons.injEq] at same
  cases guarded <;> cases guarded'
  · exact ⟨rfl, listing_injective same.2⟩
  · exact absurd same.2 (unlike _ _)
  · exact absurd same.2.symm (unlike _ _)
  · exact ⟨rfl, listing_injective (List.append_cancel_left (List.cons.inj same.2).2)⟩

/-- A script is told by its text. -/
theorem text_injective {script other : Script} (same : script.text = other.text) :
    script.guarded = other.guarded ∧ script.statements.toList = other.statements.toList := by
  have spelled := congrArg String.toList same
  rw [toList_text, toList_text] at spelled
  exact eq_of_joined_eq listing_ne_guard spelled

/-! ## Recorded calls -/

/-- Handing steps to a script records their statements, each of them once. -/
theorem perform_takeAll_empty (probe : Probe) (guarded : Bool) (steps : List Step)
    (surroundings : Surroundings) (session : Session) :
    ((Replay.takeAll (host probe) steps).perform surroundings (.empty guarded) session).1.2 =
      ⟨guarded, .ofList (steps.map Statement.ofStep)⟩ := by
  rw [perform_takeAll_host]
  rfl

/-- Whatever was handed to two scripts, their texts are the same exactly if both have a guard or
neither has, and the same statements are recorded in the same order. The literal of a recorded file
is read up to its end, whatever stands behind it, and stands for the file. -/
theorem recorded_of_text (probe probe' : Probe) (guarded guarded' : Bool) (steps steps' : List Step)
    (surroundings surroundings' : Surroundings) (session session' : Session) :
    let script := ((Replay.takeAll (host probe) steps).perform surroundings (.empty guarded)
      session).1.2
    let other := ((Replay.takeAll (host probe') steps').perform surroundings' (.empty guarded')
      session').1.2
    script.statements.toList = (steps.map Statement.ofStep).eraseDups ∧
      (script.text = other.text ↔
        guarded = guarded' ∧ script.statements.toList = other.statements.toList) ∧
      ∀ earlier statement later, script.statements.toList = earlier ++ statement :: later →
        let behind := statement.verb.closing.toList ++ listing later
        script.text.toList = heading guarded ++
          (earlier.flatMap fun statement => '\n' :: statement.text.toList) ++
          '\n' :: statement.verb.opening.toList ++ ((literal statement.file).toList ++ behind) ∧
        quoted? ((literal statement.file).toList ++ behind) = some (statement.file, behind) := by
  rw [perform_takeAll_empty, perform_takeAll_empty]
  intro script other
  refine ⟨OrderedSet.toList_ofList _, ⟨text_injective, ?_⟩, ?_⟩
  · rintro ⟨same_guard, same_statements⟩
    exact congrArg text (congrArg₂ Script.mk same_guard (OrderedSet.ext same_statements))
  · intro earlier statement later split behind
    refine ⟨?_, quoted?_literal statement.file behind⟩
    rw [toList_text, split]
    simp [listing, behind, Statement.toList_text, script]

/-- A file with quotes and the text of a statement in its name. -/
theorem recorded_of_text_quotes :
    let script : Script := ((Replay.takeAll (host ⟨"php", none⟩)
      [.load "it's" true, .compile "';\nexit('"]).perform ⟨[], .empty, .notFound, false, .ordinary⟩
        (.empty true) { files := .empty }).1.2
    script.statements.toList = [⟨.require, "it's"⟩] ++ ⟨.compile, "';\nexit('"⟩ :: [] ∧
      quoted? ((literal "';\nexit('").toList ++ ");\n".toList) =
        some ("';\nexit('", ");\n".toList) := by
  have recorded := recorded_of_text ⟨"php", none⟩ ⟨"php", none⟩ true false
    [.load "it's" true, .compile "';\nexit('"] [] ⟨[], .empty, .notFound, false, .ordinary⟩
    ⟨[], .empty, .notFound, false, .ordinary⟩ { files := .empty } { files := .empty }
  refine ⟨recorded.1, (recorded.2.2 [⟨.require, "it's"⟩] ⟨.compile, "';\nexit('"⟩ [] ?_).2⟩
  exact recorded.1

end OpcachePreload.Script
