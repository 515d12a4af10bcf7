import Mathlib.Data.List.TakeWhile
import OpcachePreload.Proofs.Pattern.Search
import OpcachePreload.Proofs.Pattern.Taking
import OpcachePreload.Usage

/-!
# Scanning for types

The patterns of the three shapes in which a class is used as a type find what a scanner finds that
never goes back: it tries each place of a text in turn, and where the words that lead up to a name
stand before a character of a name, it takes all characters of the name and goes on behind them.
So every name that is found is as long as it can be, and a use of a class is passed over only if it
starts inside one that is found.
-/

namespace OpcachePreload.Usage

open Pattern
open Text (Run MaximalRun cutRun cutRun_eq_some_iff dropPrefix?_eq_some_iff)

/-! ## Names -/

theorem contains_nameChars_eq : nameChars.contains = isNameChar :=
  funext contains_nameChars

theorem takes_name : Takes name (Run isNameChar) := by
  rw [← contains_nameChars_eq]
  exact takes_many1 nameChars

theorem takes_captured : Takes captured (Run isNameChar) :=
  takes_name.group 1

theorem reads_name {run rest : List Char} (maximal : MaximalRun isNameChar run rest) :
    Reads name run rest [] := by
  rw [← contains_nameChars_eq] at maximal
  exact reads_many1 maximal

theorem reads_captured {run rest : List Char} (maximal : MaximalRun isNameChar run rest) :
    Reads captured run rest [(1, run)] :=
  (reads_name maximal).group 1

theorem contains_oneOf (category : Category) :
    ({ members := [.category category false true] } : Charset).contains = category.holds false :=
  funext (Charset.contains_category category)

/-! ## Shapes -/

theorem takes_returnType :
    Takes returnType fun taken => ∃ function arguments name, Run Text.isWord function ∧
      ')' ∉ arguments ∧ Run isNameChar name ∧
      taken = "public function ".toList ++ function ++ "(".toList ++ arguments ++
        "): ".toList ++ name := by
  have takes := takes_sequence (.cons (takes_literal "public function ")
    (.cons (takes_many1 { members := [.category .word false true] }) (.cons (takes_literal "(")
      (.cons (takes_many (.except [')'])) (.cons (takes_literal "): ")
        (.cons takes_captured .nil))))))
  apply takes.imp
  rintro _ ⟨_, _, rfl, rfl, function, _, rfl, word, _, _, rfl, rfl, arguments, _, rfl, others, _, _,
    rfl, rfl, name, _, rfl, run, rfl⟩
  rw [contains_oneOf] at word
  have none_closes : ')' ∉ arguments := fun member => by
    have other := others ')' member
    simp [Charset.contains_except] at other
  exact ⟨function, arguments, name, word, none_closes, run, by simp [List.append_assoc]⟩

theorem reads_returnType {function arguments name rest : List Char}
    (word : Run Text.isWord function) (none_closes : ')' ∉ arguments)
    (maximal : MaximalRun isNameChar name rest) :
    Reads returnType ("public function ".toList ++ function ++ "(".toList ++ arguments ++
      "): ".toList ++ name) rest [(1, name)] := by
  have others : ∀ c ∈ arguments, (Charset.except [')']).contains c = true := by
    intro c member
    have other : c ≠ ')' := fun same => none_closes (same ▸ member)
    simp [Charset.contains_except, other]
  have closes : ∀ c ∈ ("): ".toList ++ name ++ rest).head?,
      (Charset.except [')']).contains c = false := by
    intro c first
    obtain rfl : ')' = c := Option.some.inj first
    simp [Charset.contains_except]
  have opens : MaximalRun ({ members := [.category .word false true] } : Charset).contains function
      ("(".toList ++ (arguments ++ ("): ".toList ++ name)) ++ rest) := by
    rw [contains_oneOf]
    exact word.maximal (by decide) _
  have behind_arguments := (reads_literal "): " (name ++ rest)).andThen (reads_captured maximal)
  have behind_opening := (reads_many others closes).andThen behind_arguments
  have behind_function := (reads_literal "(" _).andThen behind_opening
  have whole := (reads_literal "public function " _).andThen
    ((reads_many1 opens).andThen behind_function)
  simp only [List.append_assoc]
  exact whole

/-- The shapes in which a class is used as a type. -/
inductive Shape where
  | returnType
  | instantiation
  | implementation
  deriving DecidableEq, Repr

namespace Shape

/-- The shapes in the order in which they are looked for. -/
def all : List Shape := [returnType, instantiation, implementation]

/-- The pattern of a shape. -/
def pattern : Shape → Pattern
  | returnType => Usage.returnType
  | instantiation => Usage.instantiation
  | implementation => Usage.implementation

/-- Whether a text leads up to a name. -/
def Leads : Shape → List Char → Prop
  | returnType, lead => ∃ function arguments, Run Text.isWord function ∧ ')' ∉ arguments ∧
      lead = "public function ".toList ++ function ++ "(".toList ++ arguments ++ "): ".toList
  | instantiation, lead => lead = "new ".toList
  | implementation, lead => lead = "implements ".toList

/-- What is behind the text that leads up to a name, where such a text stands at the front. A
function has a name of word characters, and its arguments go on to the first closing parenthesis. -/
def behindLead : Shape → List Char → Option (List Char)
  | returnType, text =>
      (text.dropPrefix? "public function ".toList).bind fun named =>
        (cutRun Text.isWord named).bind fun (_, opened) =>
          (opened.dropPrefix? "(".toList).bind fun arguments =>
            (arguments.dropWhile (· != ')')).dropPrefix? "): ".toList
  | instantiation, text => text.dropPrefix? "new ".toList
  | implementation, text => text.dropPrefix? "implements ".toList

/-- The name at the end of the shape that stands at the front of a text, and what follows it. -/
def nameAt (shape : Shape) (text : List Char) : Option (List Char × List Char) :=
  (shape.behindLead text).bind (cutRun isNameChar)

variable {shape : Shape} {text lead name rest : List Char}

theorem behindLead_eq_some_iff :
    shape.behindLead text = some rest ↔ ∃ lead, shape.Leads lead ∧ text = lead ++ rest := by
  cases shape with
  | instantiation => simp [behindLead, Leads, dropPrefix?_eq_some_iff]
  | implementation => simp [behindLead, Leads, dropPrefix?_eq_some_iff]
  | returnType =>
      simp only [behindLead, Leads, Option.bind_eq_some_iff, Prod.exists, dropPrefix?_eq_some_iff,
        cutRun_eq_some_iff]
      constructor
      · rintro ⟨_, rfl, function, _, ⟨rfl, maximal⟩, arguments, rfl, behind⟩
        have split_arguments : arguments.takeWhile (· != ')') ++ ("): ".toList ++ rest) =
            arguments := by
          rw [← behind]
          exact List.takeWhile_append_dropWhile
        have none_closes : ')' ∉ arguments.takeWhile (· != ')') := by
          intro member
          have other := List.mem_takeWhile_imp member
          simp at other
        refine ⟨_, ⟨function, arguments.takeWhile (· != ')'), maximal.toRun, none_closes, rfl⟩, ?_⟩
        conv => lhs; rw [← split_arguments]
        simp
      · rintro ⟨_, ⟨function, arguments, word, none_closes, rfl⟩, rfl⟩
        have stops : (arguments ++ ("): ".toList ++ rest)).dropWhile (· != ')') =
            "): ".toList ++ rest := by
          rw [List.dropWhile_append_of_pos]
          · rfl
          · intro c member
            simpa using fun same : c = ')' => none_closes (same ▸ member)
        have opens : MaximalRun Text.isWord function
            ("(".toList ++ (arguments ++ ("): ".toList ++ rest))) :=
          word.maximal (by decide) _
        refine ⟨_, ?_, function, _, ⟨rfl, opens⟩, _, rfl, stops⟩
        simp only [List.append_assoc]

theorem nameAt_eq_some_iff :
    shape.nameAt text = some (name, rest) ↔
      ∃ lead, shape.Leads lead ∧ text = lead ++ name ++ rest ∧
        MaximalRun isNameChar name rest := by
  simp only [nameAt, Option.bind_eq_some_iff, behindLead_eq_some_iff, cutRun_eq_some_iff]
  constructor
  · rintro ⟨_, ⟨lead, leads, rfl⟩, rfl, maximal⟩
    exact ⟨lead, leads, (List.append_assoc _ _ _).symm, maximal⟩
  · rintro ⟨lead, leads, rfl, maximal⟩
    exact ⟨name ++ rest, ⟨lead, leads, List.append_assoc _ _ _⟩, rfl, maximal⟩

theorem length_lt_of_nameAt (found : shape.nameAt text = some (name, rest)) :
    rest.length < text.length := by
  rcases nameAt_eq_some_iff.mp found with ⟨lead, _, rfl, maximal⟩
  have nonempty := List.length_pos_iff.mpr maximal.nonempty
  simp only [List.length_append]
  omega

/-- The names that a shape has in a text, from left to right. Where the shape stands, the scan goes
on behind the name; where it does not, it goes on with the next character. -/
def scan (shape : Shape) (text : List Char) : List (List Char) :=
  match _found : shape.nameAt text with
  | some (name, rest) => name :: shape.scan rest
  | none =>
    match text with
    | [] => []
    | _ :: rest => shape.scan rest
termination_by text.length
decreasing_by
  · exact length_lt_of_nameAt (by assumption)
  · exact Nat.lt_succ_self _

theorem scan_of_some (found : shape.nameAt text = some (name, rest)) :
    shape.scan text = name :: shape.scan rest := by
  rw [scan]
  split
  · rename_i other rest' found'
    obtain ⟨rfl, rfl⟩ := Prod.mk.inj (Option.some.inj (found.symm.trans found'))
    rfl
  · rename_i nothing
    rw [found] at nothing
    cases nothing

theorem scan_cons_of_none {c : Char} (nothing : shape.nameAt (c :: text) = none) :
    shape.scan (c :: text) = shape.scan text := by
  rw [scan]
  split
  · rename_i found
    rw [nothing] at found
    cases found
  · rfl

theorem nameAt_nil (shape : Shape) : shape.nameAt [] = none := by
  cases shape <;> rfl

theorem scan_nil (shape : Shape) : shape.scan [] = [] := by
  rw [scan]
  split
  · rename_i found
    rw [nameAt_nil] at found
    cases found
  · rfl

/-! ## What the patterns match -/

/-- A text that leads up to a name and a run of characters of a name are what a shape takes. -/
theorem takes_pattern (shape : Shape) :
    Takes shape.pattern fun taken => ∃ lead name, taken = lead ++ name ∧ shape.Leads lead ∧
      Run isNameChar name := by
  have takes_keyword (keyword : String) :
      Takes (andThen (literal keyword) captured) fun taken =>
        ∃ lead name, taken = lead ++ name ∧ lead = keyword.toList ∧ Run isNameChar name :=
    (takes_literal keyword).andThen takes_captured
  cases shape with
  | instantiation => exact takes_keyword "new "
  | implementation => exact takes_keyword "implements "
  | returnType =>
      apply takes_returnType.imp
      rintro _ ⟨function, arguments, name, word, none_closes, run, rfl⟩
      exact ⟨_, name, rfl, ⟨function, arguments, word, none_closes, rfl⟩, run⟩

/-- Where the characters of the name end, a shape takes just them. -/
theorem reads_pattern (leads : shape.Leads lead) (maximal : MaximalRun isNameChar name rest) :
    Reads shape.pattern (lead ++ name) rest [(1, name)] := by
  cases shape with
  | instantiation =>
      obtain rfl : lead = "new ".toList := leads
      exact (reads_literal "new " _).andThen (reads_captured maximal)
  | implementation =>
      obtain rfl : lead = "implements ".toList := leads
      exact (reads_literal "implements " _).andThen (reads_captured maximal)
  | returnType =>
      rcases leads with ⟨function, arguments, word, none_closes, rfl⟩
      exact reads_returnType word none_closes maximal

/-- Where a shape stands, its pattern matches up to the end of the name. -/
theorem matchAt_of_nameAt (before : List Char) (found : shape.nameAt text = some (name, rest)) :
    ∃ lead, shape.Leads lead ∧ MaximalRun isNameChar name rest ∧ text = lead ++ name ++ rest ∧
      matchAt shape.pattern false (.between before text) =
        some (.between before (lead ++ name) rest [(1, name)]) := by
  rcases nameAt_eq_some_iff.mp found with ⟨lead, leads, rfl, maximal⟩
  exact ⟨lead, leads, maximal, rfl, (reads_pattern leads maximal).matchAt_between before⟩

/-- Where it does not, its pattern does not match in any of its ways: a shorter name would do as
well as the whole one. -/
theorem matchAt_of_nameAt_eq_none (before : List Char) (nothing : shape.nameAt text = none) :
    matchAt shape.pattern false (.between before text) = none := by
  rw [matchAt, Option.map_eq_none_iff, Option.eq_none_iff_forall_ne_some]
  intro last matched
  rcases takes_pattern shape _ _ _ matched with ⟨_, next, split_text,
    ⟨lead, name, rfl, leads, run⟩, _⟩
  have text_eq : text = lead ++ (name ++ next.after) := by
    rw [← List.append_assoc]
    exact split_text
  have behind := behindLead_eq_some_iff.mpr ⟨lead, leads, text_eq⟩
  obtain ⟨c, more, rfl⟩ := List.exists_cons_of_ne_nil run.nonempty
  have starts : ((c :: more) ++ next.after).head?.any isNameChar = true :=
    run.inside c List.mem_cons_self
  rw [nameAt, behind, Option.bind_some, cutRun, if_pos starts] at nothing
  cases nothing

/-- A pattern matches where its shape stands, from there to the end of the name. -/
theorem exists_nameAt_of_matchAt {before : List Char} {found : Match}
    (matched : matchAt shape.pattern false (.between before text) = some found) :
    ∃ lead name rest, shape.nameAt text = some (name, rest) ∧ shape.Leads lead ∧
      MaximalRun isNameChar name rest ∧ text = lead ++ name ++ rest ∧
      found = .between before (lead ++ name) rest [(1, name)] := by
  cases stands : shape.nameAt text with
  | none =>
      rw [matchAt_of_nameAt_eq_none before stands] at matched
      cases matched
  | some found' =>
      rcases found' with ⟨name, rest⟩
      rcases matchAt_of_nameAt before stands with ⟨lead, leads, maximal, text_eq, matched'⟩
      rw [matched] at matched'
      exact ⟨lead, name, rest, rfl, leads, maximal, text_eq, Option.some.inj matched'⟩

theorem append_ne_nil (lead : List Char) (maximal : MaximalRun isNameChar name rest) :
    lead ++ name ≠ [] := by
  simp [maximal.nonempty]

theorem proceeds_pattern (shape : Shape) : Proceeds shape.pattern := by
  intro before after found matched
  rcases exists_nameAt_of_matchAt matched with ⟨lead, name, rest, _, _, maximal, rfl, rfl⟩
  exact ⟨lead ++ name, rest, rfl, Match.lies_between (append_ne_nil lead maximal) _ _ _⟩

/-- The names that a sweep finds are those of the scan. -/
theorem map_text_of_sweep {before after : List Char} {found : List Match}
    (sweep : Sweep shape.pattern before after found) :
    found.map (·.text 1) = (shape.scan after).map String.ofList := by
  have passes {before after : List Char}
      (nothing : matchAt shape.pattern false (.between before after) = none) :
      shape.nameAt after = none := by
    cases stands : shape.nameAt after with
    | none => rfl
    | some found =>
        rcases matchAt_of_nameAt before stands with ⟨_, _, _, _, matched⟩
        rw [nothing] at matched
        cases matched
  induction sweep with
  | done => rw [scan_nil]; rfl
  | pass nothing _ ih => rw [ih, scan_cons_of_none (passes nothing)]
  | @take before taken rest first found matched lies _ ih =>
      rcases exists_nameAt_of_matchAt matched with ⟨lead, name, rest', stands, _, _, _, rfl⟩
      obtain rfl : rest' = rest := congrArg Cursor.after lies.last_eq
      rw [scan_of_some stands, List.map_cons, List.map_cons, ih]
      rfl

/-- The pattern of a shape finds the names that the scan finds. -/
theorem captures_pattern (shape : Shape) (text : String) :
    captures shape.pattern text = (shape.scan text.toList).map String.ofList :=
  map_text_of_sweep ((proceeds_pattern shape).sweep_findAll text.toList)

/-- Whether a shape stands in a text from one position to another, with a name at its end that does
not go on behind it. -/
def StandsAt (shape : Shape) (text : List Char) (start stop : Nat) (name : List Char) : Prop :=
  ∃ before lead rest, text = before ++ (lead ++ name ++ rest) ∧ shape.Leads lead ∧
    MaximalRun isNameChar name rest ∧ start = before.length ∧
    stop = before.length + (lead ++ name).length

/-- The pattern of each shape finds the names that the scan finds, from left to right. Each of them
stands at the end of an occurrence of the shape and is as long as it can be. Every occurrence of the
shape is found unless it starts inside an earlier one that is. -/
theorem captures_of_shape (shape : Shape) (text : String) :
    types = all.map pattern ∧
      captures shape.pattern text = (shape.scan text.toList).map String.ofList ∧
      (findAll shape.pattern text.toList).Pairwise
        (fun earlier later => earlier.last.position ≤ later.first.position) ∧
      (∀ found ∈ findAll shape.pattern text.toList, ∃ name, found.text 1 = String.ofList name ∧
        shape.StandsAt text.toList found.first.position found.last.position name) ∧
      ∀ start stop name, shape.StandsAt text.toList start stop name →
        (∃ found ∈ findAll shape.pattern text.toList, found.first.position = start ∧
          found.last.position = stop ∧ found.text 1 = String.ofList name) ∨
        ∃ earlier ∈ findAll shape.pattern text.toList,
          earlier.first.position < start ∧ start < earlier.last.position := by
  have sweep := (proceeds_pattern shape).sweep_findAll text.toList
  constructor
  · rfl
  constructor
  · exact captures_pattern shape text
  constructor
  · exact sweep.pairwise
  constructor
  · intro found member
    rcases sweep.matchAt_of_mem member with ⟨before, taken, rest, text_eq, lies, matched⟩
    rw [List.nil_append] at lies matched
    rcases exists_nameAt_of_matchAt matched with ⟨lead, name, rest', _, leads, maximal, split, rfl⟩
    refine ⟨name, rfl, before, lead, rest', ?_, leads, maximal, rfl, ?_⟩
    · rw [text_eq, split]
    · exact List.length_append
  · rintro start stop name ⟨before, lead, rest, text_eq, leads, maximal, rfl, rfl⟩
    have matched := (reads_pattern leads maximal).matchAt_between before
    have lies := Match.lies_between (append_ne_nil lead maximal) before rest [(1, name)]
    rcases sweep.found_or_inside text_eq matched with member | ⟨earlier, member, inside⟩
    · exact .inl ⟨_, member, lies.first_position, lies.last_position, rfl⟩
    · refine .inr ⟨earlier, member, ?_⟩
      simpa using inside

/-- The second of two overlapping instantiations starts inside the first and is passed over. -/
theorem captures_of_shape_overlapping :
    captures instantiation.pattern "new new A" = ["new"] ∧
      instantiation.StandsAt "new new A".toList 4 9 ['A'] ∧
      ∃ earlier ∈ findAll instantiation.pattern "new new A".toList,
        earlier.first.position < 4 ∧ 4 < earlier.last.position := by
  have stands : instantiation.StandsAt "new new A".toList 4 9 ['A'] :=
    ⟨"new ".toList, "new ".toList, [], rfl, rfl,
      ⟨⟨by simp, List.all_eq_true.mp (by decide)⟩, by simp⟩, rfl, rfl⟩
  have unfound : ¬∃ found ∈ findAll instantiation.pattern "new new A".toList,
      found.first.position = 4 ∧ found.last.position = 9 ∧ found.text 1 = String.ofList ['A'] := by
    decide
  obtain ⟨_, _, _, _, found_or_inside⟩ := captures_of_shape instantiation "new new A"
  exact ⟨by decide, stands, (found_or_inside 4 9 ['A'] stands).resolve_left unfound⟩

end Shape

end OpcachePreload.Usage
