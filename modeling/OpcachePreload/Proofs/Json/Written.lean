import OpcachePreload.Json.Reader
import OpcachePreload.Json.Writer
import Mathlib.Tactic.IntervalCases

/-!
# Reading what was written

Reading takes back what writing has put down, whatever follows it: a character, a string, an array
of strings, and an object whose members are such arrays. How long reading may go on is given by the
length of what was written.
-/

namespace OpcachePreload.Json

/-! ## Strings -/

/-- The four digits that write a control character are read as its code. -/
theorem hexCode?_hex {n : Nat} (control : n < 0x20) (rest : List Char) :
    hexCode? (Text.hex 4 n ++ rest) = some (n, rest) := by
  interval_cases n <;> rfl

theorem length_hex {n : Nat} (control : n < 0x20) : (Text.hex 4 n).length = 4 := by
  interval_cases n <;> rfl

theorem codeEscape_hex {n : Nat} (control : n < 0x20) {rest : List Char} (more : rest ≠ []) :
    codeEscape (Text.hex 4 n ++ rest) = .ok (n, rest) := by
  have long : ¬(Text.hex 4 n ++ rest).length ≤ 4 := by
    have := List.length_pos_iff.mpr more
    rw [List.length_append, length_hex control]
    omega
  have plain : isHighSurrogate n = false := by
    simp only [isHighSurrogate, Bool.and_eq_false_iff, decide_eq_false_iff_not]
    omega
  simp only [codeEscape, if_neg long, hexCode?_hex control, plain]
  rfl

/-- A character is written as an escape by letter, as an escape by code, or as it is. -/
theorem writtenChar_cases (c : Char) :
    (∃ letter, letter ≠ 'u' ∧ simpleEscape? letter = some c ∧ writtenChar c = ['\\', letter]) ∨
      (c.toNat < 0x20 ∧ writtenChar c = '\\' :: 'u' :: Text.hex 4 c.toNat) ∨
      (c ≠ '"' ∧ c ≠ '\\' ∧ 0x20 ≤ c.toNat ∧ writtenChar c = [c]) := by
  unfold writtenChar
  split
  · subst_vars
    exact .inl ⟨'"', by decide, rfl, rfl⟩
  split
  · subst_vars
    exact .inl ⟨'\\', by decide, rfl, rfl⟩
  split
  · subst_vars
    exact .inl ⟨'n', by decide, rfl, rfl⟩
  split
  · subst_vars
    exact .inl ⟨'r', by decide, rfl, rfl⟩
  split
  · subst_vars
    exact .inl ⟨'t', by decide, rfl, rfl⟩
  split
  · rename_i code
    obtain rfl : c = Char.ofNat 8 := Char.toNat_inj.mp code
    exact .inl ⟨'b', by decide, rfl, rfl⟩
  split
  · rename_i code
    obtain rfl : c = Char.ofNat 12 := Char.toNat_inj.mp code
    exact .inl ⟨'f', by decide, rfl, rfl⟩
  split
  · rename_i control
    exact .inr (.inl ⟨control, rfl⟩)
  · rename_i not_quote not_backslash _ _ _ _ _ visible
    exact .inr (.inr ⟨not_quote, not_backslash, Nat.le_of_not_lt visible, rfl⟩)

theorem writtenChar_ne_nil (c : Char) : writtenChar c ≠ [] := by
  rcases writtenChar_cases c with ⟨_, _, _, spelled⟩ | ⟨_, spelled⟩ | ⟨_, _, _, spelled⟩
  all_goals simp [spelled]

/-- An escape by letter is read as the code of what it stands for. -/
theorem stringFrom_simpleEscape (start fuel : Nat) {letter c : Char} (rest : List Char)
    (not_code : letter ≠ 'u') (stands : simpleEscape? letter = some c) :
    stringFrom start (fuel + 1) ('\\' :: letter :: rest) =
      (stringFrom start fuel rest).map fun found => (c.toNat :: found.1, found.2) := by
  have not_quote : '\\' ≠ '"' := by decide
  simp only [stringFrom, not_quote, if_false, if_true, stands]
  cases stringFrom start fuel rest <;> rfl

/-- A written character is read as its code, unless the text ends with it. -/
theorem stringFrom_writtenChar (start fuel : Nat) (c : Char) {rest : List Char}
    (more : rest ≠ []) :
    stringFrom start (fuel + 1) (writtenChar c ++ rest) =
      (stringFrom start fuel rest).map fun found => (c.toNat :: found.1, found.2) := by
  rcases writtenChar_cases c with
    ⟨letter, not_code, stands, spelled⟩ | ⟨control, spelled⟩ |
      ⟨not_quote, not_backslash, visible, spelled⟩
  · rw [spelled]
    exact stringFrom_simpleEscape start fuel rest not_code stands
  · have not_quote : '\\' ≠ '"' := by decide
    simp only [spelled, List.cons_append, stringFrom, not_quote, if_false, if_true,
      codeEscape_hex control more]
    cases found : stringFrom start fuel rest <;>
      simp [found, bind, Except.bind, Except.map, pure, Except.pure]
  · have not_control : ¬c.toNat ≤ 0x1f := by omega
    simp only [spelled, List.singleton_append, stringFrom, not_quote, not_backslash, not_control,
      if_false]
    cases stringFrom start fuel rest <;> rfl

/-- The inside of a written string is read as its codes. -/
theorem stringFrom_written (start : Nat) (text rest : List Char) {fuel : Nat}
    (enough : text.length < fuel) :
    stringFrom start fuel (text.flatMap writtenChar ++ '"' :: rest) =
      .ok (text.map Char.toNat, rest) := by
  induction text generalizing fuel with
  | nil =>
      obtain ⟨fuel, rfl⟩ := Nat.exists_eq_succ_of_ne_zero (Nat.ne_zero_of_lt enough)
      rfl
  | cons c text ih =>
      obtain ⟨fuel, rfl⟩ := Nat.exists_eq_succ_of_ne_zero (Nat.ne_zero_of_lt enough)
      rw [List.flatMap_cons, List.append_assoc, stringFrom_writtenChar _ _ _ (by simp),
        ih (Nat.lt_of_succ_lt_succ enough)]
      rfl

theorem length_le_length_written (text : List Char) :
    text.length ≤ (text.flatMap writtenChar).length := by
  induction text with
  | nil => rfl
  | cons c text ih =>
      have := List.length_pos_iff.mpr (writtenChar_ne_nil c)
      rw [List.flatMap_cons, List.length_append, List.length_cons]
      omega

theorem stringAfterQuote_written (text rest : List Char) :
    stringAfterQuote (text.flatMap writtenChar ++ '"' :: rest) =
      .ok (text.map Char.toNat, rest) := by
  apply stringFrom_written
  have := length_le_length_written text
  rw [List.length_append]
  omega

/-- The codes of a text are that text. -/
theorem textOfCodes_map_toNat (text : String) :
    textOfCodes (text.toList.map Char.toNat) = .text text := by
  have valid : (text.toList.map Char.toNat).all (·.isValidChar) = true := by
    simp only [List.all_map, List.all_eq_true, Function.comp_apply, decide_eq_true_eq]
    exact fun c _ => c.valid
  rw [textOfCodes, if_pos valid, List.map_map]
  have same : Char.ofNat ∘ Char.toNat = id := funext Char.ofNat_toNat
  rw [same, List.map_id, String.ofList_toList]

theorem value_writtenString (text : String) (rest : List Char) (fuel : Nat) :
    value (fuel + 1) (writtenString text.toList ++ rest) = .ok (.text text, rest) := by
  simp only [writtenString, List.cons_append, List.append_assoc, value, stringAfterQuote_written]
  exact congrArg (fun found => Except.ok (found, rest)) (textOfCodes_map_toNat text)

/-! ## Lines -/

theorem skipBlanks_cons_of_not_isBlank {c : Char} (rest : List Char) (dark : isBlank c = false) :
    skipBlanks (c :: rest) = c :: rest := by
  simp [skipBlanks, dark]

theorem skipBlanks_cons_of_isBlank {c : Char} (rest : List Char) (blank : isBlank c = true) :
    skipBlanks (c :: rest) = skipBlanks rest := by
  simp [skipBlanks, blank]

@[simp]
theorem skipBlanks_lineBreak (depth : Nat) (rest : List Char) :
    skipBlanks (lineBreak depth ++ rest) = skipBlanks rest := by
  have blank : ∀ c ∈ lineBreak depth, isBlank c = true := by
    simp [lineBreak, isBlank]
  exact List.dropWhile_append_of_pos blank

@[simp]
theorem skipBlanks_writtenString (text rest : List Char) :
    skipBlanks (writtenString text ++ rest) = writtenString text ++ rest :=
  skipBlanks_cons_of_not_isBlank _ rfl

theorem commaLines_cons_cons (depth : Nat) (item next : List Char) (rest : List (List Char)) :
    commaLines depth (item :: next :: rest) =
      lineBreak depth ++ item ++ ',' :: commaLines depth (next :: rest) :=
  rfl

theorem length_le_length_commaLines (depth : Nat) (lines : List (List Char)) :
    lines.length ≤ (commaLines depth lines).length := by
  induction lines with
  | nil => rfl
  | cons line rest ih =>
      cases rest with
      | nil => simp [commaLines, lineBreak]
      | cons next rest =>
          simp only [commaLines_cons_cons, List.length_append, List.length_cons] at ih ⊢
          omega

theorem length_line_le_length_commaLines (depth : Nat) {line : List Char}
    {lines : List (List Char)} (member : line ∈ lines) :
    line.length ≤ (commaLines depth lines).length := by
  induction lines with
  | nil => contradiction
  | cons first rest ih =>
      cases rest with
      | nil =>
          obtain rfl := List.mem_singleton.mp member
          simp [commaLines]
      | cons next rest =>
          rw [commaLines_cons_cons, List.length_append, List.length_append, List.length_cons]
          rcases List.mem_cons.mp member with rfl | later
          · omega
          · have := ih later
            omega

theorem skipBlanks_commaLines (depth : Nat) {line : List Char} (more : List (List Char))
    (rest : List Char) (dark : ∀ after, skipBlanks (line ++ after) = line ++ after) :
    ∃ after, skipBlanks (commaLines depth (line :: more) ++ rest) = line ++ after := by
  cases more with
  | nil => exact ⟨rest, by rw [commaLines, List.append_assoc, skipBlanks_lineBreak, dark]⟩
  | cons next more =>
      exact ⟨_, by rw [commaLines_cons_cons, List.append_assoc, List.append_assoc,
        skipBlanks_lineBreak, dark]⟩

/-! ## Arrays -/

theorem elements_of_bracket {fuel : Nat} {text after rest : List Char} {item : Value}
    (first : value fuel text = .ok (item, after)) (closed : skipBlanks after = ']' :: rest) :
    elements (fuel + 1) text = .ok ([item], rest) := by
  simp [elements, first, closed, bind, Except.bind, pure, Except.pure]

theorem elements_of_comma {fuel : Nat} {text after rest : List Char} {item : Value}
    (first : value fuel text = .ok (item, after)) (going_on : skipBlanks after = ',' :: rest) :
    elements (fuel + 1) text =
      (elements fuel (skipBlanks rest)).map fun found => (item :: found.1, found.2) := by
  simp only [elements, first, going_on, bind, Except.bind]
  cases elements fuel (skipBlanks rest) <;> rfl

/-- The lines of an array are read as its elements. -/
theorem elements_commaLines (depth outer : Nat) (items : List String) (rest : List Char)
    (nonempty : items ≠ []) {fuel : Nat} (enough : items.length < fuel) :
    elements fuel (skipBlanks
      (commaLines depth (items.map fun item => writtenString item.toList) ++
        (lineBreak outer ++ ']' :: rest))) = .ok (items.map .text, rest) := by
  induction items generalizing fuel with
  | nil => contradiction
  | cons item more ih =>
      obtain ⟨left, rfl⟩ : ∃ left, fuel = left + 1 + 1 :=
        ⟨fuel - 2, by rw [List.length_cons] at enough; omega⟩
      cases more with
      | nil =>
          simp only [List.map_cons, List.map_nil, commaLines, List.append_assoc,
            skipBlanks_lineBreak, skipBlanks_writtenString]
          exact elements_of_bracket (value_writtenString _ _ _)
            (skipBlanks_lineBreak outer (']' :: rest))
      | cons next more =>
          have later := ih (List.cons_ne_nil _ _) (Nat.lt_of_succ_lt_succ enough)
          simp only [List.map_cons, commaLines_cons_cons, List.append_assoc, List.cons_append,
            skipBlanks_lineBreak, skipBlanks_writtenString] at later ⊢
          rw [elements_of_comma (value_writtenString _ _ _)
            (skipBlanks_cons_of_not_isBlank _ rfl), later]
          rfl

/-- What follows an opening bracket is read as elements, unless the bracket is closed at once. -/
theorem value_of_bracket {fuel : Nat} {text after rest : List Char} {c : Char}
    {items : List Value} (opened : skipBlanks text = c :: after) (open_still : c ≠ ']')
    (inside : elements fuel (c :: after) = .ok (items, rest)) :
    value (fuel + 1) ('[' :: text) = .ok (.list items, rest) := by
  rw [value, opened]
  split
  · rename_i closed
    exact absurd (List.cons.inj closed).1 open_still
  · simp [inside, bind, Except.bind, pure, Except.pure]

/-- A written array is read as the list of its elements. -/
theorem value_writtenArray (depth : Nat) (items : List String) (rest : List Char) {fuel : Nat}
    (enough : items.length + 1 < fuel) :
    value fuel (writtenArray depth items ++ rest) = .ok (.list (items.map .text), rest) := by
  obtain ⟨fuel, rfl⟩ := Nat.exists_eq_add_of_le' (Nat.lt_of_le_of_lt (Nat.zero_le _) enough)
  cases items with
  | nil => rfl
  | cons item more =>
      have inside := elements_commaLines (depth + 1) depth (item :: more) rest
        (List.cons_ne_nil _ _) (Nat.lt_of_succ_lt_succ enough)
      obtain ⟨after, quoted⟩ := skipBlanks_commaLines (depth + 1)
        (more.map fun item => writtenString item.toList) (lineBreak depth ++ ']' :: rest)
        (skipBlanks_writtenString item.toList)
      have opened : writtenArray depth (item :: more) ++ rest =
          '[' :: (commaLines (depth + 1)
            ((item :: more).map fun item => writtenString item.toList) ++
              (lineBreak depth ++ ']' :: rest)) := by
        simp [writtenArray]
      rw [opened]
      rw [List.map_cons, quoted] at inside
      exact value_of_bracket quoted (by decide) inside

@[simp]
theorem skipBlanks_writtenArray (depth : Nat) (items : List String) (rest : List Char) :
    skipBlanks (writtenArray depth items ++ rest) = writtenArray depth items ++ rest := by
  cases items with
  | nil => rfl
  | cons item more =>
      simp only [writtenArray, List.isEmpty_cons, Bool.false_eq_true, if_false, List.cons_append]
      exact skipBlanks_cons_of_not_isBlank _ rfl

theorem length_le_length_writtenArray (depth : Nat) (items : List String) :
    items.length ≤ (writtenArray depth items).length := by
  cases items with
  | nil => exact Nat.zero_le _
  | cons item more =>
      have := length_le_length_commaLines (depth + 1)
        ((item :: more).map fun item => writtenString item.toList)
      rw [List.length_map] at this
      simp only [writtenArray, List.isEmpty_cons, Bool.false_eq_true, if_false, List.length_append,
        List.length_cons] at this ⊢
      omega

/-! ## Objects -/

/-- A member as it is written. -/
def writtenMember (member : String × List String) : List Char :=
  writtenString member.1.toList ++ ':' :: ' ' :: writtenArray 1 member.2

/-- The entries after those in `soFar` that written members are read as. -/
def assignMembers (soFar : List (Value × Value)) (written : List (String × List String)) :
    List (Value × Value) :=
  written.foldl (fun entries member =>
    Value.assign (.text member.1) (.list (member.2.map .text)) entries) soFar

@[simp]
theorem skipBlanks_writtenMember (member : String × List String) (rest : List Char) :
    skipBlanks (writtenMember member ++ rest) = writtenMember member ++ rest := by
  rw [writtenMember, List.append_assoc, skipBlanks_writtenString]

theorem members_writtenMember {fuel : Nat} (soFar : List (Value × Value))
    (member : String × List String) (after : List Char) (enough : member.2.length + 1 < fuel) :
    members (fuel + 1) soFar (writtenMember member ++ after) =
      match skipBlanks after with
      | '\x7d' :: rest => .ok (assignMembers soFar [member], rest)
      | ',' :: rest => members fuel (assignMembers soFar [member]) (skipBlanks rest)
      | rest => .error (.problem .expectingComma rest.length) := by
  have colon (rest : List Char) : skipBlanks (':' :: rest) = ':' :: rest :=
    skipBlanks_cons_of_not_isBlank rest rfl
  have item : skipBlanks (' ' :: (writtenArray 1 member.2 ++ after)) =
      writtenArray 1 member.2 ++ after := by
    rw [skipBlanks_cons_of_isBlank _ rfl, skipBlanks_writtenArray]
  simp only [writtenMember, writtenString, List.cons_append, List.append_assoc, List.nil_append,
    members, stringAfterQuote_written, bind, Except.bind, colon, item,
    value_writtenArray 1 member.2 after enough, textOfCodes_map_toNat]
  rfl

/-- The lines of an object are read as its members. -/
theorem members_commaLines (depth outer : Nat) (soFar : List (Value × Value))
    (written : List (String × List String)) (rest : List Char) (nonempty : written ≠ [])
    {fuel : Nat} (enough : ∀ member ∈ written, written.length + member.2.length + 1 < fuel) :
    members fuel soFar (skipBlanks
      (commaLines depth (written.map writtenMember) ++ (lineBreak outer ++ '\x7d' :: rest))) =
        .ok (assignMembers soFar written, rest) := by
  induction written generalizing fuel soFar with
  | nil => contradiction
  | cons member more ih =>
      obtain ⟨left, rfl⟩ : ∃ left, fuel = left + 1 :=
        ⟨fuel - 1, by have := enough member List.mem_cons_self; omega⟩
      have enough_here : member.2.length + 1 < left := by
        have := enough member List.mem_cons_self
        rw [List.length_cons] at this
        omega
      cases more with
      | nil =>
          simp only [List.map_cons, List.map_nil, commaLines, List.append_assoc,
            skipBlanks_lineBreak, skipBlanks_writtenMember,
            members_writtenMember soFar member _ enough_here]
          rfl
      | cons next more =>
          have enough_later : ∀ other ∈ next :: more,
              (next :: more).length + other.2.length + 1 < left := by
            intro other present
            have := enough other (List.mem_cons_of_mem _ present)
            rw [List.length_cons] at this
            omega
          have later := ih (assignMembers soFar [member]) (List.cons_ne_nil _ _) enough_later
          simp only [List.map_cons, commaLines_cons_cons, List.append_assoc, List.cons_append,
            skipBlanks_lineBreak, skipBlanks_writtenMember,
            members_writtenMember soFar member _ enough_here,
            skipBlanks_cons_of_not_isBlank _ (rfl : isBlank ',' = false)] at later ⊢
          exact later

theorem value_of_brace {fuel : Nat} {text after rest : List Char} {entries : List (Value × Value)}
    (opened : skipBlanks text = '"' :: after)
    (inside : members fuel [] ('"' :: after) = .ok (entries, rest)) :
    value (fuel + 1) ('\x7b' :: text) = .ok (.mapping entries, rest) := by
  rw [value, opened]
  simp [inside, bind, Except.bind, pure, Except.pure]

theorem length_items_le_length_writtenMember (member : String × List String) :
    member.2.length ≤ (writtenMember member).length := by
  have := length_le_length_writtenArray 1 member.2
  simp only [writtenMember, List.length_append, List.length_cons]
  omega

/-- A written object is read as the mapping of its members, also with blanks behind it. -/
theorem document_writtenObject (written : List (String × List String)) (nonempty : written ≠ [])
    {rest : List Char} (blank : skipBlanks rest = []) :
    document (writtenObject written ++ rest) = .ok (.mapping (assignMembers [] written)) := by
  obtain ⟨member, more, rfl⟩ := List.exists_cons_of_ne_nil nonempty
  have opened : writtenObject (member :: more) ++ rest =
      '\x7b' :: (commaLines 1 ((member :: more).map writtenMember) ++
        (lineBreak 0 ++ '\x7d' :: rest)) := by
    simp only [writtenObject, List.cons_append, List.append_assoc, List.nil_append]
    rfl
  have enough : ∀ other ∈ member :: more, (member :: more).length + other.2.length + 1 <
      2 * (writtenObject (member :: more) ++ rest).length + 1 := by
    intro other present
    have lines := length_le_length_commaLines 1 ((member :: more).map writtenMember)
    have line := length_line_le_length_commaLines 1
      (List.mem_map_of_mem (f := writtenMember) present)
    have items := length_items_le_length_writtenMember other
    rw [List.length_map] at lines
    rw [opened]
    simp only [List.length_cons, List.length_append] at lines ⊢
    omega
  obtain ⟨after, quoted⟩ := skipBlanks_commaLines 1 (more.map writtenMember)
    (lineBreak 0 ++ '\x7d' :: rest) (skipBlanks_writtenMember member)
  have inside := members_commaLines 1 0 [] (member :: more) rest nonempty enough
  rw [List.map_cons, quoted] at inside
  have whole := value_of_brace quoted inside
  rw [← List.map_cons, ← opened] at whole
  have start : skipBlanks (writtenObject (member :: more) ++ rest) =
      writtenObject (member :: more) ++ rest := by
    rw [opened]
    exact skipBlanks_cons_of_not_isBlank _ rfl
  have no_mark : ¬(writtenObject (member :: more) ++ rest).head? = some (Char.ofNat 0xfeff) := by
    rw [opened]
    simp
  simp only [document, if_neg no_mark, start, whole, bind, Except.bind, blank]
  rfl

/-- A written object is read as the mapping of its members, also with blanks behind it. -/
theorem read_writtenObject (written : List (String × List String)) (nonempty : written ≠ [])
    {rest : List Char} (blank : skipBlanks rest = []) :
    read (String.ofList (writtenObject written ++ rest)) =
      .ok (.mapping (assignMembers [] written)) := by
  rw [read, String.toList_ofList, document_writtenObject written nonempty blank]
  rfl

/-! ## Line ends -/

/-- Carriage returns are escaped. -/
theorem carriageReturn_not_mem_writtenChar (c : Char) : '\r' ∉ writtenChar c := by
  have codes {n : Nat} (control : n < 0x20) : '\r' ∉ Text.hex 4 n := by
    interval_cases n <;> decide
  rcases writtenChar_cases c with
    ⟨letter, _, meaning, spelled⟩ | ⟨control, spelled⟩ | ⟨_, _, visible, spelled⟩
  · rw [spelled]
    rintro returned
    have letter_is : '\r' = letter := by simpa using returned
    rw [← letter_is] at meaning
    contradiction
  · simp [spelled, codes control]
  · rw [spelled, List.mem_singleton]
    rintro rfl
    contradiction

theorem carriageReturn_not_mem_writtenString (text : List Char) : '\r' ∉ writtenString text := by
  simp [writtenString, carriageReturn_not_mem_writtenChar]

theorem carriageReturn_not_mem_lineBreak (depth : Nat) : '\r' ∉ lineBreak depth := by
  simp [lineBreak]

theorem carriageReturn_not_mem_commaLines (depth : Nat) {lines : List (List Char)}
    (clean : ∀ line ∈ lines, '\r' ∉ line) : '\r' ∉ commaLines depth lines := by
  fun_induction commaLines depth lines with
  | case1 => simp
  | case2 line => simp [carriageReturn_not_mem_lineBreak, clean]
  | case3 line rest _ ih =>
      have later := ih fun other present => clean other (List.mem_cons_of_mem _ present)
      simp [carriageReturn_not_mem_lineBreak, clean, later]

theorem carriageReturn_not_mem_writtenArray (depth : Nat) (items : List String) :
    '\r' ∉ writtenArray depth items := by
  unfold writtenArray
  split
  · simp
  · have lines := carriageReturn_not_mem_commaLines (depth + 1)
      (List.forall_mem_map (l := items).mpr fun item _ =>
        carriageReturn_not_mem_writtenString item.toList)
    simp [carriageReturn_not_mem_lineBreak, lines]

/-- What is written has no carriage return in it. -/
theorem carriageReturn_not_mem_writtenObject (written : List (String × List String)) :
    '\r' ∉ writtenObject written := by
  have line (member : String × List String) : '\r' ∉ writtenMember member := by
    simp [writtenMember, carriageReturn_not_mem_writtenString,
      carriageReturn_not_mem_writtenArray]
  have lines := carriageReturn_not_mem_commaLines 1
    (List.forall_mem_map (l := written).mpr fun member _ => line member)
  change '\r' ∉ '\x7b' :: commaLines 1 (written.map writtenMember) ++ lineBreak 0 ++ ['\x7d']
  simp [carriageReturn_not_mem_lineBreak, lines]

end OpcachePreload.Json
