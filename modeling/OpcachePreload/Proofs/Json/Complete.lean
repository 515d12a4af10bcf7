import OpcachePreload.Proofs.Json.Sound

/-!
# What is written is read

A value that is written as the grammar has it is read as that value, whatever ends it, if reading
may go on as long as its text.
-/

namespace OpcachePreload.Json

variable {text rest blanks : List Char} {found : Value} {fuel : Nat} {numeral : Numeral}

/-! ## Blanks and ends -/

theorem skipBlanks_append (blank : Blank blanks) (text : List Char) :
    skipBlanks (blanks ++ text) = skipBlanks text :=
  List.dropWhile_append_of_pos blank

theorem ends_of_mem {c : Char} (ends : isBlank c = true ∨ c = ',' ∨ c = ']' ∨ c = '\x7d')
    (rest : List Char) : Ends (c :: rest) := by
  rintro _ ⟨⟩
  exact ends

theorem Ends.behind (ends : Ends rest) (blank : Blank blanks) : Ends (blanks ++ rest) := by
  cases blanks with
  | nil => exact ends
  | cons c blanks => exact ends_of_mem (.inl (blank c List.mem_cons_self)) _

/-- A text that starts like a value. -/
def Starts (text : List Char) : Prop :=
  ∃ c more, text = c :: more ∧ isBlank c = false ∧ c ≠ ']' ∧ c ≠ Char.ofNat 0xfeff

theorem ne_of_isDigit {c other : Char} (digit : c.isDigit = true)
    (no_digit : other.isDigit = false) : c ≠ other := by
  rintro rfl
  simp [digit] at no_digit

theorem starts_of_isDigit {c : Char} (digit : c.isDigit = true) (more : List Char) :
    Starts (c :: more) := by
  refine ⟨c, more, rfl, ?_, ne_of_isDigit digit rfl, ne_of_isDigit digit rfl⟩
  simp only [isBlank, Bool.or_eq_false_iff, beq_eq_false_iff_ne]
  exact ⟨⟨⟨ne_of_isDigit digit rfl, ne_of_isDigit digit rfl⟩, ne_of_isDigit digit rfl⟩,
    ne_of_isDigit digit rfl⟩

theorem Numeral.Formed.exists_text_eq (formed : numeral.Formed) :
    ∃ c more, c.isDigit = true ∧ numeral.text = signText numeral.negative ++ c :: more := by
  obtain ⟨c, more, whole_eq, digit⟩ := formed.whole.exists_cons
  exact ⟨c, _, digit, by rw [text, whole_eq, List.cons_append]⟩

theorem Numeral.Formed.starts (formed : numeral.Formed) : Starts numeral.text := by
  obtain ⟨c, more, digit, text_eq⟩ := formed.exists_text_eq
  rw [text_eq]
  cases numeral.negative with
  | true => exact ⟨_, _, rfl, by decide, by decide, by decide⟩
  | false => exact starts_of_isDigit digit more

theorem Spelled.starts (spelled : Spelled text found) : Starts text := by
  cases spelled with
  | name listed =>
      simp only [names, List.mem_cons, List.not_mem_nil, or_false] at listed
      rcases listed with rfl | rfl | rfl | rfl | rfl | rfl <;>
        exact ⟨_, _, rfl, by decide, by decide, by decide⟩
  | number proper => exact proper.toFormed.starts
  | string => exact ⟨_, _, rfl, by decide, by decide, by decide⟩
  | emptyArray => exact ⟨_, _, rfl, by decide, by decide, by decide⟩
  | array => exact ⟨_, _, rfl, by decide, by decide, by decide⟩
  | emptyObject => exact ⟨_, _, rfl, by decide, by decide, by decide⟩
  | object => exact ⟨_, _, rfl, by decide, by decide, by decide⟩

theorem skipBlanks_append_of_starts (starts : Starts text) (rest : List Char) :
    skipBlanks (text ++ rest) = text ++ rest := by
  obtain ⟨c, more, rfl, dark, _⟩ := starts
  exact skipBlanks_cons_of_not_isBlank _ dark

/-! ## Names and numbers -/

theorem value_of_name {entry : List Char × Value} (listed : entry ∈ names) (rest : List Char)
    (fuel : Nat) : value (fuel + 1) (entry.1 ++ rest) = .ok (entry.2, rest) := by
  simp only [names, List.mem_cons, List.not_mem_nil, or_false] at listed
  rcases listed with rfl | rfl | rfl | rfl | rfl | rfl <;> rfl

/-- No name starts with a digit, or with a minus and a digit. -/
theorem name?_signText_append (negative : Bool) {c : Char} (digit : c.isDigit = true)
    (rest : List Char) : name? (Numeral.signText negative ++ c :: rest) = none := by
  have different {other : Char} (no_digit : other.isDigit = false) : ¬other = c :=
    (ne_of_isDigit digit no_digit).symm
  rw [name?, Option.map_eq_none_iff, List.find?_eq_none]
  intro entry listed
  simp only [names, List.mem_cons, List.not_mem_nil, or_false] at listed
  cases negative <;> rcases listed with rfl | rfl | rfl | rfl | rfl | rfl <;>
    simp [Numeral.signText, different]

theorem value_of_name?_eq_none {c : Char} (no_quote : c ≠ '"') (no_brace : c ≠ '\x7b')
    (no_bracket : c ≠ '[') (unnamed : name? (c :: rest) = none) (fuel : Nat) :
    value (fuel + 1) (c :: rest) = number (c :: rest) := by
  unfold value
  split
  · rename_i same
    exact absurd (List.cons.inj same).1 no_quote
  · rename_i same
    exact absurd (List.cons.inj same).1 no_brace
  · rename_i same
    exact absurd (List.cons.inj same).1 no_bracket
  · rw [unnamed]

theorem value_text_append (formed : numeral.Formed) (rest : List Char) (fuel : Nat) :
    value (fuel + 1) (numeral.text ++ rest) = number (numeral.text ++ rest) := by
  obtain ⟨c, more, digit, text_eq⟩ := formed.exists_text_eq
  have unnamed := name?_signText_append numeral.negative digit (more ++ rest)
  rw [text_eq, List.append_assoc, List.cons_append]
  cases negative : numeral.negative with
  | true =>
      rw [negative] at unnamed
      exact value_of_name?_eq_none (by decide) (by decide) (by decide) unnamed fuel
  | false =>
      rw [negative] at unnamed
      exact value_of_name?_eq_none (ne_of_isDigit digit rfl) (ne_of_isDigit digit rfl)
        (ne_of_isDigit digit rfl) unnamed fuel

theorem value_of_numeral (proper : numeral.Proper) (ends : Ends rest) (fuel : Nat) :
    value (fuel + 1) (numeral.text ++ rest) = .ok (numeral.value, rest) := by
  rw [value_text_append proper.toFormed, number_of_numeral proper ends]

/-! ## Values -/

/-- A text that is read as a value, whatever ends it. -/
def ReadAs (text : List Char) (found : Value) : Prop :=
  ∀ rest fuel, Ends rest → text.length ≤ fuel → value fuel (text ++ rest) = .ok (found, rest)

theorem Item.skipBlanks_written {item : Item} (padded : item.Padded) (starts : Starts item.text)
    (rest : List Char) :
    skipBlanks (item.written ++ rest) = item.text ++ (item.after ++ rest) := by
  rw [written, List.append_assoc, skipBlanks_append padded.before, List.append_assoc,
    skipBlanks_append_of_starts starts]

/-- An item is read up to what follows it. -/
theorem elements_of_item {item : Item} (padded : item.Padded) (starts : Starts item.text)
    (read : ReadAs item.text item.value) {tail : List Char} (ends : Ends tail)
    (enough : item.text.length ≤ fuel) :
    elements (fuel + 1) (skipBlanks (item.written ++ tail)) =
      match skipBlanks tail with
      | ']' :: rest => .ok ([item.value], rest)
      | ',' :: rest =>
        (elements fuel (skipBlanks rest)).bind fun found => .ok (item.value :: found.1, found.2)
      | rest => .error (.problem .expectingComma rest.length) := by
  have item_read := read (item.after ++ tail) fuel (ends.behind padded.after) enough
  rw [Item.skipBlanks_written padded starts, elements]
  simp only [item_read, bind, Except.bind, skipBlanks_append padded.after]
  rfl

theorem Item.length_text_le_length_written (item : Item) :
    item.text.length ≤ item.written.length := by
  simp only [written, List.length_append]
  omega

/-- Items are read up to the closing bracket. -/
theorem elements_of_items (items : List Item) (rest : List Char) (some_items : items ≠ [])
    (padded : ∀ item ∈ items, item.Padded) (starts : ∀ item ∈ items, Starts item.text)
    (read : ∀ item ∈ items, ReadAs item.text item.value)
    (enough : (Text.joinWith ',' (items.map Item.written)).length < fuel) :
    elements fuel (skipBlanks (Text.joinWith ',' (items.map Item.written) ++ ']' :: rest)) =
      .ok (items.map Item.value, rest) := by
  induction items generalizing fuel with
  | nil => contradiction
  | cons item more ih =>
      obtain ⟨fuel, rfl⟩ := Nat.exists_eq_succ_of_ne_zero (Nat.ne_zero_of_lt enough)
      have first (tail : List Char) (ends : Ends tail) (short : item.text.length ≤ fuel) :=
        elements_of_item (padded item List.mem_cons_self) (starts item List.mem_cons_self)
          (read item List.mem_cons_self) ends short
      have shorter := item.length_text_le_length_written
      cases more with
      | nil =>
          have short : item.text.length ≤ fuel := by
            simp only [List.map_cons, List.map_nil, Text.joinWith] at enough
            omega
          simp only [List.map_cons, List.map_nil, Text.joinWith]
          rw [first _ (ends_of_mem (by simp) rest) short,
            skipBlanks_cons_of_not_isBlank rest (rfl : isBlank ']' = false)]
          rfl
      | cons next more =>
          have joined : Text.joinWith ',' ((item :: next :: more).map Item.written) =
              item.written ++ ',' :: Text.joinWith ',' ((next :: more).map Item.written) := rfl
          rw [joined, List.length_append, List.length_cons] at enough
          have enough_later :
              (Text.joinWith ',' ((next :: more).map Item.written)).length < fuel := by omega
          have short : item.text.length ≤ fuel := by omega
          have later := ih (List.cons_ne_nil _ _)
            (fun other listed => padded other (List.mem_cons_of_mem _ listed))
            (fun other listed => starts other (List.mem_cons_of_mem _ listed))
            (fun other listed => read other (List.mem_cons_of_mem _ listed)) enough_later
          rw [joined, List.append_assoc, List.cons_append, first _ (ends_of_mem (by simp) _) short,
            skipBlanks_cons_of_not_isBlank _ (rfl : isBlank ',' = false)]
          change (elements fuel _).bind _ = _
          rw [later]
          rfl

/-! ## Members -/

/-- A member is read up to what follows its value. -/
theorem members_of_member {member : Member} (padded : member.Padded)
    (starts : Starts member.item.text) (read : ReadAs member.item.text member.item.value)
    (soFar : List (Value × Value)) {tail : List Char} (ends : Ends tail)
    (enough : member.item.text.length ≤ fuel) :
    members (fuel + 1) soFar (skipBlanks (member.written ++ tail)) =
      match skipBlanks tail with
      | '\x7d' :: rest => .ok (Value.assign member.name member.item.value soFar, rest)
      | ',' :: rest =>
        members fuel (Value.assign member.name member.item.value soFar) (skipBlanks rest)
      | rest => .error (.problem .expectingComma rest.length) := by
  have colon (rest : List Char) : skipBlanks (':' :: rest) = ':' :: rest :=
    skipBlanks_cons_of_not_isBlank rest rfl
  have quote (rest : List Char) : skipBlanks ('"' :: rest) = '"' :: rest :=
    skipBlanks_cons_of_not_isBlank rest rfl
  have item_read := read (member.item.after ++ tail) fuel (ends.behind padded.item.after) enough
  simp only [Member.written, List.append_assoc, List.cons_append, skipBlanks_append padded.before,
    quote, members, stringAfterQuote_of_quoted padded.inside, bind, Except.bind,
    skipBlanks_append padded.between, colon, Item.skipBlanks_written padded.item starts, item_read,
    skipBlanks_append padded.item.after]
  rfl

theorem Member.length_text_lt_length_written (member : Member) :
    member.item.text.length < member.written.length := by
  have := member.item.length_text_le_length_written
  simp only [written, List.length_append, List.length_cons]
  omega

/-- Members are read up to the closing brace. -/
theorem members_of_members (list : List Member) (soFar : List (Value × Value)) (rest : List Char)
    (some_members : list ≠ []) (padded : ∀ member ∈ list, member.Padded)
    (starts : ∀ member ∈ list, Starts member.item.text)
    (read : ∀ member ∈ list, ReadAs member.item.text member.item.value)
    (enough : (Text.joinWith ',' (list.map Member.written)).length < fuel) :
    members fuel soFar (skipBlanks
      (Text.joinWith ',' (list.map Member.written) ++ '\x7d' :: rest)) =
        .ok (entriesAfter soFar list, rest) := by
  induction list generalizing fuel soFar with
  | nil => contradiction
  | cons member more ih =>
      obtain ⟨fuel, rfl⟩ := Nat.exists_eq_succ_of_ne_zero (Nat.ne_zero_of_lt enough)
      have first (tail : List Char) (ends : Ends tail) (short : member.item.text.length ≤ fuel) :=
        members_of_member (padded member List.mem_cons_self) (starts member List.mem_cons_self)
          (read member List.mem_cons_self) soFar ends short
      have shorter := member.length_text_lt_length_written
      cases more with
      | nil =>
          have short : member.item.text.length ≤ fuel := by
            simp only [List.map_cons, List.map_nil, Text.joinWith] at enough
            omega
          simp only [List.map_cons, List.map_nil, Text.joinWith]
          rw [first _ (ends_of_mem (by simp) rest) short,
            skipBlanks_cons_of_not_isBlank rest (rfl : isBlank '\x7d' = false)]
          rfl
      | cons next more =>
          have joined : Text.joinWith ',' ((member :: next :: more).map Member.written) =
              member.written ++ ',' :: Text.joinWith ',' ((next :: more).map Member.written) := rfl
          rw [joined, List.length_append, List.length_cons] at enough
          have enough_later :
              (Text.joinWith ',' ((next :: more).map Member.written)).length < fuel := by omega
          have short : member.item.text.length ≤ fuel := by omega
          have later := ih (Value.assign member.name member.item.value soFar) (List.cons_ne_nil _ _)
            (fun other listed => padded other (List.mem_cons_of_mem _ listed))
            (fun other listed => starts other (List.mem_cons_of_mem _ listed))
            (fun other listed => read other (List.mem_cons_of_mem _ listed)) enough_later
          rw [joined, List.append_assoc, List.cons_append, first _ (ends_of_mem (by simp) _) short,
            skipBlanks_cons_of_not_isBlank _ (rfl : isBlank ',' = false)]
          exact later

/-! ## Every value -/

theorem readAs_of_succ (starts : Starts text)
    (read : ∀ rest fuel, Ends rest → text.length ≤ fuel + 1 →
      value (fuel + 1) (text ++ rest) = .ok (found, rest)) : ReadAs text found := by
  intro rest fuel ends enough
  obtain ⟨c, more, rfl, _⟩ := starts
  obtain ⟨fuel, rfl⟩ := Nat.exists_eq_succ_of_ne_zero (Nat.ne_zero_of_lt enough)
  exact read rest fuel ends enough

theorem exists_joinWith_cons_eq (separator : Char) (piece : List Char) (more : List (List Char)) :
    ∃ tail, Text.joinWith separator (piece :: more) = piece ++ tail := by
  cases more with
  | nil => exact ⟨[], (List.append_nil piece).symm⟩
  | cons next more => exact ⟨_, rfl⟩

/-- What the items of an array start with does not close it. -/
theorem exists_skipBlanks_items {items : List Item} (some_items : items ≠ [])
    (padded : ∀ item ∈ items, item.Padded) (starts : ∀ item ∈ items, Starts item.text)
    (tail : List Char) :
    ∃ c after, skipBlanks (Text.joinWith ',' (items.map Item.written) ++ tail) = c :: after ∧
      c ≠ ']' := by
  obtain ⟨item, more, rfl⟩ := List.exists_cons_of_ne_nil some_items
  have item_starts := starts item List.mem_cons_self
  obtain ⟨later, joined⟩ := exists_joinWith_cons_eq ',' item.written (more.map Item.written)
  have opened :=
    Item.skipBlanks_written (padded item List.mem_cons_self) item_starts (later ++ tail)
  obtain ⟨c, text, text_eq, _, open_still, _⟩ := item_starts
  refine ⟨c, text ++ (item.after ++ (later ++ tail)), ?_, open_still⟩
  rw [List.map_cons, joined, List.append_assoc, opened, text_eq, List.cons_append]

/-- The members of an object start with a quote. -/
theorem exists_skipBlanks_members {members : List Member} (some_members : members ≠ [])
    (padded : ∀ member ∈ members, member.Padded) (tail : List Char) :
    ∃ after, skipBlanks (Text.joinWith ',' (members.map Member.written) ++ tail) =
      '"' :: after := by
  obtain ⟨member, more, rfl⟩ := List.exists_cons_of_ne_nil some_members
  obtain ⟨later, joined⟩ := exists_joinWith_cons_eq ',' member.written (more.map Member.written)
  rw [List.map_cons, joined, Member.written, List.append_assoc, List.append_assoc,
    skipBlanks_append (padded member List.mem_cons_self).before]
  exact ⟨_, skipBlanks_cons_of_not_isBlank _ rfl⟩

/-- The text of a value is read as that value. -/
theorem Spelled.readAs (spelled : Spelled text found) : ReadAs text found := by
  induction spelled with
  | name listed =>
      exact readAs_of_succ (Spelled.name listed).starts fun rest fuel _ _ =>
        value_of_name listed rest fuel
  | number proper =>
      exact readAs_of_succ (Spelled.number proper).starts fun rest fuel ends _ =>
        value_of_numeral proper ends fuel
  | string quoted =>
      refine readAs_of_succ (Spelled.string quoted).starts fun rest fuel _ _ => ?_
      simp only [List.cons_append, List.append_assoc, List.nil_append, value,
        stringAfterQuote_of_quoted quoted]
      rfl
  | emptyArray blank =>
      refine readAs_of_succ (Spelled.emptyArray blank).starts fun rest fuel _ _ => ?_
      simp only [List.cons_append, List.append_assoc, List.nil_append, value,
        skipBlanks_append blank, skipBlanks_cons_of_not_isBlank rest (rfl : isBlank ']' = false)]
      rfl
  | array some_items padded spelled read =>
      refine readAs_of_succ (Spelled.array some_items padded spelled).starts
        fun rest fuel _ enough => ?_
      have starts := fun item listed => (spelled item listed).starts
      simp only [List.length_cons, List.length_append, List.length_nil, Nat.add_le_add_iff_right]
        at enough
      have inside := elements_of_items _ rest some_items padded starts read enough
      obtain ⟨c, after, opened, open_still⟩ :=
        exists_skipBlanks_items some_items padded starts (']' :: rest)
      rw [opened] at inside
      simp only [List.cons_append, List.append_assoc, List.nil_append]
      exact value_of_bracket opened open_still inside
  | emptyObject blank =>
      refine readAs_of_succ (Spelled.emptyObject blank).starts fun rest fuel _ _ => ?_
      simp only [List.cons_append, List.append_assoc, List.nil_append, value,
        skipBlanks_append blank,
        skipBlanks_cons_of_not_isBlank rest (rfl : isBlank '\x7d' = false)]
      rfl
  | object some_members padded spelled read =>
      refine readAs_of_succ (Spelled.object some_members padded spelled).starts
        fun rest fuel _ enough => ?_
      have starts := fun member listed => (spelled member listed).starts
      simp only [List.length_cons, List.length_append, List.length_nil, Nat.add_le_add_iff_right]
        at enough
      have inside := members_of_members _ [] rest some_members padded starts read enough
      obtain ⟨after, opened⟩ := exists_skipBlanks_members some_members padded ('\x7d' :: rest)
      rw [opened] at inside
      simp only [List.cons_append, List.append_assoc, List.nil_append]
      exact value_of_brace opened inside

theorem head?_ne_byteOrderMark (blank : Blank blanks) (starts : Starts text) (rest : List Char) :
    (blanks ++ (text ++ rest)).head? ≠ some (Char.ofNat 0xfeff) := by
  cases blanks with
  | nil =>
      obtain ⟨c, more, rfl, _, _, no_mark⟩ := starts
      simpa using no_mark
  | cons c blanks =>
      rintro ⟨⟩
      exact absurd (blank _ List.mem_cons_self) (by decide)

/-- A text is read as a value exactly if it is written in it. -/
theorem document_eq_ok_iff : document text = .ok found ↔ SpelledText text found := by
  constructor
  · intro read
    rcases document_cases text with ⟨other, read', spelled⟩ | ⟨_, _, fails⟩ | ⟨_, fails, _⟩
    · obtain rfl := Except.ok.inj (read.symm.trans read')
      exact spelled
    · simp [read] at fails
    · simp [read] at fails
  · rintro ⟨before, front, after, before_blank, spelled, after_blank, rfl⟩
    have start : skipBlanks (before ++ (front ++ after)) = front ++ after := by
      rw [skipBlanks_append before_blank, skipBlanks_append_of_starts spelled.starts]
    have ends : Ends after := by
      have nothing : Ends [] := by simp [Ends]
      simpa using nothing.behind after_blank
    have read := spelled.readAs after (2 * (front ++ after).length + 2) ends
      (by rw [List.length_append]; omega)
    have nothing : skipBlanks after = [] := List.dropWhile_eq_nil_iff.mpr after_blank
    rw [document, if_neg (head?_ne_byteOrderMark before_blank spelled.starts after)]
    simp only [start, read, nothing, bind, Except.bind]
    rfl

/-! ## Integers with too many digits -/

/-- Reading members stops at one that is an integer with too many digits. -/
theorem members_of_overlong (quoted : Quoted inside codes) (blank : Blank blanks)
    (formed : numeral.Formed) (overlong : numeral.Overlong) (ends : Ends rest) (fuel : Nat)
    (soFar : List (Value × Value)) :
    members (fuel + 2) soFar
      ('"' :: (inside ++ '"' :: ':' :: (blanks ++ (numeral.text ++ rest)))) =
        .error (.tooManyDigits numeral.whole.length) := by
  have after_colon : skipBlanks (blanks ++ (numeral.text ++ rest)) = numeral.text ++ rest := by
    rw [skipBlanks_append blank, skipBlanks_append_of_starts formed.starts]
  have stops : value (fuel + 1) (numeral.text ++ rest) =
      .error (.tooManyDigits numeral.whole.length) := by
    rw [value_text_append formed, number_text_append formed ends, if_pos overlong]
  unfold members
  simp only [stringAfterQuote_of_quoted quoted, bind, Except.bind,
    skipBlanks_cons_of_not_isBlank _ (rfl : isBlank ':' = false), after_colon, stops]

theorem value_of_brace_eq_error {fuel : Nat} {after : List Char} {stop : Stop}
    (opened : skipBlanks text = '"' :: after)
    (stops : members fuel [] ('"' :: after) = .error stop) :
    value (fuel + 1) ('\x7b' :: text) = .error stop := by
  rw [value, opened]
  simp [stops, bind, Except.bind]

/-- An object whose first member is an integer with too many digits is not read, whatever follows.
-/
theorem document_of_overlong (quoted : Quoted inside codes) (blank : Blank blanks)
    (formed : numeral.Formed) (overlong : numeral.Overlong) (ends : Ends rest) :
    document ('\x7b' :: '"' :: (inside ++ '"' :: ':' :: (blanks ++ (numeral.text ++ rest)))) =
      .error (.tooManyDigits numeral.whole.length) := by
  have stops (fuel : Nat) := value_of_brace_eq_error (skipBlanks_cons_of_not_isBlank _ rfl)
    (members_of_overlong quoted blank formed overlong ends fuel [])
  rw [document, if_neg (by simp), skipBlanks_cons_of_not_isBlank _ rfl]
  simp only [List.length_cons, Nat.mul_add, stops, bind, Except.bind]

end OpcachePreload.Json
