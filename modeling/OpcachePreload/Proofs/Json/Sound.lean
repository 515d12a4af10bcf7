import OpcachePreload.Proofs.Json.Numbers
import OpcachePreload.Proofs.Json.Strings

/-!
# What is read was written

Whatever a reader takes off the front of a text is written there as the grammar has it, and where a
reader stops for an integer with too many digits, the text has a run of that many.
-/

namespace OpcachePreload.Json

variable {α β : Type} {spells : List Char → α → Prop} {spells' : List Char → β → Prop}
  {text rest front : List Char} {fuel : Nat} {result : Except Stop (α × List Char)}

/-! ## Readers -/

/-- What may come of reading at a text: something that is written at its front, or a stop, which is
for too many digits only if they are there. -/
def Reads (spells : List Char → α → Prop) (text : List Char) :
    Except Stop (α × List Char) → Prop
  | .ok (found, rest) => ∃ front, spells front found ∧ text = front ++ rest
  | .error (.problem _ _) => True
  | .error (.tooManyDigits count) => LongRun count text

theorem reads_ok {found : α} (written : spells front found) (rest : List Char) :
    Reads spells (front ++ rest) (.ok (found, rest)) :=
  ⟨front, written, rfl⟩

/-- The same text read on. -/
theorem Reads.bind {next : α × List Char → Except Stop (β × List Char)}
    (reads : Reads spells text result)
    (then_reads : ∀ front found rest, spells front found → text = front ++ rest →
      Reads spells' text (next (found, rest))) :
    Reads spells' text (result >>= next) := by
  cases result with
  | error stop => cases stop <;> exact reads
  | ok found =>
      obtain ⟨found, rest⟩ := found
      obtain ⟨front, written, split⟩ := reads
      exact then_reads front found rest written split

/-- What is read behind something else. -/
theorem Reads.behind {spells' : List Char → α → Prop} (reads : Reads spells text result)
    (front : List Char) (longer : ∀ more found, spells more found → spells' (front ++ more) found) :
    Reads spells' (front ++ text) result := by
  cases result with
  | error stop =>
      cases stop with
      | problem => trivial
      | tooManyDigits count => exact LongRun.append_left reads front
  | ok found =>
      obtain ⟨found, rest⟩ := found
      obtain ⟨more, written, rfl⟩ := reads
      exact ⟨front ++ more, longer more found written, (List.append_assoc _ _ _).symm⟩

/-- What is made of what is read. -/
theorem Reads.map {make : α → β} (reads : Reads spells text result)
    (made : ∀ front found, spells front found → spells' front (make found)) :
    Reads spells' text (do
      let (found, rest) ← result
      return (make found, rest)) := by
  refine reads.bind fun front found rest written split => ?_
  rw [split]
  exact reads_ok (made front found written) rest

/-! ## Blanks -/

theorem exists_blanks (text : List Char) :
    ∃ blanks, Blank blanks ∧ text = blanks ++ skipBlanks text :=
  ⟨text.takeWhile isBlank, fun _ present => List.mem_takeWhile_imp present,
    List.takeWhile_append_dropWhile.symm⟩

/-! ## Names, numbers and strings -/

theorem spelled_of_name? {found : Value} (named : name? text = some (found, rest)) :
    ∃ front, Spelled front found ∧ text = front ++ rest := by
  obtain ⟨entry, listed, same⟩ := Option.map_eq_some_iff.mp named
  obtain ⟨rfl, rfl⟩ := Prod.mk.inj same
  have starts := List.find?_some listed
  exact ⟨entry.1, .name (List.mem_of_find?_eq_some listed),
    (List.prefix_iff_eq_append.mp (List.isPrefixOf_iff_prefix.mp starts)).symm⟩

theorem reads_number (text : List Char) : Reads Spelled text (number text) := by
  rcases number_cases text with
    ⟨numeral, rest, proper, read, split⟩ | fails | ⟨count, fails, long⟩
  · rw [read, split]
    exact reads_ok (.number proper) rest
  · rw [fails]
    trivial
  · rw [fails]
    exact long

theorem reads_stringAfterQuote (text : List Char) :
    Reads (fun front codes => ∃ inside, Quoted inside codes ∧ front = inside ++ ['"']) text
      (stringAfterQuote text) := by
  cases read : stringAfterQuote text with
  | error stop =>
      cases stop with
      | problem => trivial
      | tooManyDigits count => exact absurd read (stringAfterQuote_ne_tooManyDigits text count)
  | ok found =>
      obtain ⟨codes, rest⟩ := found
      obtain ⟨inside, quoted, split⟩ := quoted_of_stringAfterQuote read
      exact ⟨_, ⟨inside, quoted, rfl⟩, by simpa using split⟩

/-! ## Values -/

/-- Items with commas between them and a bracket behind. -/
def ClosedItems (front : List Char) (values : List Value) : Prop :=
  ∃ items : List Item, items ≠ [] ∧ (∀ item ∈ items, item.Padded) ∧
    (∀ item ∈ items, Spelled item.text item.value) ∧
    front = Text.joinWith ',' (items.map Item.written) ++ [']'] ∧ values = items.map Item.value

/-- Members with commas between them and a brace behind, and the entries that they make. -/
def ClosedMembers (soFar : List (Value × Value)) (front : List Char)
    (entries : List (Value × Value)) : Prop :=
  ∃ members : List Member, members ≠ [] ∧ (∀ member ∈ members, member.Padded) ∧
    (∀ member ∈ members, Spelled member.item.text member.item.value) ∧
    front = Text.joinWith ',' (members.map Member.written) ++ ['\x7d'] ∧
    entries = entriesAfter soFar members

/-- Values are read with some fuel. -/
def ValuesRead (fuel : Nat) : Prop := ∀ text, Reads Spelled text (value fuel text)

/-- Elements are read with some fuel. -/
def ElementsRead (fuel : Nat) : Prop :=
  ∀ text, Reads ClosedItems text (elements fuel (skipBlanks text))

/-- Members are read with some fuel. -/
def MembersRead (fuel : Nat) : Prop :=
  ∀ soFar text, Reads (ClosedMembers soFar) text (members fuel soFar (skipBlanks text))

/-- What stands behind blanks. -/
theorem reads_of_skipBlanks {found : α} (opening : Char) {closing : Char}
    (closed : skipBlanks text = closing :: rest)
    (written : ∀ blanks, Blank blanks → spells (opening :: (blanks ++ [closing])) found) :
    Reads spells (opening :: text) (.ok (found, rest)) := by
  obtain ⟨blanks, blank, split⟩ := exists_blanks text
  rw [closed] at split
  exact ⟨_, written blanks blank, by simp [split]⟩

theorem valuesRead_succ (elements_read : ElementsRead fuel) (members_read : MembersRead fuel) :
    ValuesRead (fuel + 1) := by
  intro text
  unfold value
  split
  · rename_i rest
    refine Reads.behind (Reads.map (reads_stringAfterQuote rest) fun front codes written => ?_)
      ['"'] fun _ _ written => written
    obtain ⟨inside, quoted, rfl⟩ := written
    exact .string quoted
  · rename_i rest
    split
    · rename_i closed
      exact reads_of_skipBlanks '\x7b' closed fun _ blank => .emptyObject blank
    · refine Reads.behind (Reads.map (members_read [] rest) fun front entries written => ?_)
        ['\x7b'] fun _ _ written => written
      obtain ⟨members, some_members, padded, spelled, rfl, rfl⟩ := written
      exact .object some_members padded spelled
  · rename_i rest
    split
    · rename_i closed
      exact reads_of_skipBlanks '[' closed fun _ blank => .emptyArray blank
    · refine Reads.behind (Reads.map (elements_read rest) fun front values written => ?_)
        ['['] fun _ _ written => written
      obtain ⟨items, some_items, padded, spelled, rfl, rfl⟩ := written
      exact .array some_items padded spelled
  · split
    · rename_i found named
      obtain ⟨front, spelled, rfl⟩ := spelled_of_name? named
      exact reads_ok spelled found.2
    · exact reads_number text

/-- One more item in front. -/
theorem closedItems_cons {item : Item} {values : List Value} (padded : item.Padded)
    (spelled : Spelled item.text item.value) (closed : ClosedItems front values) :
    ClosedItems (item.written ++ ',' :: front) (item.value :: values) := by
  obtain ⟨items, some_items, all_padded, all_spelled, rfl, rfl⟩ := closed
  refine ⟨item :: items, List.cons_ne_nil _ _, List.forall_mem_cons.mpr ⟨padded, all_padded⟩,
    List.forall_mem_cons.mpr ⟨spelled, all_spelled⟩, ?_, rfl⟩
  obtain ⟨next, items, rfl⟩ := List.exists_cons_of_ne_nil some_items
  simp [Text.joinWith]

theorem closedItems_singleton {item : Item} (padded : item.Padded)
    (spelled : Spelled item.text item.value) :
    ClosedItems (item.written ++ [']']) [item.value] :=
  ⟨[item], List.cons_ne_nil _ _, by simpa using padded, by simpa using spelled, rfl, rfl⟩

/-- A value behind blanks. -/
theorem reads_value_skipBlanks (values_read : ValuesRead fuel) (text : List Char) :
    Reads (fun front found => ∃ before text, Blank before ∧ Spelled text found ∧
      front = before ++ text) text (value fuel (skipBlanks text)) := by
  obtain ⟨before, blank, split⟩ := exists_blanks text
  have reads : Reads (fun front found => ∃ before text, Blank before ∧ Spelled text found ∧
      front = before ++ text) (before ++ skipBlanks text) (value fuel (skipBlanks text)) :=
    (values_read (skipBlanks text)).behind before fun more _ spelled =>
      ⟨before, more, blank, spelled, rfl⟩
  rwa [← split] at reads

theorem elementsRead_succ (values_read : ValuesRead fuel) (elements_read : ElementsRead fuel) :
    ElementsRead (fuel + 1) := by
  intro text
  unfold elements
  refine (reads_value_skipBlanks values_read text).bind fun front found rest written split => ?_
  obtain ⟨before, item, blank, spelled, rfl⟩ := written
  obtain ⟨after, after_blank, after_split⟩ := exists_blanks rest
  have padded : (Item.mk before item after found).Padded := ⟨blank, after_blank⟩
  dsimp only
  split
  · rename_i rest' closed
    rw [closed] at after_split
    refine ⟨_, closedItems_singleton padded spelled, ?_⟩
    simp [split, after_split, Item.written]
  · rename_i rest' comma
    rw [comma] at after_split
    have whole : text = (Item.written ⟨before, item, after, found⟩ ++ [',']) ++ rest' := by
      simp [split, after_split, Item.written]
    rw [whole]
    refine Reads.map ((elements_read rest').behind _ fun front values closed => ?_)
      fun _ _ closed => closed
    rw [List.append_assoc]
    exact closedItems_cons padded spelled closed
  · trivial

/-! ## Members -/

/-- One more member in front. -/
theorem closedMembers_cons {member : Member} {soFar entries : List (Value × Value)}
    (padded : member.Padded) (spelled : Spelled member.item.text member.item.value)
    (closed : ClosedMembers (Value.assign member.name member.item.value soFar) front entries) :
    ClosedMembers soFar (member.written ++ ',' :: front) entries := by
  obtain ⟨members, some_members, all_padded, all_spelled, rfl, rfl⟩ := closed
  refine ⟨member :: members, List.cons_ne_nil _ _, List.forall_mem_cons.mpr ⟨padded, all_padded⟩,
    List.forall_mem_cons.mpr ⟨spelled, all_spelled⟩, ?_, rfl⟩
  obtain ⟨next, members, rfl⟩ := List.exists_cons_of_ne_nil some_members
  simp [Text.joinWith]

theorem closedMembers_singleton {member : Member} (padded : member.Padded)
    (spelled : Spelled member.item.text member.item.value) (soFar : List (Value × Value)) :
    ClosedMembers soFar (member.written ++ ['\x7d'])
      (Value.assign member.name member.item.value soFar) :=
  ⟨[member], List.cons_ne_nil _ _, by simpa using padded, by simpa using spelled, rfl, rfl⟩

/-- A member up to the end of its name. -/
theorem reads_name (text : List Char) {after_quote : List Char}
    (opened : skipBlanks text = '"' :: after_quote) :
    Reads (fun front codes => ∃ before inside, Blank before ∧ Quoted inside codes ∧
      front = before ++ '"' :: (inside ++ ['"'])) text (stringAfterQuote after_quote) := by
  obtain ⟨before, blank, split⟩ := exists_blanks text
  rw [opened] at split
  rw [split, List.append_cons]
  refine (reads_stringAfterQuote after_quote).behind _ fun more codes written => ?_
  obtain ⟨inside, quoted, rfl⟩ := written
  exact ⟨before, inside, blank, quoted, by simp⟩

/-- A member whose name and colon are read. -/
theorem reads_member (values_read : ValuesRead fuel) {before inside between : List Char}
    {codes : List Nat} (before_blank : Blank before) (quoted : Quoted inside codes)
    (between_blank : Blank between) (text : List Char) :
    Reads (fun front found => ∃ member : Member, member.Padded ∧ member.item.after = [] ∧
        Spelled member.item.text member.item.value ∧ member.codes = codes ∧
        member.item.value = found ∧ front = member.written)
      (before ++ '"' :: (inside ++ '"' :: (between ++ ':' :: text)))
      (value fuel (skipBlanks text)) := by
  have whole : before ++ '"' :: (inside ++ '"' :: (between ++ ':' :: text)) =
      (before ++ '"' :: (inside ++ '"' :: (between ++ [':']))) ++ text := by simp
  rw [whole]
  refine (reads_value_skipBlanks values_read text).behind _ fun front found written => ?_
  obtain ⟨value_before, item, blank, spelled, rfl⟩ := written
  exact ⟨⟨before, inside, codes, between, ⟨value_before, item, [], found⟩⟩,
    ⟨before_blank, quoted, between_blank, ⟨blank, by simp [Blank]⟩⟩, rfl, spelled, rfl, rfl,
    by simp [Member.written, Item.written]⟩

/-- Blanks behind a member belong to it. -/
theorem Member.exists_written_append {member : Member} (padded : member.Padded)
    (nothing : member.item.after = []) {blanks : List Char} (blank : Blank blanks) :
    ∃ wider : Member, wider.Padded ∧ wider.codes = member.codes ∧
      wider.item.text = member.item.text ∧ wider.item.value = member.item.value ∧
      wider.written = member.written ++ blanks :=
  ⟨{ member with item := { member.item with after := blanks } },
    ⟨padded.before, padded.inside, padded.between, padded.item.before, blank⟩, rfl, rfl, rfl,
    by simp [Member.written, Item.written, nothing]⟩

theorem membersRead_succ (values_read : ValuesRead fuel) (members_read : MembersRead fuel) :
    MembersRead (fuel + 1) := by
  intro soFar text
  unfold members
  split
  · rename_i after_quote opened
    refine (reads_name text opened).bind fun front codes rest written split => ?_
    obtain ⟨before, inside, before_blank, quoted, rfl⟩ := written
    obtain ⟨between, between_blank, between_split⟩ := exists_blanks rest
    dsimp only
    split
    · rename_i after_colon colon
      rw [colon] at between_split
      have whole : text = before ++ '"' :: (inside ++ '"' :: (between ++ ':' :: after_colon)) := by
        simp [split, between_split]
      rw [whole]
      refine (reads_member values_read before_blank quoted between_blank after_colon).bind
        fun front found rest written split => ?_
      obtain ⟨narrow, narrow_padded, nothing, narrow_spelled, rfl, rfl, rfl⟩ := written
      obtain ⟨after, after_blank, after_split⟩ := exists_blanks rest
      obtain ⟨member, padded, codes_eq, text_eq, value_eq, written_eq⟩ :=
        narrow.exists_written_append narrow_padded nothing after_blank
      rw [← text_eq, ← value_eq] at narrow_spelled
      rw [split, ← codes_eq, ← value_eq]
      split
      · rename_i rest' closed
        rw [closed] at after_split
        refine ⟨_, closedMembers_singleton padded narrow_spelled soFar, ?_⟩
        simp [written_eq, after_split]
      · rename_i rest' comma
        rw [comma] at after_split
        have whole : narrow.written ++ rest = (member.written ++ [',']) ++ rest' := by
          simp [written_eq, after_split]
        rw [whole]
        refine (members_read _ rest').behind _ fun front entries closed => ?_
        rw [List.append_assoc]
        exact closedMembers_cons padded narrow_spelled closed
      · trivial
    · trivial
  · trivial

/-! ## Texts -/

theorem allRead (fuel : Nat) : ValuesRead fuel ∧ ElementsRead fuel ∧ MembersRead fuel := by
  induction fuel with
  | zero => exact ⟨fun _ => trivial, fun _ => trivial, fun _ _ => trivial⟩
  | succ fuel ih =>
      obtain ⟨values_read, elements_read, members_read⟩ := ih
      exact ⟨valuesRead_succ elements_read members_read,
        elementsRead_succ values_read elements_read, membersRead_succ values_read members_read⟩

/-- What a whole text is read as is written in it, and where it is not read for an integer with too
many digits it has a run of that many. -/
theorem document_cases (text : List Char) :
    (∃ found, document text = .ok found ∧ SpelledText text found) ∨
      (∃ problem left, document text = .error (.problem problem left)) ∨
      ∃ count, document text = .error (.tooManyDigits count) ∧ LongRun count text := by
  unfold document
  split
  · exact .inr (.inl ⟨_, _, rfl⟩)
  obtain ⟨before, before_blank, before_split⟩ := exists_blanks text
  have reads := (allRead (2 * (skipBlanks text).length + 2)).1 (skipBlanks text)
  dsimp only
  rcases read : value (2 * (skipBlanks text).length + 2) (skipBlanks text) with
    (⟨problem, left⟩ | count) | ⟨found, rest⟩ <;> rw [read] at reads
  · exact .inr (.inl ⟨problem, left, rfl⟩)
  · exact .inr (.inr ⟨count, rfl, before_split ▸ reads.append_left before⟩)
  · obtain ⟨front, spelled, split⟩ := reads
    obtain ⟨after, after_blank, after_split⟩ := exists_blanks rest
    simp only [bind, Except.bind]
    split
    · rename_i nothing
      rw [nothing, List.append_nil] at after_split
      refine .inl ⟨found, rfl, before, front, after, before_blank, spelled, after_blank, ?_⟩
      rw [before_split, split, after_split]
    · exact .inr (.inl ⟨_, _, rfl⟩)

end OpcachePreload.Json
