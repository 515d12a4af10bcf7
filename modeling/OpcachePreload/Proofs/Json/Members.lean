import Mathlib.Data.List.Induction
import OpcachePreload.Proofs.Json.Grammar
import OpcachePreload.Proofs.Json.Written
import OpcachePreload.Proofs.OrderedMap
import OpcachePreload.Proofs.Text.Integer
import OpcachePreload.Text.Code
import OpcachePreload.Value.Shown

/-!
# Members of objects by the code points of their names

Two names of an object are the same key exactly if they have the same code points, lone surrogates
included. So the entries of an object are those of an ordered map whose keys are code points, and
under a name there is what the last member of that name holds. Whatever is written in JSON can be
shown, for its integers have no more digits than are shown.
-/

namespace OpcachePreload

theorem OrderedMap.ofList_append_singleton {α β : Type} [DecidableEq α] (entries : List (α × β))
    (entry : α × β) : ofList (entries ++ [entry]) = (ofList entries).insert entry.1 entry.2 := by
  rw [ofList, List.foldl_append]
  rfl

namespace Json

variable {codes : List Nat} {held : Value} {members : List Member} {member : Member}

/-! ## Names -/

theorem map_toNat_ofNat (valid : codes.all (·.isValidChar) = true) :
    (codes.map Char.ofNat).map Char.toNat = codes := by
  rw [List.map_map]
  refine (List.map_congr_left fun n listed => ?_).trans codes.map_id
  have valid : n.isValidChar := by simpa using List.all_eq_true.mp valid n listed
  rw [Function.comp_apply, Char.ofNat, dif_pos valid]
  rfl

theorem codes?_textOfCodes (codes : List Nat) : (textOfCodes codes).codes? = some codes := by
  unfold textOfCodes
  split
  · rename_i valid
    rw [Value.codes?, Text.codes, String.toList_ofList, map_toNat_ofNat valid]
  · rfl

theorem textOfCodes_injective {other : List Nat} (same : textOfCodes codes = textOfCodes other) :
    codes = other := by
  have same := congrArg Value.codes? same
  rwa [codes?_textOfCodes, codes?_textOfCodes, Option.some.injEq] at same

theorem sameKey_textOfCodes_iff {other : List Nat} :
    Value.sameKey (textOfCodes codes) (textOfCodes other) = true ↔ codes = other := by
  constructor
  · intro same
    refine textOfCodes_injective ?_
    unfold textOfCodes at same ⊢
    split at same <;> split at same <;> simp_all [Value.sameKey, Value.number?]
  · rintro rfl
    unfold textOfCodes
    split <;> simp [Value.sameKey]

/-! ## Entries -/

/-- An entry of a mapping under a name that is given by its code points. -/
def codedEntry (entry : List Nat × Value) : Value × Value := (textOfCodes entry.1, entry.2)

/-- The name and the value of a member. -/
def Member.coded (member : Member) : List Nat × Value := (member.codes, member.item.value)

theorem assign_coded (codes : List Nat) (value : Value) (entries : List (List Nat × Value)) :
    Value.assign (textOfCodes codes) value (entries.map codedEntry) =
      (assign codes value entries).map codedEntry := by
  induction entries with
  | nil => rfl
  | cons entry rest ih =>
      have same_iff : Value.sameKey (codedEntry entry).1 (textOfCodes codes) = true ↔
          entry.1 = codes := sameKey_textOfCodes_iff
      rw [List.map_cons, Value.assign, assign]
      by_cases same : entry.1 = codes
      · rw [if_pos (same_iff.mpr same), if_pos same, List.map_cons, codedEntry, same]
        rfl
      · rw [if_neg (same_iff.not.mpr same), if_neg same, ih, List.map_cons]

/-- An object has each name once, where it stands first. -/
theorem entriesAfter_eq (members : List Member) :
    entriesAfter [] members =
      (OrderedMap.ofList (members.map Member.coded)).toList.map codedEntry := by
  induction members using List.reverseRecOn with
  | nil => rfl
  | append_singleton members member ih =>
      have step : entriesAfter [] (members ++ [member]) =
          Value.assign member.name member.item.value (entriesAfter [] members) := by
        rw [entriesAfter, List.foldl_append]
        rfl
      rw [step, ih, List.map_append, List.map_singleton, OrderedMap.ofList_append_singleton]
      exact assign_coded _ _ _

/-- The names of an object are texts, valid or not. -/
theorem isText_of_mem_entriesAfter {entry : Value × Value}
    (present : entry ∈ entriesAfter [] members) : entry.1.isText = true := by
  rw [entriesAfter_eq] at present
  obtain ⟨named, _, rfl⟩ := List.mem_map.mp present
  unfold codedEntry textOfCodes
  dsimp only
  split <;> rfl

/-! ## Last members -/

/-- What the last of the members with a name holds. -/
def LastUnder (codes : List Nat) (held : Value) (members : List Member) : Prop :=
  ∃ earlier member later, members = earlier ++ member :: later ∧ member.codes = codes ∧
    member.item.value = held ∧ ∀ other ∈ later, other.codes ≠ codes

theorem get?_ofList_eq_some_iff :
    (OrderedMap.ofList (members.map Member.coded)).get? codes = some held ↔
      LastUnder codes held members := by
  rw [OrderedMap.get?_ofList, ← List.map_reverse, List.find?_map, Option.map_map,
    Option.map_eq_some_iff]
  constructor
  · rintro ⟨member, found, rfl⟩
    obtain ⟨named, later, earlier, split, others⟩ := List.find?_eq_some_iff_append.mp found
    refine ⟨earlier.reverse, member, later.reverse, ?_, of_decide_eq_true named, rfl, ?_⟩
    · rw [← members.reverse_reverse, split]
      simp
    · intro other listed
      have differs := others other (List.mem_reverse.mp listed)
      exact of_decide_eq_false ((Bool.not_eq_true' _).mp differs)
  · rintro ⟨earlier, member, later, rfl, rfl, rfl, others⟩
    refine ⟨member, List.find?_eq_some_iff_append.mpr ⟨by simp [Member.coded], later.reverse,
      earlier.reverse, by simp, fun other listed => ?_⟩, rfl⟩
    simp [Member.coded, others other (List.mem_reverse.mp listed)]

/-- An object has under a name what the last member of that name holds. -/
theorem field?_entriesAfter_eq_some_iff {name : String} :
    Value.field? (entriesAfter [] members) name = some held ↔
      LastUnder (Text.codes name) held members := by
  rw [← get?_ofList_eq_some_iff, entriesAfter_eq, Value.field?, OrderedMap.get?, List.find?_map,
    Option.map_map]
  have same : (fun entry => Value.sameKey entry.1 (.text name)) ∘ codedEntry =
      fun entry => decide (entry.1 = Text.codes name) := by
    funext entry
    rw [Function.comp_apply, codedEntry, ← textOfCodes_map_toNat name, Bool.eq_iff_iff,
      sameKey_textOfCodes_iff, decide_eq_true_iff]
    rfl
  rw [same]
  rfl

/-! ## Values that can be shown -/

theorem areShowable_iff {items : List Value} :
    Value.areShowable items = true ↔ ∀ item ∈ items, item.isShowable = true := by
  induction items with
  | nil => simp [Value.areShowable]
  | cons item rest ih => simp [Value.areShowable, ih]

theorem areEntriesShowable_iff {entries : List (Value × Value)} :
    Value.areEntriesShowable entries = true ↔
      ∀ entry ∈ entries, entry.1.isShowable = true ∧ entry.2.isShowable = true := by
  induction entries with
  | nil => simp [Value.areEntriesShowable]
  | cons entry rest ih => simp [Value.areEntriesShowable, ih]

theorem Numeral.Proper.isShowable_value {numeral : Numeral} (proper : numeral.Proper) :
    numeral.value.isShowable = true := by
  unfold value
  split
  · rename_i whole
    have few : numeral.whole.length ≤ Text.digitLimit :=
      Nat.le_of_not_lt fun many => proper.limited ⟨whole, many⟩
    have small : (Text.natural? 10 numeral.whole).getD 0 < 10 ^ Text.digitLimit := by
      refine Nat.lt_of_lt_of_le ?_ (Nat.pow_le_pow_right (by decide) few)
      cases read : Text.natural? 10 numeral.whole with
      | none => exact Nat.pow_pos (by decide)
      | some n => exact Text.natural?_lt read
    have size_eq : (if numeral.negative then
        -((Text.natural? 10 numeral.whole).getD 0 : Int) else
          (Text.natural? 10 numeral.whole).getD 0).natAbs =
        (Text.natural? 10 numeral.whole).getD 0 := by
      split <;> simp
    rw [Value.isShowable, size_eq, decide_eq_true_iff]
    exact (Nat.length_toDigits_le_iff (by decide) (by decide)).mpr small
  · rfl

theorem isShowable_textOfCodes (codes : List Nat) : (textOfCodes codes).isShowable = true := by
  unfold textOfCodes
  split <;> rfl

theorem Spelled.isShowable {text : List Char} {value : Value} (spelled : Spelled text value) :
    value.isShowable = true := by
  induction spelled with
  | name listed =>
      simp only [names, List.mem_cons, List.not_mem_nil, or_false] at listed
      rcases listed with rfl | rfl | rfl | rfl | rfl | rfl <;> rfl
  | number proper => exact proper.isShowable_value
  | string => exact isShowable_textOfCodes _
  | emptyArray | emptyObject => rfl
  | array _ _ _ shown =>
      unfold Value.isShowable
      rw [areShowable_iff]
      exact List.forall_mem_map.mpr shown
  | @object members _ _ _ shown =>
      unfold Value.isShowable
      rw [areEntriesShowable_iff, entriesAfter_eq]
      refine List.forall_mem_map.mpr fun entry listed => ⟨isShowable_textOfCodes _, ?_⟩
      have held : (OrderedMap.ofList (members.map Member.coded)).get? entry.1 = some entry.2 :=
        OrderedMap.get?_of_mem listed
      obtain ⟨earlier, member, later, rfl, _, same, _⟩ := get?_ofList_eq_some_iff.mp held
      exact same ▸ shown member (by simp)

end Json

end OpcachePreload
