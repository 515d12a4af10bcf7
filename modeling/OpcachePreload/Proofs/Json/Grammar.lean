import OpcachePreload.Json.Reader
import OpcachePreload.Text.Split

/-!
# How values are written in JSON

What the text of a value is, told without a reader: strings piece by piece, numbers by their parts,
and arrays and objects by what stands between their commas. Numbers may also be `NaN`, `Infinity`
and `-Infinity`, and the digits of an integer are limited.
-/

namespace OpcachePreload.Json

/-- Blanks only. -/
def Blank (text : List Char) : Prop := ∀ c ∈ text, isBlank c = true

/-! ## Strings -/

/-- How one code is written in a string: as a character that stands for itself, as a letter after a
backslash, or by four hexadecimal digits. -/
inductive Piece : List Char → Nat → Prop where
  | plain {c : Char} (not_quote : c ≠ '"') (not_backslash : c ≠ '\\') (visible : 0x1f < c.toNat) :
      Piece [c] c.toNat
  | letter {letter c : Char} (stands : simpleEscape? letter = some c) :
      Piece ['\\', letter] c.toNat
  | code {digits : List Char} {code : Nat} (hex : hexCode? digits = some (code, [])) :
      Piece ('\\' :: 'u' :: digits) code

/-- The code points that codes make: both halves of a pair of surrogates are one of them. -/
def paired : List Nat → List Nat
  | high :: low :: rest =>
    if isHighSurrogate high && isLowSurrogate low then joinSurrogates high low :: paired rest
    else high :: paired (low :: rest)
  | codes => codes

/-- What stands between the quotes of a string, and its code points. -/
def Quoted (inside : List Char) (codes : List Nat) : Prop :=
  ∃ pieces : List (List Char × Nat), (∀ piece ∈ pieces, Piece piece.1 piece.2) ∧
    inside = pieces.flatMap Prod.fst ∧ codes = paired (pieces.map Prod.snd)

/-! ## Numbers -/

/-- Digits only. -/
def Digits (text : List Char) : Prop := ∀ c ∈ text, c.isDigit = true

/-- The digits of a whole number: a zero, or some that do not start with one. -/
def WholeDigits (text : List Char) : Prop :=
  text = ['0'] ∨ (text ≠ [] ∧ text.head? ≠ some '0' ∧ Digits text)

/-- The signs that the size of an exponent may have. -/
inductive Sign where
  | none
  | plus
  | minus

/-- The text of a sign. -/
def Sign.text : Sign → List Char
  | none => []
  | plus => ['+']
  | minus => ['-']

/-- An exponent of ten, with the letter that marks it. -/
structure Exponent where
  mark : Char
  sign : Sign
  digits : List Char

namespace Exponent

/-- The text of an exponent. -/
def text (exponent : Exponent) : List Char :=
  exponent.mark :: (exponent.sign.text ++ exponent.digits)

/-- An exponent that can be written. -/
structure Proper (exponent : Exponent) : Prop where
  mark : exponent.mark = 'e' ∨ exponent.mark = 'E'
  digits : Digits exponent.digits
  some_digits : exponent.digits ≠ []

/-- The size of an exponent. -/
def size (exponent : Exponent) : Int :=
  let size : Int := (Text.natural? 10 exponent.digits).getD 0
  match exponent.sign with
  | .minus => -size
  | _ => size

end Exponent

/-- The parts of a number. The fraction has no digits if there is none. -/
structure Numeral where
  negative : Bool
  whole : List Char
  fraction : List Char
  exponent : Option Exponent

namespace Numeral

/-- The text of the sign of a number. -/
def signText (negative : Bool) : List Char := if negative then ['-'] else []

/-- The text of a fraction. -/
def fractionText (digits : List Char) : List Char := if digits.isEmpty then [] else '.' :: digits

/-- The text of an exponent, if there is one. -/
def exponentText (exponent : Option Exponent) : List Char := (exponent.map Exponent.text).getD []

/-- The text of a number. -/
def text (numeral : Numeral) : List Char :=
  signText numeral.negative ++ (numeral.whole ++ (fractionText numeral.fraction ++
    exponentText numeral.exponent))

/-- Whether a number is an integer. -/
def isWhole (numeral : Numeral) : Bool := numeral.fraction.isEmpty && numeral.exponent.isNone

/-- A number whose parts are those of a number, however long they are. -/
structure Formed (numeral : Numeral) : Prop where
  whole : WholeDigits numeral.whole
  fraction : Digits numeral.fraction
  exponent : ∀ exponent, numeral.exponent = some exponent → exponent.Proper

/-- An integer with more digits than integers may have. -/
def Overlong (numeral : Numeral) : Prop :=
  numeral.isWhole = true ∧ Text.digitLimit < numeral.whole.length

instance (numeral : Numeral) : Decidable numeral.Overlong :=
  inferInstanceAs (Decidable (_ ∧ _))

/-- A number that can be written. -/
structure Proper (numeral : Numeral) : Prop extends Formed numeral where
  limited : ¬numeral.Overlong

/-- The value of a number. -/
def value (numeral : Numeral) : Value :=
  if numeral.isWhole then
    let size : Int := (Text.natural? 10 numeral.whole).getD 0
    .int (if numeral.negative then -size else size)
  else
    let digits := (Text.natural? 10 (numeral.whole ++ numeral.fraction)).getD 0
    let size := Decimal.nearest digits
      ((numeral.exponent.map Exponent.size).getD 0 - numeral.fraction.length)
    .float (if numeral.negative then -size else size)

end Numeral

/-! ## Values -/

/-- A value as it stands between two commas. -/
structure Item where
  before : List Char
  text : List Char
  after : List Char
  value : Value

namespace Item

/-- The text between the commas. -/
def written (item : Item) : List Char := item.before ++ (item.text ++ item.after)

/-- There are blanks on both sides. -/
structure Padded (item : Item) : Prop where
  before : Blank item.before
  after : Blank item.after

end Item

/-- A member of an object as it stands between two commas: what is between the quotes of its name,
the code points of the name, blanks and, behind a colon, a value. -/
structure Member where
  before : List Char
  inside : List Char
  codes : List Nat
  between : List Char
  item : Item

namespace Member

/-- The text between the commas. -/
def written (member : Member) : List Char :=
  member.before ++ '"' :: (member.inside ++ '"' :: (member.between ++ ':' :: member.item.written))

/-- The name of a member. -/
def name (member : Member) : Value := textOfCodes member.codes

/-- The name can be written, and there are blanks elsewhere. -/
structure Padded (member : Member) : Prop where
  before : Blank member.before
  inside : Quoted member.inside member.codes
  between : Blank member.between
  item : member.item.Padded

end Member

/-- The entries that members make after those in `soFar`. -/
def entriesAfter (soFar : List (Value × Value)) (members : List Member) : List (Value × Value) :=
  members.foldl (fun entries member => Value.assign member.name member.item.value entries) soFar

/-- The text of a value. -/
inductive Spelled : List Char → Value → Prop where
  | name {entry : List Char × Value} (listed : entry ∈ names) : Spelled entry.1 entry.2
  | number {numeral : Numeral} (proper : numeral.Proper) : Spelled numeral.text numeral.value
  | string {inside : List Char} {codes : List Nat} (quoted : Quoted inside codes) :
      Spelled ('"' :: (inside ++ ['"'])) (textOfCodes codes)
  | emptyArray {blanks : List Char} (blank : Blank blanks) :
      Spelled ('[' :: (blanks ++ [']'])) (.list [])
  | array {items : List Item} (some_items : items ≠ []) (padded : ∀ item ∈ items, item.Padded)
      (spelled : ∀ item ∈ items, Spelled item.text item.value) :
      Spelled ('[' :: (Text.joinWith ',' (items.map Item.written) ++ [']']))
        (.list (items.map Item.value))
  | emptyObject {blanks : List Char} (blank : Blank blanks) :
      Spelled ('\x7b' :: (blanks ++ ['\x7d'])) (.mapping [])
  | object {members : List Member} (some_members : members ≠ [])
      (padded : ∀ member ∈ members, member.Padded)
      (spelled : ∀ member ∈ members, Spelled member.item.text member.item.value) :
      Spelled ('\x7b' :: (Text.joinWith ',' (members.map Member.written) ++ ['\x7d']))
        (.mapping (entriesAfter [] members))

/-- What may come after a value: a blank, a comma, a closing bracket or brace, or nothing. -/
def Ends (rest : List Char) : Prop :=
  ∀ c ∈ rest.head?, isBlank c = true ∨ c = ',' ∨ c = ']' ∨ c = '\x7d'

/-- A text that is one value, with blanks around it. -/
def SpelledText (text : List Char) (value : Value) : Prop :=
  ∃ before front after, Blank before ∧ Spelled front value ∧ Blank after ∧
    text = before ++ (front ++ after)

theorem spelledText_emptyArray : SpelledText "[]".toList (.list []) :=
  ⟨[], ['[', ']'], [], nofun, @Spelled.emptyArray [] nofun, nofun, rfl⟩

/-! ## Objects -/

theorem textOfCodes_ne_mapping (codes : List Nat) (entries : List (Value × Value)) :
    textOfCodes codes ≠ .mapping entries := by
  unfold textOfCodes
  split <;> simp

theorem Numeral.value_ne_mapping (numeral : Numeral) (entries : List (Value × Value)) :
    numeral.value ≠ .mapping entries := by
  unfold value
  split <;> simp

/-- A text that is an object with blanks around it, and its members as they are written. -/
def SpelledObject (text : List Char) (members : List Member) : Prop :=
  (∀ member ∈ members, member.Padded ∧ Spelled member.item.text member.item.value) ∧
    ∃ before inside after, Blank before ∧ Blank after ∧
      (if members = [] then Blank inside
        else inside = Text.joinWith ',' (members.map Member.written)) ∧
      text = before ++ ('\x7b' :: (inside ++ '\x7d' :: after))

/-- Texts of mappings are objects, and the mapping has the entries that the members make. -/
theorem spelledText_mapping_iff {text : List Char} {entries : List (Value × Value)} :
    SpelledText text (.mapping entries) ↔
      ∃ members, SpelledObject text members ∧ entries = entriesAfter [] members := by
  constructor
  · rintro ⟨before, front, after, before_blank, spelled, after_blank, rfl⟩
    generalize mapping_eq : Value.mapping entries = found at spelled
    cases spelled with
    | name listed =>
        simp only [names, List.mem_cons, List.not_mem_nil, or_false] at listed
        rcases listed with rfl | rfl | rfl | rfl | rfl | rfl <;> cases mapping_eq
    | @number numeral => exact absurd mapping_eq.symm (numeral.value_ne_mapping entries)
    | @string _ codes => exact absurd mapping_eq.symm (textOfCodes_ne_mapping codes entries)
    | emptyArray | array => cases mapping_eq
    | @emptyObject blanks blank =>
        cases mapping_eq
        exact ⟨[], ⟨by simp, before, blanks, after, before_blank, after_blank, by simpa using blank,
          by simp⟩, rfl⟩
    | @object members some_members padded spelled =>
        cases mapping_eq
        exact ⟨members, ⟨fun member listed => ⟨padded member listed, spelled member listed⟩, before,
          _, after, before_blank, after_blank, by rw [if_neg some_members], by simp⟩, rfl⟩
  · rintro ⟨members, object, rfl⟩
    obtain ⟨written, before, inside, after, before_blank, after_blank, inside_eq, rfl⟩ := object
    refine ⟨before, '\x7b' :: (inside ++ ['\x7d']), after, before_blank, ?_, after_blank, by simp⟩
    by_cases no_members : members = []
    · rw [if_pos no_members] at inside_eq
      rw [no_members]
      exact .emptyObject inside_eq
    · rw [if_neg no_members] at inside_eq
      rw [inside_eq]
      exact .object no_members (fun member listed => (written member listed).1)
        fun member listed => (written member listed).2

end OpcachePreload.Json
