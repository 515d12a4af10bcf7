import OpcachePreload.Text.Word
import OpcachePreload.Text.Digit
import OpcachePreload.Text.Blank
import OpcachePreload.Text.Lowercase

/-!
# Sets of characters

What a pattern accepts in the place of one character: ranges of code points and classes such as the
word characters, all of them or all others, with or without regard to case.
-/

namespace OpcachePreload.Pattern

/-- The classes that a pattern can name. -/
inductive Category where
  | digit
  | blank
  | word
  deriving DecidableEq, Repr

/-- Whether a character belongs to a class, or to its ASCII part. -/
def Category.holds (category : Category) (asciiOnly : Bool) (c : Char) : Bool :=
  (!asciiOnly || (c.toNat < 0x80 && !(0x1c ≤ c.toNat && c.toNat ≤ 0x1f))) &&
    match category with
    | .digit => Text.isDigit c
    | .blank => Text.isBlank c
    | .word => Text.isWord c

/-- A part of a set: a range of code points, or a class or its complement. -/
inductive Member where
  | range (first last : Nat)
  | category (category : Category) (asciiOnly inside : Bool)
  deriving DecidableEq, Repr

/-- Which characters count as the same. -/
inductive Folding where
  | exact
  | ascii
  | unicode
  deriving DecidableEq, Repr

/-- The representative of the code points that count as the same as `n`. -/
def Folding.representative : Folding → Nat → Nat
  | .exact, n => n
  | .ascii, n => if n < 0x80 then Text.lowerCode n else n
  | .unicode, n => Text.lowerCode n

/-- The code points that count as the same as the representative `n`. -/
def Folding.variants : Folding → Nat → List Nat
  | .exact, n => [n]
  | .ascii, n => if 0x61 ≤ n && n ≤ 0x7a then [n, n - 0x20] else [n]
  | .unicode, n => Text.caseVariants n

/-- The characters with one of the members, or those with none. -/
structure Charset where
  members : List Member
  inside : Bool := true
  folding : Folding := .exact
  deriving DecidableEq, Repr

namespace Charset

/-- The set that holds one character. -/
def single (c : Char) : Charset := ⟨[.range c.toNat c.toNat], true, .exact⟩

/-- The set that holds some characters. -/
def ofChars (cs : List Char) : Charset := ⟨cs.map fun c => .range c.toNat c.toNat, true, .exact⟩

/-- The set that holds every character but some. -/
def except (cs : List Char) : Charset := { ofChars cs with inside := false }

/-- Every character. -/
def all : Charset := ⟨[], false, .exact⟩

/-- Whether a character belongs to a set. -/
def contains (set : Charset) (c : Char) : Bool :=
  let code := set.folding.representative c.toNat
  let variants := set.folding.variants code
  let belongs : Member → Bool
    | .range first last => variants.any fun n => first ≤ n && n ≤ last
    | .category category asciiOnly inside => category.holds asciiOnly c == inside
  set.members.any belongs == set.inside

/-- A set of one character holds that character and no other. -/
@[simp]
theorem contains_single {c d : Char} : (single c).contains d = decide (c = d) := by
  simp only [single, contains, Folding.representative, Folding.variants, List.any_cons,
    List.any_nil, Bool.or_false, beq_true]
  rw [← Bool.decide_and, decide_eq_decide]
  constructor
  · intro between
    exact Char.toNat_inj.mp (Nat.le_antisymm between.1 between.2)
  · rintro rfl
    simp

/-- A set of some characters holds those and no others. -/
theorem contains_ofChars (cs : List Char) (c : Char) : (ofChars cs).contains c = cs.contains c := by
  have single (d : Char) :
      (decide (d.toNat ≤ c.toNat) && decide (c.toNat ≤ d.toNat)) = (c == d) := by
    have same : d.toNat ≤ c.toNat ∧ c.toNat ≤ d.toNat ↔ c = d := by
      rw [← Char.toNat_inj]
      omega
    rw [← Bool.decide_and, decide_eq_decide.mpr same]
    rfl
  simp only [ofChars, contains, Folding.representative, Folding.variants, List.any_map,
    List.any_cons,
    List.any_nil, Bool.or_false, beq_true]
  rw [List.contains_eq_any_beq]
  exact congrArg (fun test => cs.any test) (funext single)

/-- Every character but some is in the set that leaves those out. -/
theorem contains_except (cs : List Char) (c : Char) :
    (except cs).contains c = !cs.contains c := by
  have opposite (found : Bool) : (found == false) = !(found == true) := by cases found <;> rfl
  rw [← contains_ofChars]
  exact opposite _

/-- The set of a class holds the characters of the class. -/
theorem contains_category (category : Category) (c : Char) :
    ({ members := [.category category false true] } : Charset).contains c =
      category.holds false c := by
  simp [contains]

end Charset

end OpcachePreload.Pattern
