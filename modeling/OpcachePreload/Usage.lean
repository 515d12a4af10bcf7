import OpcachePreload.Pattern.Basic

/-!
# Uses of classes in source text

The shapes of source text that name a class: the return type of a public function, the class that is
instantiated, the interface that is implemented, and the import at the start of a line. Each is a
pattern whose only group captures the name.
-/

namespace OpcachePreload.Usage

open Pattern

/-- A character of a qualified name. -/
def isNameChar (c : Char) : Bool :=
  ('a' ≤ c && c ≤ 'z') || ('A' ≤ c && c ≤ 'Z') || ('0' ≤ c && c ≤ '9') || c = '\\' || c = '_'

/-- The characters of a qualified name. -/
def nameChars : Charset where
  members := [.range 'a'.toNat 'z'.toNat, .range 'A'.toNat 'Z'.toNat, .range '0'.toNat '9'.toNat,
    .range '\\'.toNat '\\'.toNat, .range '_'.toNat '_'.toNat]

/-- The set of the characters of a name holds just these. -/
theorem contains_nameChars (c : Char) : nameChars.contains c = isNameChar c := by
  have le_iff (d : Char) : d ≤ c ↔ d.toNat ≤ c.toNat := Iff.rfl
  have ge_iff (d : Char) : c ≤ d ↔ c.toNat ≤ d.toNat := Iff.rfl
  have eq_iff (d : Char) : c = d ↔ d.toNat ≤ c.toNat ∧ c.toNat ≤ d.toNat := by
    rw [← Char.toNat_inj]
    omega
  simp only [nameChars, isNameChar, Charset.contains, Folding.representative, Folding.variants,
    List.any_cons, List.any_nil, Bool.or_false, beq_true, le_iff, ge_iff, eq_iff,
    Bool.decide_and, Bool.or_assoc]

/-- A qualified name. -/
def name : Pattern := many1 (one nameChars)

/-- A qualified name that is captured. -/
def captured : Pattern := group 1 name

/-- A character of a category. -/
def oneOf (category : Category) : Pattern := one { members := [.category category false true] }

/-- Blanks, at least one. -/
def blanks : Pattern := many1 (oneOf .blank)

/-- The return type of a public function. -/
def returnType : Pattern :=
  sequence [literal "public function ", many1 (oneOf .word), literal "(",
    many (one (.except [')'])), literal "): ", captured]

/-- The class that is instantiated. -/
def instantiation : Pattern := andThen (literal "new ") captured

/-- The interface that is implemented. -/
def implementation : Pattern := andThen (literal "implements ") captured

/-- The shapes in which a class is used as a type, in the order in which they are looked for. -/
def types : List Pattern := [returnType, instantiation, implementation]

/-- The import of a class, possibly under another name. -/
def importing : Pattern :=
  sequence [anchored .lineStart, literal "use ", captured,
    optional (sequence [blanks, literal "as", blanks, name]), literal ";"]

/-- The names that a shape finds in a text, from left to right. -/
def captures (shape : Pattern) (text : String) : List String :=
  (findAll shape text.toList).map (·.text 1)

/-- The names that are used as types in a text, shape by shape. -/
def typeNames (text : String) : List String :=
  types.flatMap (captures · text)

/-- The names that are imported in a text. -/
def importedNames (text : String) : List String := captures importing text

end OpcachePreload.Usage
