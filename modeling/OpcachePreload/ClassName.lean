import OpcachePreload.Text.Split

/-!
# Names of classes

A fully qualified class name is made of parts that backslashes separate. A name may be written with
one more separator at its front. Two kinds of pattern are built from names: one for all classes of a
namespace, and one for a single class.
-/

namespace OpcachePreload.ClassName

/-- What separates the parts of a name. -/
def separator : Char := '\\'

/-- A name without one separator at its front. -/
def stripSeparator (name : String) : String :=
  match name.toList with
  | c :: rest => if c = separator then String.ofList rest else name
  | [] => name

/-- A part of a name without the separators around it. -/
def stripPart (part : List Char) : List Char :=
  ((part.dropWhile (· = separator)).reverse.dropWhile (· = separator)).reverse

/-- The namespace that some parts make. -/
def namespaceOf (parts : List String) : List Char :=
  Text.joinWith separator (parts.map fun part => stripPart part.toList)

/-! ## Patterns from names -/

/-- The characters that have a meaning of their own in a pattern, or would be left out of one that
is laid out over several lines. -/
def specialChars : List Char :=
  "()[]\x7b\x7d?*+-|^$\\.&~# \t\n\r".toList ++ [Char.ofNat 11, Char.ofNat 12]

/-- The pattern of a text: a backslash before every special character. -/
def escape (text : List Char) : List Char :=
  text.flatMap fun c => if c ∈ specialChars then ['\\', c] else [c]

/-- The pattern that matches the names of all classes in a namespace, given in parts. -/
def startsWithNamespace (parts : List String) : String :=
  String.ofList ('^' :: escape (namespaceOf parts) ++ escape [separator])

/-- The pattern that matches the name of one class. -/
def exact (name : String) : String :=
  String.ofList ('^' :: escape (stripSeparator name).toList ++ ['$'])

end OpcachePreload.ClassName
