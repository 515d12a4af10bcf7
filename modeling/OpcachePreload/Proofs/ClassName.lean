import Mathlib.Data.List.Forall2
import Mathlib.Data.List.TakeWhile
import OpcachePreload.Proofs.Pattern.Literal

/-!
# Patterns of names

Both kinds of pattern that are built from names can be read, whatever the names are. The pattern of
a namespace occurs in the names that start with its bare parts, each with a separator behind it. The
pattern of one class occurs in the name of that class; but the end of a text is also before a line
feed that ends it, so it occurs in the name with a line feed behind it as well.
-/

namespace OpcachePreload.ClassName

/-! ## Separators around a part -/

/-- Whether a part is a bare one, which neither starts nor ends with a separator, with any number of
separators around it. -/
def Encloses (part bare : String) : Prop :=
  bare.toList.head? ≠ some separator ∧ bare.toList.getLast? ≠ some separator ∧
    ∃ before after, part.toList =
      List.replicate before separator ++ bare.toList ++ List.replicate after separator

theorem exists_replicate_append_dropWhile (text : List Char) :
    ∃ count, text = List.replicate count separator ++ text.dropWhile (· = separator) := by
  have all_separators : ∀ c ∈ text.takeWhile (· = separator), c = separator :=
    fun c present => by simpa using List.mem_takeWhile_imp present
  refine ⟨(text.takeWhile (· = separator)).length, ?_⟩
  rw [← List.eq_replicate_of_mem all_separators, List.takeWhile_append_dropWhile]

theorem head?_dropWhile_ne (text : List Char) :
    (text.dropWhile (· = separator)).head? ≠ some separator := by
  intro starts
  have first := List.head?_dropWhile_not (· = separator) text
  rw [starts] at first
  simp at first

/-- A part encloses what is left of it without the separators around it. -/
theorem encloses_stripPart (part : String) :
    Encloses part (String.ofList (stripPart part.toList)) := by
  obtain ⟨before, front⟩ := exists_replicate_append_dropWhile part.toList
  have starts := head?_dropWhile_ne part.toList
  unfold Encloses stripPart
  generalize part.toList.dropWhile (· = separator) = rest at front starts ⊢
  obtain ⟨after, back⟩ := exists_replicate_append_dropWhile rest.reverse
  have ends := head?_dropWhile_ne rest.reverse
  generalize rest.reverse.dropWhile (· = separator) = bare at back ends ⊢
  have rest_eq : rest = bare.reverse ++ List.replicate after separator := by
    rw [← List.reverse_inj, back, List.reverse_append, List.reverse_replicate, List.reverse_reverse]
  rw [String.toList_ofList, List.getLast?_reverse]
  refine ⟨?_, ends, before, after, ?_⟩
  · intro first
    rw [rest_eq, List.head?_append, first] at starts
    exact starts rfl
  · rw [front, rest_eq, List.append_assoc]

/-! ## Namespaces -/

theorem namespaceOf_eq (parts : List String) :
    String.ofList (namespaceOf parts) =
      String.intercalate "\\" (parts.map fun part => String.ofList (stripPart part.toList)) := by
  rw [← String.toList_inj, String.toList_ofList, String.toList_intercalate, namespaceOf,
    Text.joinWith_eq_intercalate]
  simp [separator, Function.comp_def]

theorem isWithin_iff {parts : List String} {name : String} :
    isWithin parts name = true ↔
      ∃ rest, name = String.ofList (namespaceOf parts) ++ "\\" ++ rest := by
  rw [isWithin, List.isPrefixOf_iff_prefix]
  constructor
  · rintro ⟨rest, whole⟩
    refine ⟨String.ofList rest, ?_⟩
    rw [← String.toList_inj, ← whole]
    simp [separator]
  · rintro ⟨rest, rfl⟩
    exact ⟨rest.toList, by simp [separator]⟩

/-- Whatever the parts of a namespace are, they make a pattern, and it occurs in the names that
start with the bare parts, a separator behind each of them. -/
theorem occursIn_startsWithNamespace_iff (parts : List String) :
    ∃ pattern bares, Pattern.compile (startsWithNamespace parts) = .ok pattern ∧
      List.Forall₂ Encloses parts bares ∧
      ∀ name, pattern.occursIn name = true ↔
        ∃ rest, name = String.intercalate "\\" bares ++ "\\" ++ rest := by
  refine ⟨_, parts.map fun part => String.ofList (stripPart part.toList),
    compile_startsWithNamespace parts, ?_, fun name => ?_⟩
  · rw [List.forall₂_map_right_iff, List.forall₂_same]
    exact fun part _ => encloses_stripPart part
  · rw [occursIn_namespace, isWithin_iff, namespaceOf_eq]

/-! ## Single classes -/

theorem compile_exact (name : String) :
    Pattern.compile (exact name) = .ok (Pattern.spanning (stripSeparator name).toList) := by
  rw [← Pattern.compile_spanning]
  rfl

/-- Whatever a name is, it makes a pattern, and it occurs in the name without its leading separator
and in that name with a line feed behind it. -/
theorem occursIn_exact_iff (name : String) :
    ∃ pattern, Pattern.compile (exact name) = .ok pattern ∧
      ∀ other, pattern.occursIn other = true ↔
        other = stripSeparator name ∨ other = stripSeparator name ++ "\n" := by
  refine ⟨_, compile_exact name, fun other => ?_⟩
  have line : (stripSeparator name ++ "\n").toList = (stripSeparator name).toList ++ ['\n'] := by
    rw [String.toList_append]
    rfl
  rw [Pattern.occursIn_spanning, ← line, String.toList_inj, String.toList_inj]

/-- A name with a line feed behind it is not the name, but its pattern occurs there. -/
theorem occursIn_exact_line :
    ∃ pattern, Pattern.compile (exact "App\\Foo") = .ok pattern ∧
      pattern.occursIn "App\\Foo\n" = true ∧ "App\\Foo\n" ≠ stripSeparator "App\\Foo" :=
  ⟨_, compile_exact _, (Pattern.occursIn_spanning _ _).mpr (.inr rfl), by decide⟩

end OpcachePreload.ClassName
