import OpcachePreload.Proofs.Settings.Sources

/-!
# The root that is given

A configuration is given with a root: an absolute path, as a text. It counts unless the
configuration has another spelling of its own before it, and it changes no other field.
-/

namespace OpcachePreload

variable {env : Environment} {path : Path}

/-! ## Absolute texts -/

theorem Path.isAbsolute_ofString (rest : List Char) :
    (Path.ofString (String.ofList ('/' :: rest))).isAbsolute = true := by
  rw [Path.isAbsolute, Path.ofString, String.toList_ofList]
  unfold Path.rootOf
  split <;> simp_all

theorem Path.exists_toString_eq (absolute : path.isAbsolute = true) :
    ∃ rest, (Path.toString path).toList = '/' :: rest := by
  obtain ⟨root, names⟩ := path
  cases root with
  | relative => simp [Path.isAbsolute] at absolute
  | slash =>
      exact ⟨(String.intercalate "/" names).toList, by simp [Path.toString, PathRoot.text]⟩
  | doubleSlash =>
      exact ⟨'/' :: (String.intercalate "/" names).toList, by simp [Path.toString, PathRoot.text]⟩

theorem Path.isEmpty_toString (absolute : path.isAbsolute = true) :
    (Path.toString path).isEmpty = false := by
  obtain ⟨rest, spelled⟩ := Path.exists_toString_eq absolute
  rw [String.isEmpty_eq_false_iff]
  rintro empty
  simp [empty] at spelled

namespace Environment

/-- The text of an absolute path means an absolute path. -/
theorem isAbsolute_path (env : Environment) (absolute : path.isAbsolute = true) :
    (env.path (Path.toString path)).isAbsolute = true := by
  obtain ⟨rest, spelled⟩ := Path.exists_toString_eq absolute
  have home : env.expandHome ('/' :: rest) = '/' :: rest := rfl
  have replaced : env.expandVariables ('/' :: rest) = '/' :: env.expandFrom 0 rest := by
    simp [expandVariables, expandFrom]
  rw [Environment.path, spelled, home, replaced]
  exact Path.isAbsolute_ofString _

end Environment

/-! ## The root of settings -/

namespace Settings

variable {file : Variables} {given : List (Value × Value)} {settings : Settings}
  {name text : String}
  {value : Value}

/-- The entries of a configuration are those of its mapping, if it is not nothing. -/
theorem eq_nil_or_mapping_of_entriesOf (read : entriesOf path value = .ok given) :
    given = [] ∨ value = .mapping given := by
  unfold entriesOf at read
  split at read
  · exact .inl (Except.ok.inj read).symm
  · split at read
    · exact .inr (congrArg Value.mapping (Except.ok.inj read))
    · cases read

theorem mem_of_given? (set : given? given name = some value) :
    ∃ spelling, Text.lowercase spelling = name ∧ (.text spelling, value) ∈ given := by
  obtain ⟨⟨key, _⟩, found, rfl⟩ := Option.map_eq_some_iff.mp set
  have read := List.find?_some found
  cases key with
  | text spelling =>
      exact ⟨spelling, of_decide_eq_true read, List.mem_of_find?_eq_some found⟩
  | _ => simp at read

/-- Whether an entry is read as the root. -/
def readsRoot (entry : Value × Value) : Bool :=
  match entry.1 with
  | .text name => Text.lowercase name = "root"
  | _ => false

/-- The first entry that is read as the root, in whatever case, has that very name. -/
def PlainRoot (entries : List (Value × Value)) : Prop :=
  ∀ name value, entries.find? readsRoot = some (.text name, value) → name = "root"

theorem hasArgument_eq_false_iff {library : SettingsLibrary} {entries : List (Value × Value)} :
    hasArgument library entries = false ↔
      ∀ entry ∈ entries, ∀ name, entry.1 = .text name → library.isArgument name = false := by
  rw [hasArgument, List.any_eq_false]
  refine forall₂_congr fun entry _ => ?_
  split
  · rename_i found
    simp [found]
  · rename_i other
    exact ⟨fun _ name same => absurd same (other name), fun _ => Bool.false_ne_true⟩

/-- The root is no argument of the library, so assigning it makes no difference to whether there is
one. -/
theorem hasArgument_assign_root {library : SettingsLibrary} {entries : List (Value × Value)}
    (plain : hasArgument library entries = false) (value : Value) :
    hasArgument library (Value.assign (.text "root") value entries) = false := by
  rw [hasArgument_eq_false_iff] at plain ⊢
  intro entry present name same
  rcases Value.fst_mem_of_mem_assign present with root | ⟨old, listed, old_same⟩
  · obtain rfl : name = "root" := Value.text.inj (same.symm.trans root)
    exact library.field_proper _ (by decide)
  · exact plain old listed name (old_same.trans same)

theorem given?_root (given : List (Value × Value)) :
    given? given "root" = (given.find? readsRoot).map Prod.snd :=
  rfl

/-- The root that is assigned counts, unless another spelling comes before it. -/
theorem given?_assign_root {entries : List (Value × Value)} (plain : PlainRoot entries)
    (value : Value) :
    given? (Value.assign (.text "root") value entries) "root" = some value := by
  have reads : readsRoot (.text "root", value) = true := by
    change decide (Text.lowercase "root" = "root") = true
    decide
  rw [given?_root]
  induction entries with
  | nil => rw [Value.assign, List.find?_cons_of_pos reads]; rfl
  | cons entry rest ih =>
      obtain ⟨key, old⟩ := entry
      unfold Value.assign
      split
      · rename_i same
        obtain rfl := Value.sameKey_text_iff.mp same
        rw [List.find?_cons_of_pos reads]
        rfl
      · rename_i differs
        by_cases root : readsRoot (key, old) = true
        · cases key with
          | text name =>
              obtain rfl := plain name old (List.find?_cons_of_pos root)
              exact absurd (Value.sameKey_text_iff.mpr rfl) differs
          | _ => simp [readsRoot] at root
        · rw [List.find?_cons_of_neg root]
          refine ih fun name value found => plain name value ?_
          rw [List.find?_cons_of_neg root, found]

/-- A text that is given as the root is what the root means. -/
theorem root_of_ofSources (made : ofSources env file given = .ok settings)
    (set : given? given "root" = some (.text text)) : settings.root = env.path text := by
  obtain ⟨entries, merged, fields⟩ := exists_fields_of_ofSources made
  obtain ⟨_, found, rfl⟩ := prevails_of_mergedEntries merged (by decide) set
    (fun _ mapping => nomatch mapping)
  have accepted := check_of_field found fields.root
  exact (Checked.valid.inj accepted).symm

theorem given?_assign_root_isSome (value : Value) (entries : List (Value × Value)) :
    (given? (Value.assign (.text "root") value entries) "root").isSome = true := by
  have present := Value.mem_of_field? (Value.field?_assign_self "root" value entries)
  rw [given?_root, Option.isSome_map, List.find?_isSome]
  refine ⟨_, present, ?_⟩
  change decide (Text.lowercase "root" = "root") = true
  decide

/-- A root that is assigned changes no other field. -/
theorem given?_assign_of_ne (differs : name ≠ "root") (value : Value)
    (entries : List (Value × Value)) :
    given? (Value.assign (.text "root") value entries) name = given? entries name := by
  have unread (value : Value) (rest : List (Value × Value)) :
      given? ((.text "root", value) :: rest) name = given? rest name := by
    have other : Text.lowercase "root" ≠ name := by
      rw [show Text.lowercase "root" = "root" by decide]
      exact differs.symm
    simp [given?, other]
  induction entries with
  | nil => exact unread value []
  | cons entry rest ih =>
      obtain ⟨key, old⟩ := entry
      unfold Value.assign
      split
      · rename_i same
        obtain rfl := Value.sameKey_text_iff.mp same
        rw [unread, unread]
      · simp only [given?, List.find?_cons] at ih ⊢
        split
        · rfl
        · exact ih

end Settings

end OpcachePreload
