import OpcachePreload.Environment
import OpcachePreload.Failure.Basic
import OpcachePreload.Settings.Basic

/-!
# What the program relies on

Some of what the program does is settled elsewhere: where links lead, what comes of a file of log
settings, and what the library that checks the settings makes of its own arguments. Nothing is
assumed about these, but that a resolved path goes down only and is made of proper names.
-/

namespace OpcachePreload

/-! ## Links -/

/-- How the names of an absolute path are resolved. The result holds the names on the way from the
root. -/
structure Resolver where
  resolve : List String → List String
  down : ∀ names, ".." ∉ resolve names
  proper : ∀ names, (∀ name ∈ names, Path.isName name = true) →
    ∀ name ∈ resolve names, Path.isName name = true

/-- The names after one more: double dots take the name before them away. -/
def collapse (kept : List String) (name : String) : List String :=
  if name = ".." then kept.dropLast else kept ++ [name]

/-- Names without double dots. -/
def collapsed (names : List String) : List String := names.foldl collapse []

theorem mem_of_mem_collapse {kept : List String} {name part : String}
    (present : part ∈ collapse kept name) : part ∈ kept ∨ part = name ∧ part ≠ ".." := by
  unfold collapse at present
  split at present
  · exact .inl (List.dropLast_subset _ present)
  · rename_i proper
    rcases List.mem_append.mp present with before | here
    · exact .inl before
    · obtain rfl := List.mem_singleton.mp here
      exact .inr ⟨rfl, proper⟩

theorem mem_of_mem_foldl_collapse {names : List String} : ∀ {kept : List String} {part : String},
    part ∈ names.foldl collapse kept → part ∈ kept ∨ part ∈ names ∧ part ≠ ".." := by
  induction names with
  | nil => exact fun present => .inl present
  | cons name rest ih =>
      intro kept part present
      rcases ih present with before | ⟨later, proper⟩
      · rcases mem_of_mem_collapse before with kept_before | ⟨rfl, proper⟩
        · exact .inl kept_before
        · exact .inr ⟨List.mem_cons_self, proper⟩
      · exact .inr ⟨List.mem_cons_of_mem _ later, proper⟩

theorem mem_of_mem_collapsed {names : List String} {part : String}
    (present : part ∈ collapsed names) : part ∈ names ∧ part ≠ ".." :=
  (mem_of_mem_foldl_collapse present).resolve_left List.not_mem_nil

/-- Where there are no links, names are resolved by their text. -/
def Resolver.unlinked : Resolver where
  resolve := collapsed
  down _ present := (mem_of_mem_collapsed present).2 rfl
  proper _ proper _ present := proper _ (mem_of_mem_collapsed present).1

/-! ## The log -/

/-- How important a record of the log is. -/
inductive Level where
  | unset
  | debug
  | info
  | warning
  | error
  | critical
  deriving DecidableEq, Repr

/-- The rank of a level. -/
def Level.rank : Level → Nat
  | unset => 0
  | debug => 10
  | info => 20
  | warning => 30
  | error => 40
  | critical => 50

/-- The name of a level. -/
def Level.name : Level → String
  | unset => "NOTSET"
  | debug => "DEBUG"
  | info => "INFO"
  | warning => "WARNING"
  | error => "ERROR"
  | critical => "CRITICAL"

/-- What comes of a file of log settings. Files that records are to go to are opened even if it
cannot be used in the end. -/
structure LogSetup where
  files : FileTree
  threshold : Except ForeignFault Level

/-! ## The library of the settings -/

/-- The library that checks the settings. Some names that are given are arguments of the library
itself, which may change where it looks for settings and what it does with them. No field has such a
name. -/
structure SettingsLibrary where
  isArgument : String → Bool
  field_proper : ∀ name ∈ Settings.fieldNames, isArgument name = false
  /-- What the library makes of entries with its own arguments among them. -/
  make : Environment → (directory : Location) → FileTree → (given : List (Value × Value)) →
    Except ForeignFault Settings

/-- The arguments that the library knows. -/
def SettingsLibrary.argumentNames : List String := [
  "__pydantic_self__", "_case_sensitive", "_nested_model_default_partial_update", "_env_prefix",
  "_env_prefix_target", "_env_file", "_env_file_encoding", "_env_ignore_empty",
  "_env_nested_delimiter", "_env_nested_max_split", "_env_parse_none_str", "_env_parse_enums",
  "_cli_prog_name", "_cli_parse_args", "_cli_settings_source", "_cli_parse_none_str",
  "_cli_hide_none_type", "_cli_avoid_json", "_cli_enforce_required",
  "_cli_use_class_docs_for_groups", "_cli_exit_on_error", "_cli_prefix", "_cli_flag_prefix_char",
  "_cli_implicit_flags", "_cli_ignore_unknown_args", "_cli_kebab_case", "_cli_shortcuts",
  "_secrets_dir", "_build_sources"]

/-- A library that refuses all of its own arguments. -/
def SettingsLibrary.strict : SettingsLibrary where
  isArgument := (· ∈ argumentNames)
  field_proper := by decide
  make _ _ _ _ := .error (.raised "TypeError" "" false)

/-! ## Systems -/

/-- What is settled outside the program. -/
structure System where
  resolver : Resolver
  /-- Use a file of log settings that is there. -/
  logSetup : (directory : Location) → FileTree → Path → LogSetup
  library : SettingsLibrary

/-- A system without links, in which no file of log settings asks for anything. -/
def System.ordinary : System where
  resolver := .unlinked
  logSetup _ files _ := ⟨files, .ok .warning⟩
  library := .strict

end OpcachePreload
