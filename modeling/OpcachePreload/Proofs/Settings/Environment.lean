import OpcachePreload.Proofs.Action.Directory
import OpcachePreload.Proofs.DataFile
import OpcachePreload.Proofs.OrderedMap
import OpcachePreload.Proofs.Path.Text
import OpcachePreload.Proofs.Settings.Load
import OpcachePreload.Proofs.Settings.Precedence
import OpcachePreload.Proofs.Settings.Root

/-!
# A configuration and the environment

A configuration that is loaded in two environments which differ only in variables for settings gives
the same to every field that it sets, and the same root.
-/

namespace OpcachePreload.Settings

open Variables (NamesApart)
open OpcachePreload.Action (Yields)

variable {env env' : Environment} {file : Variables} {given entries entries' : List (Value × Value)}
  {name : String} {value : Value} {settings settings' : Settings}

/-! ## Loading -/

variable {surroundings : Surroundings} {environment' : Environment} {files files' : FileTree}
  {path : Option String} {place : Path}

/-- The path of the configuration that is loaded. -/
def placeOf (env : Environment) (path : Option String) : Path :=
  env.path ((path.filter (!·.isEmpty)).getD fileName)

/-- The root that is given with a configuration at a path: the root that is written in it, taken
from its directory. -/
def givenRoot (surroundings : Surroundings) (place : Path) (written : String) : Path :=
  ⟨.slash, surroundings.directory⟩ / place.parent / surroundings.environment.path written

/-- The entries that the configuration at a path holds. -/
def Holds (surroundings : Surroundings) (files : FileTree) (place : Path)
    (entries : List (Value × Value)) : Prop :=
  ∃ value, Yields surroundings files (DataFile.load place) value ∧
    entriesOf place value = .ok entries

theorem Holds.unique {surroundings' : Surroundings}
    (holds : Holds surroundings files place entries)
    (holds' : Holds surroundings' files' place entries')
    (same : files'.read surroundings'.directory place = files.read surroundings.directory place) :
    entries' = entries := by
  obtain ⟨value, loads, read⟩ := holds
  obtain ⟨value', loads', read'⟩ := holds'
  obtain rfl := DataFile.load_unique loads loads' same
  exact Except.ok.inj (read'.symm.trans read)

/-- The names in what a configuration holds are apart. -/
theorem Holds.orderly (holds : Holds surroundings files place entries) :
    Value.OrderlyEntries entries := by
  obtain ⟨value, loads, read⟩ := holds
  rcases eq_nil_or_mapping_of_entriesOf read with rfl | rfl
  · exact Value.orderlyEntries_nil
  · exact (DataFile.orderly_of_load loads).ofMapping

/-! ## What is given with a configuration -/

theorem namesApart_of_given? (orderly : Value.OrderlyEntries given)
    (set : given? given name = some value) : NamesApart value := by
  obtain ⟨_, _, present⟩ := mem_of_given? set
  rintro inner rfl
  exact (orderly.inside _ present).ofMapping.distinct

theorem kept_of_mergedEntries (orderly : Value.OrderlyEntries given)
    (merged : mergedEntries env file given = .ok entries) (known : name ∈ fieldNames) :
    Kept given entries name :=
  fun _ set => prevails_of_mergedEntries merged known set (namesApart_of_given? orderly set)

theorem orderlyEntries_assign_root (orderly : Value.OrderlyEntries given) (root : String) :
    Value.OrderlyEntries (Value.assign (.text "root") (.text root) given) :=
  orderly.assign _ (.other nofun)

/-- What is given to another field than the root prevails when a root is assigned. -/
theorem Kept.of_assign_root {root : String}
    (kept : Kept (Value.assign (.text "root") (.text root) given) entries name)
    (differs : name ≠ "root") : Kept given entries name :=
  fun value set => kept value ((given?_assign_of_ne differs _ _).trans set)

/-! ## Settings and their sources -/

/-- Settings that come of entries in which what is given prevails. -/
def ComesOf (env : Environment) (given : List (Value × Value)) (settings : Settings) : Prop :=
  ∃ merged, Fields env merged settings ∧ ∀ name ∈ fieldNames, Kept given merged name

theorem comesOf_of_ofSources (orderly : Value.OrderlyEntries given)
    (made : ofSources env file given = .ok settings) : ComesOf env given settings := by
  obtain ⟨merged, merged_made, fields⟩ := exists_fields_of_ofSources made
  exact ⟨merged, fields, fun _ known => kept_of_mergedEntries orderly merged_made known⟩

/-- The library merges what is given with other sources in the usual order, also if arguments of its
own are among what is given. -/
def InOrder (library : SettingsLibrary) (given : List (Value × Value)) : Prop :=
  hasArgument library given = true → ∀ env directory files settings,
    library.make env directory files given = .ok settings → ComesOf env given settings

theorem comesOf_of_make (orderly : Value.OrderlyEntries given)
    (ordered : InOrder surroundings.system.library given)
    (makes : Yields surroundings files (make given) settings) :
    ComesOf surroundings.environment given settings := by
  unfold make at makes
  split at makes
  · exact absurd makes Action.not_yields_fail_bind
  · obtain ⟨_, knows, makes⟩ := makes.parts Action.observes_read.keeps_files
    obtain rfl := knows.of_read
    split at makes
    · rename_i argued
      obtain ⟨session, _, made⟩ := makes
      rw [perform_makeByLibrary] at made
      exact ordered argued _ _ _ _ (mapError_eq_ok_iff.mp made)
    · obtain ⟨file, _, makes⟩ := makes.parts observes_fileVariables.keeps_files
      obtain ⟨_, knows, makes⟩ := makes.parts Action.observes_read.keeps_files
      obtain rfl := knows.of_read
      exact comesOf_of_ofSources orderly makes.of_ofExcept

/-- The entries of a configuration with a root assigned. -/
abbrev withRoot (root : String) (entries : List (Value × Value)) : List (Value × Value) :=
  Value.assign (.text "root") (.text root) entries

theorem inOrder_of_plain {library : SettingsLibrary}
    (plain : hasArgument library entries = false) (root : String) :
    InOrder library (withRoot root entries) := by
  intro argued
  rw [hasArgument_assign_root plain] at argued
  cases argued

theorem exists_holds_of_load (loads : Yields surroundings files (load path) settings) :
    ∃ entries, Holds surroundings files (placeOf surroundings.environment path) entries := by
  obtain ⟨_, expands, loads⟩ := loads.parts (Action.observes_expanded _).keeps_files
  obtain rfl := expands.of_expanded
  obtain ⟨value, reads, loads⟩ := loads.parts (DataFile.observes_load _).keeps_files
  obtain ⟨entries, found, _⟩ := loads.parts (Action.keeps_ofExcept _ _)
  exact ⟨entries, value, reads, found.of_ofExcept⟩

/-- Settings that are loaded come of the entries of the configuration and its root, and of other
sources. -/
theorem comesOf_of_load
    (holds : Holds surroundings files (placeOf surroundings.environment path) entries)
    (ordered : ∀ root, InOrder surroundings.system.library (withRoot root entries))
    (loads : Yields surroundings files (load path) settings) :
    ∃ written, writtenRoot (placeOf surroundings.environment path) entries = .ok written ∧
      ComesOf surroundings.environment (withRoot (toString (givenRoot surroundings
        (placeOf surroundings.environment path) written)) entries) settings := by
  obtain ⟨_, expands, loads⟩ := loads.parts (Action.observes_expanded _).keeps_files
  obtain rfl := expands.of_expanded
  obtain ⟨value, reads, loads⟩ := loads.parts (DataFile.observes_load _).keeps_files
  obtain ⟨found, found_entries, loads⟩ := loads.parts (Action.keeps_ofExcept _ _)
  obtain rfl := holds.unique ⟨value, reads, found_entries.of_ofExcept⟩ rfl
  obtain ⟨written, root_found, loads⟩ := loads.parts (Action.keeps_ofExcept _ _)
  obtain ⟨_, expands, loads⟩ := loads.parts (Action.observes_expanded _).keeps_files
  obtain rfl := expands.of_expanded
  obtain ⟨_, places, loads⟩ := loads.parts (Action.observes_absolute _).keeps_files
  obtain rfl := places.of_absolute
  exact ⟨written, root_found.of_ofExcept,
    comesOf_of_make (orderlyEntries_assign_root holds.orderly _) (ordered _) loads⟩

/-! ## Plain paths -/

/-- The fields that hold a path. -/
def pathFieldNames : List String := ["root", "class_map", "manifest"]

/-- Whether an entry gives a path in which there is something to replace besides the home directory.
-/
def hasVariables (env : Environment) (entry : Value × Value) : Bool :=
  match entry.1, entry.2.toText? with
  | .text name, some written =>
    pathFieldNames.contains (Text.lowercase name) && (env.expandHome written.toList).contains '$'
  | _, _ => false

/-- Entries in whose paths there is nothing to replace but the home directory. -/
def PlainPaths (env : Environment) (entries : List (Value × Value)) : Prop :=
  ∀ entry ∈ entries, hasVariables env entry = false

instance (env : Environment) (entries : List (Value × Value)) :
    Decidable (PlainPaths env entries) :=
  inferInstanceAs (Decidable (∀ entry ∈ entries, _))

theorem PlainPaths.not_mem {spelling written : String} (plain : PlainPaths env given)
    (present : (.text spelling, value) ∈ given) (path : Text.lowercase spelling ∈ pathFieldNames)
    (spelled : value.toText? = some written) : '$' ∉ env.expandHome written.toList := by
  have none_there := plain _ present
  simp only [hasVariables, spelled, path, List.elem_eq_mem, decide_true,
    Bool.true_and, decide_eq_false_iff_not] at none_there
  exact none_there

theorem PlainPaths.plainAt (plain : PlainPaths env given) (path : name ∈ pathFieldNames) :
    PlainAt env given name := by
  intro value written set spelled
  obtain ⟨spelling, rfl, present⟩ := mem_of_given? set
  exact plain.not_mem present path spelled

theorem PlainPaths.writtenRoot {written : String} (plain : PlainPaths env entries)
    (found : writtenRoot place entries = .ok written) : '$' ∉ env.expandHome written.toList := by
  unfold Settings.writtenRoot at found
  cases set : (Value.field? entries "root").filter Value.isSomething with
  | none =>
      rw [set] at found
      obtain rfl := Except.ok.inj found
      change '$' ∉ ".".toList
      decide
  | some value =>
      rw [set] at found
      dsimp only [Option.getD_some] at found
      obtain ⟨set, _⟩ := Option.filter_eq_some_iff.mp set
      split at found
      · obtain rfl := Except.ok.inj found
        exact plain.not_mem (Value.mem_of_field? set) (by decide) ‹_›
      · cases found

theorem isAbsolute_givenRoot (surroundings : Surroundings) (place : Path) (written : String) :
    (givenRoot surroundings place written).isAbsolute = true :=
  Path.isAbsolute_join (Path.isAbsolute_join rfl _) _

/-- The root that is given has nothing to replace in it if its text has no dollar sign. -/
theorem plainAt_root {root : Path} (plain : PlainPaths env entries)
    (absolute : root.isAbsolute = true) (plain_root : '$' ∉ (toString root).toList) :
    PlainAt env (Value.assign (.text "root") (.text (toString root)) entries) "root" := by
  intro value written set spelled
  obtain ⟨spelling, reads, present⟩ := mem_of_given? set
  rcases Value.snd_mem_of_mem_assign present with rfl | old
  · obtain rfl : toString root = written := Option.some.inj spelled
    obtain ⟨rest, spelled⟩ := Path.exists_toString_eq absolute
    have home : env.expandHome (toString root).toList = (toString root).toList := by
      rw [show (toString root).toList = '/' :: rest from spelled]
      rfl
    rw [home]
    exact plain_root
  · exact plain.not_mem old (reads ▸ by decide) spelled

/-! ## Two loads of one configuration -/

/-- Two environments of one system that differ only in variables for settings: those whose names, in
lower case, start with the mark of this program. -/
structure AlikeOutside (env env' : Environment) : Prop where
  get?_eq : ∀ name, ¬ Variables.mark.toList <+: (Text.lowercase name).toList →
    env'.get? name = env.get? name
  same_accounts : env'.accountHome? = env.accountHome?

/-- A configuration that is loaded in two environments which differ only in variables for settings.
Of the files only that of the configuration has to be the same. The library merges what is given in
the usual order even if arguments of its own are among it. -/
structure LoadedTwice (surroundings : Surroundings) (environment' : Environment)
    (files files' : FileTree) (path : Option String) (entries : List (Value × Value)) : Prop where
  alike : AlikeOutside surroundings.environment environment'
  same_place : placeOf environment' path = placeOf surroundings.environment path
  same_bytes :
    files'.read surroundings.directory (placeOf surroundings.environment path) =
      files.read surroundings.directory (placeOf surroundings.environment path)
  holds : Holds surroundings files (placeOf surroundings.environment path) entries
  ordered : ∀ root, InOrder surroundings.system.library (withRoot root entries)

theorem AlikeOutside.same_home (alike : AlikeOutside env env') : env'.home? = env.home? := by
  funext user
  rw [Environment.home?, alike.get?_eq "HOME" (by decide), alike.same_accounts]
  rfl

theorem alikeOutside_refl (env : Environment) : AlikeOutside env env :=
  ⟨fun _ _ => rfl, rfl⟩

/-- One more variable for settings makes no difference. -/
theorem AlikeOutside.insert (alike : AlikeOutside env env')
    (marked : Variables.mark.toList <+: (Text.lowercase name).toList) (text : String) :
    AlikeOutside env (env'.insert name text) := by
  refine ⟨fun other unmarked => ?_, alike.same_accounts⟩
  rw [Environment.insert, Environment.get?, OrderedMap.get?_insert]
  split
  · rename_i same
    exact absurd (same ▸ marked) unmarked
  · exact alike.get?_eq other unmarked

theorem givenRoot_congr {written : String}
    (alike : AlikeOutside surroundings.environment environment')
    (plain : '$' ∉ surroundings.environment.expandHome written.toList) :
    givenRoot { surroundings with environment := environment' } place written =
      givenRoot surroundings place written := by
  unfold givenRoot
  rw [Environment.path_congr alike.same_home plain]

/-- What a configuration sets comes out the same in every environment that differs only in variables
for settings, and so does the root. -/
theorem load_set_by_configuration
    (twice : LoadedTwice surroundings environment' files files' path entries)
    (plain : PlainPaths surroundings.environment entries)
    (loads : (load path).outcome surroundings files = .ok settings)
    (loads' : (load path).outcome { surroundings with environment := environment' } files' =
      .ok settings') :
    SameWhereSet entries settings settings' ∧
      ∀ written, writtenRoot (placeOf surroundings.environment path) entries = .ok written →
        '$' ∉ (toString (givenRoot surroundings (placeOf surroundings.environment path)
          written)).toList → settings'.root = settings.root := by
  have same_home := twice.alike.same_home
  obtain ⟨found, holds'⟩ := exists_holds_of_load (Action.yields_of_outcome loads')
  have found_holds := holds'
  rw [twice.same_place] at found_holds
  obtain rfl : found = entries := twice.holds.unique found_holds twice.same_bytes
  obtain ⟨written, reads, merged, fields, kept⟩ :=
    comesOf_of_load twice.holds twice.ordered (Action.yields_of_outcome loads)
  obtain ⟨written', reads', merged', fields', kept'⟩ :=
    comesOf_of_load holds' twice.ordered (Action.yields_of_outcome loads')
  rw [twice.same_place] at reads' kept'
  obtain rfl : written' = written := Except.ok.inj (reads'.symm.trans reads)
  rw [givenRoot_congr twice.alike (plain.writtenRoot reads)] at kept'
  have apart : ∀ {name}, name ∈ fieldNames.erase "root" → name ∈ fieldNames ∧ name ≠ "root" :=
    fun known => ((List.Nodup.mem_erase_iff (by decide)).mp known).symm
  refine ⟨?_, fun other reads_other plain_root => ?_⟩
  · exact sameWhereSet_of_fields
      (fun _ known => (kept _ (apart known).1).of_assign_root (apart known).2)
      (fun _ known => (kept' _ (apart known).1).of_assign_root (apart known).2)
      fields fields' same_home (plain.plainAt (by decide)) (plain.plainAt (by decide))
  · obtain rfl : other = written' := Except.ok.inj (reads_other.symm.trans reads)
    exact (kept _ (by decide)).path_unique (kept' _ (by decide)) same_home
      (plainAt_root plain (isAbsolute_givenRoot _ _ _) plain_root)
      (given?_assign_root_isSome _ _) fields.root fields'.root

/-- A directory with a configuration and a file of variables. -/
def sampleFiles (directory bindings : String) : FileTree :=
  let configuration :=
    "\x7b\"manifest\": \"~/m.json\", \"loader\": \x7b\"runtime\": \"php\"\x7d\x7d"
  ⟨[([directory], .directory),
    ([directory, "preload.json"], .file (Text.Utf8.encode configuration.toList)),
    ([directory, ".env"], .file (Text.Utf8.encode bindings.toList))]⟩

/-- A variable for settings counts where the home directory or the directory of the configuration is
written with its name, and inside a field of which the configuration sets another part. -/
theorem load_differs_by_variables :
    let results (more : List (String × String)) :=
      ((load (some "preload.json")).outcome
        ⟨["$PRELOADER_USER"], .ofList (("HOME", "/$PRELOADER_USER") :: more), .notFound,
          false, .ordinary⟩
        (sampleFiles "$PRELOADER_USER" "")).toOption.map
          fun settings => (settings.root, settings.manifest, settings.loader.phpBinary)
    results [] =
        some (⟨.slash, ["$PRELOADER_USER"]⟩, ⟨.slash, ["$PRELOADER_USER", "m.json"]⟩, "php") ∧
      results [("PRELOADER_USER", "u"), ("Preloader_Loader__php_binary", "php8")] =
        some (⟨.slash, ["u"]⟩, ⟨.slash, ["u", "m.json"]⟩, "php8") := by
  constructor <;> decide +kernel

theorem exists_of_any {ε α : Type} {result : Except ε α} {test : α → Bool}
    (passes : result.toOption.any test = true) : ∃ a, result = .ok a ∧ test a = true := by
  cases result with
  | error fault => cases passes
  | ok a => exact ⟨a, rfl, passes⟩

/-- What the configuration sets prevails over the environment and the file of variables; the binary
is not set by it. -/
theorem load_set_by_configuration_sample :
    let surroundings : Surroundings :=
      ⟨["srv"], .ofList [("HOME", "/u")], .notFound, false, .ordinary⟩
    let environment' : Environment :=
      (surroundings.environment.insert "PRELOADER_ROOT" "/r").insert "preloader_loader__php_binary"
        "php8"
    let settings : Settings :=
      { root := ⟨.slash, ["srv"]⟩, manifest := ⟨.slash, ["u", "m.json"]⟩ }
    let settings' : Settings := { settings with loader := { phpBinary := "php8" } }
    ∃ entries,
      LoadedTwice surroundings environment' (sampleFiles "srv" "")
          (sampleFiles "srv" "PRELOADER_MANIFEST=x\n") (some "preload.json") entries ∧
        PlainPaths surroundings.environment entries ∧
        (SameWhereSet entries settings settings' ∧
          ∀ written, writtenRoot (placeOf surroundings.environment (some "preload.json")) entries =
              .ok written →
            '$' ∉ (toString (givenRoot surroundings
              (placeOf surroundings.environment (some "preload.json")) written)).toList →
            settings'.root = settings.root) := by
  intro surroundings environment' settings settings'
  have loads : (load (some "preload.json")).outcome surroundings (sampleFiles "srv" "") =
      .ok settings :=
    eq_ok_of_toOption (by decide +kernel)
  have loads' : (load (some "preload.json")).outcome
      { surroundings with environment := environment' }
      (sampleFiles "srv" "PRELOADER_MANIFEST=x\n") = .ok settings' :=
    eq_ok_of_toOption (by decide +kernel)
  have checked : ((DataFile.load (placeOf surroundings.environment (some "preload.json"))).outcome
      surroundings (sampleFiles "srv" "") >>= entriesOf
        (placeOf surroundings.environment (some "preload.json"))).toOption.any
          (fun entries => decide (PlainPaths surroundings.environment entries) &&
            !hasArgument surroundings.system.library entries) = true := by
    decide +kernel
  obtain ⟨entries, found, passes⟩ := exists_of_any checked
  obtain ⟨plain, plain_names⟩ := Bool.and_eq_true_iff.mp passes
  obtain ⟨value, reads, read⟩ := bind_eq_ok_iff.mp found
  have twice : LoadedTwice surroundings environment' (sampleFiles "srv" "")
      (sampleFiles "srv" "PRELOADER_MANIFEST=x\n") (some "preload.json") entries :=
    { alike := ((alikeOutside_refl _).insert (by decide +kernel) _).insert (by decide +kernel) _
      same_place := by decide +kernel
      same_bytes := by decide +kernel
      holds := ⟨value, Action.yields_of_outcome reads, read⟩
      ordered := inOrder_of_plain ((Bool.not_eq_true' _).mp plain_names) }
  have plain := of_decide_eq_true plain
  exact ⟨entries, twice, plain, load_set_by_configuration twice plain loads loads'⟩

end OpcachePreload.Settings
