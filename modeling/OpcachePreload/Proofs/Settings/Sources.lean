import Mathlib.Data.List.Nodup
import OpcachePreload.Proofs.Action
import OpcachePreload.Proofs.Settings.Accepted
import OpcachePreload.Proofs.Value.Field
import OpcachePreload.Settings.Load

/-!
# What counts of several sources

Entries that are put over others count, whatever is below them; only a mapping lets through what it
does not hold itself. So a field that is given has the value that it is given, and the environment
and the file of variables have no say in it.
-/

namespace OpcachePreload

/-! ## Entries over others -/

namespace Settings.Variables

open Value (DistinctNames)

variable {lower upper : List (Value × Value)} {name : String} {fuel : Nat}

/-- What a value becomes over an old one. -/
def overlay (fuel : Nat) : (old : Option Value) → Value → Value
  | some (.mapping old), .mapping new => .mapping (merge fuel old new)
  | _, value => value

theorem merge_cons (fuel : Nat) (lower : List (Value × Value)) (entry : Value × Value)
    (rest : List (Value × Value)) :
    merge (fuel + 1) lower (entry :: rest) =
      merge (fuel + 1) (Value.assign entry.1
        (overlay fuel
          ((lower.find? fun other => Value.sameKey other.1 entry.1).map Prod.snd) entry.2)
        lower) rest := by
  rw [merge, List.foldl_cons, merge]
  rfl

/-- What is put over counts. -/
theorem field?_merge (distinct : DistinctNames upper) (fuel : Nat)
    (lower : List (Value × Value)) (name : String) :
    Value.field? (merge (fuel + 1) lower upper) name =
      match Value.field? upper name with
      | none => Value.field? lower name
      | some value => some (overlay fuel (Value.field? lower name) value) := by
  induction upper generalizing lower with
  | nil => rfl
  | cons entry rest ih =>
      obtain ⟨key, value⟩ := entry
      rw [merge_cons, ih (List.pairwise_cons.mp distinct).2]
      by_cases here : key = Value.text name
      · subst here
        rw [distinct.field?_eq_none, Value.field?_cons_of_eq]
        exact Value.field?_assign_self _ _ _
      · rw [Value.field?_cons_of_ne here, Value.field?_assign_of_ne here]

theorem field?_mergeEntries {value : Value} (distinct : DistinctNames upper)
    (lower : List (Value × Value)) (set : Value.field? upper name = some value) :
    Value.field? (mergeEntries lower upper) name =
      some (overlay (depthOfEntries upper) (Value.field? lower name) value) := by
  rw [mergeEntries, field?_merge distinct, set]

theorem distinctNames_merge (lower_distinct : DistinctNames lower)
    (upper_distinct : DistinctNames upper) (fuel : Nat) :
    DistinctNames (merge fuel lower upper) := by
  cases fuel with
  | zero => exact upper_distinct
  | succ fuel =>
      clear upper_distinct
      induction upper generalizing lower with
      | nil => exact lower_distinct
      | cons entry rest ih =>
          rw [merge_cons]
          exact ih (lower_distinct.assign _ _)

/-- No two names in a value are one, if it is a mapping. -/
def NamesApart (value : Value) : Prop :=
  ∀ entries, value = .mapping entries → DistinctNames entries

/-- What a value has become over others: itself, or a mapping if it is one. -/
def Stands (value merged : Value) : Prop :=
  match value with
  | .mapping _ => ∃ entries, merged = .mapping entries
  | value => merged = value

/-- What a value has become over others where mappings are merged: itself, or a mapping in which
everything stands that it holds itself. -/
def Prevails (value merged : Value) : Prop :=
  match value with
  | .mapping own => ∃ entries, merged = .mapping entries ∧ ∀ name inner,
      Value.field? own name = some inner →
        ∃ inner', Value.field? entries name = some inner' ∧ Stands inner inner'
  | value => merged = value

theorem Stands.refl (value : Value) : Stands value value := by
  cases value with
  | mapping entries => exact ⟨entries, rfl⟩
  | _ => rfl

theorem Stands.trans {first second third : Value} (earlier : Stands first second)
    (later : Stands second third) : Stands first third := by
  cases first with
  | mapping =>
      obtain ⟨_, rfl⟩ := earlier
      exact later
  | _ =>
      obtain rfl := earlier
      exact later

theorem Prevails.refl (value : Value) : Prevails value value := by
  cases value with
  | mapping entries => exact ⟨entries, rfl, fun _ inner set => ⟨inner, set, .refl inner⟩⟩
  | _ => rfl

theorem Prevails.trans {first second third : Value} (earlier : Prevails first second)
    (later : Prevails second third) : Prevails first third := by
  cases first with
  | mapping =>
      obtain ⟨_, rfl, kept⟩ := earlier
      obtain ⟨entries, rfl, kept_later⟩ := later
      refine ⟨entries, rfl, fun name inner set => ?_⟩
      obtain ⟨between, between_set, stands⟩ := kept name inner set
      obtain ⟨last, last_set, stands_later⟩ := kept_later name between between_set
      exact ⟨last, last_set, stands.trans stands_later⟩
  | _ =>
      obtain rfl := earlier
      exact later

theorem stands_overlay (fuel : Nat) (old : Option Value) (value : Value) :
    Stands value (overlay fuel old value) := by
  unfold overlay
  split
  · exact ⟨_, rfl⟩
  · exact .refl value

theorem prevails_overlay {value : Value} (apart : NamesApart value) (fuel : Nat)
    (old : Option Value) : Prevails value (overlay fuel old value) := by
  unfold overlay
  split
  · rename_i old new
    refine ⟨_, rfl, fun name inner set => ?_⟩
    cases fuel with
    | zero => exact ⟨inner, set, .refl inner⟩
    | succ fuel =>
        refine ⟨overlay fuel (Value.field? old name) inner, ?_, stands_overlay _ _ _⟩
        rw [field?_merge (apart new rfl), set]
  · exact .refl value

theorem namesApart_overlay {old : Option Value} {value : Value}
    (old_apart : ∀ below, old = some below → NamesApart below) (apart : NamesApart value)
    (fuel : Nat) : NamesApart (overlay fuel old value) := by
  unfold overlay
  split
  · rename_i old new
    rintro entries same
    obtain rfl := Value.mapping.inj same
    exact distinctNames_merge (old_apart _ rfl old rfl) (apart new rfl) fuel
  · exact apart

/-! ## The sources -/

theorem distinctNames_withFieldCase (field : String) (entries : List (Value × Value)) :
    DistinctNames (withFieldCase field entries) := by
  unfold withFieldCase
  apply List.foldlRecOn entries _ Value.distinctNames_nil
  exact fun _ distinct _ _ => distinct.assign _ _

/-- The names in what variables give to a field are apart. -/
theorem namesApart_of_field? {known : Variables} {field : String} {value : Value}
    (found : known.field? field = some (some value)) : NamesApart value := by
  intro entries mapping
  subst mapping
  unfold field? at found
  split at found
  · unfold structured? at found
    split at found
    · obtain ⟨inner, _, given⟩ := Option.bind_eq_some_iff.mp found
      split at given
      · simp at given
      · simp only [Option.pure_def, Option.some.injEq, Value.mapping.injEq] at given
        exact given ▸ distinctNames_withFieldCase _ _
    · obtain ⟨decoded, _, given⟩ := Option.bind_eq_some_iff.mp found
      split at given
      · obtain ⟨inner, _, given⟩ := Option.bind_eq_some_iff.mp given
        simp only [Option.pure_def, Option.some.injEq, Value.mapping.injEq] at given
        exact given ▸ distinctNames_withFieldCase _ _
      · simp at given
      · rename_i not_mapping _
        simp only [Option.pure_def, Option.some.injEq] at given
        exact absurd given (not_mapping entries)
  · simp at found

/-- Entries whose names are apart, also in the mappings that they hold. -/
structure Tidy (entries : List (Value × Value)) : Prop where
  distinct : DistinctNames entries
  apart : ∀ entry ∈ entries, NamesApart entry.2

theorem Tidy.namesApart {entries : List (Value × Value)} {value : Value} (tidy : Tidy entries)
    (found : Value.field? entries name = some value) : NamesApart value := by
  obtain ⟨entry, present, rfl⟩ := Option.map_eq_some_iff.mp found
  exact tidy.apart entry (List.mem_of_find?_eq_some present)

theorem Tidy.append {entries : List (Value × Value)} {value : Value} (tidy : Tidy entries)
    (new : ∀ entry ∈ entries, entry.1 ≠ .text name) (apart : NamesApart value) :
    Tidy (entries ++ [(.text name, value)]) where
  distinct := by
    refine List.pairwise_append.mpr ⟨tidy.distinct, List.pairwise_singleton _ _, ?_⟩
    intro entry present last only other named same
    obtain rfl := List.mem_singleton.mp only
    exact new entry present (named.trans same.symm)
  apart entry present := by
    rcases List.mem_append.mp present with old | last
    · exact tidy.apart entry old
    · obtain rfl := List.mem_singleton.mp last
      exact apart

/-- Entries stay tidy while every field is given after those before it. -/
theorem tidy_of_foldlM {known : Variables} {fields : List String}
    {soFar entries : List (Value × Value)} (once : fields.Nodup) (tidy : Tidy soFar)
    (new : ∀ entry ∈ soFar, ∀ field ∈ fields, entry.1 ≠ .text field)
    (given : fields.foldlM (fun entries field =>
      match known.field? field with
      | none => .error field
      | some none => .ok entries
      | some (some value) => .ok (entries ++ [(.text field, value)])) soFar =
        (.ok entries : Except String _)) : Tidy entries := by
  induction fields generalizing soFar with
  | nil => exact Except.ok.inj given ▸ tidy
  | cons field rest ih =>
      obtain ⟨absent, rest_once⟩ := List.nodup_cons.mp once
      rw [List.foldlM_cons] at given
      have new_rest : ∀ entry ∈ soFar, ∀ other ∈ rest, entry.1 ≠ .text other :=
        fun entry old other later => new entry old other (List.mem_cons_of_mem _ later)
      cases found : known.field? field with
      | none => simp [found, bind, Except.bind] at given
      | some value? =>
          rw [found] at given
          cases value? with
          | none => exact ih rest_once tidy new_rest given
          | some value =>
              refine ih rest_once (tidy.append (fun entry old => new entry old field
                List.mem_cons_self) (namesApart_of_field? found)) ?_ given
              intro entry present other later
              rcases List.mem_append.mp present with old | last
              · exact new_rest entry old other later
              · obtain rfl := List.mem_singleton.mp last
                rintro same
                exact absent (Value.text.inj same ▸ later)

/-- What variables give is tidy: a field comes once. -/
theorem tidy_entries {known : Variables} {entries : List (Value × Value)}
    (given : known.entries = .ok entries) : Tidy entries :=
  tidy_of_foldlM (by decide) ⟨Value.distinctNames_nil, by simp⟩ (by simp) given

end Settings.Variables

namespace Settings

open Value (DistinctNames)
open Variables (NamesApart Prevails Tidy)

variable {env : Environment} {file : Variables} {given entries : List (Value × Value)}
  {name : String} {value : Value}

theorem field?_underFieldNames (known : name ∈ fieldNames) :
    Value.field? (underFieldNames given) name = given? given name := by
  suffices all : ∀ fields : List String, name ∈ fields →
      Value.field? (fields.filterMap fun field =>
        (given? given field).map fun value => (.text field, value)) name = given? given name from
    all fieldNames known
  intro fields listed
  induction fields with
  | nil => contradiction
  | cons field rest ih =>
      rw [List.filterMap_cons]
      by_cases here : field = name
      · subst here
        cases set : given? given field with
        | some value => exact Value.field?_cons_of_eq value _
        | none =>
            simp only [Option.map_none]
            rw [Value.field?_eq_none_iff]
            intro entry present same
            obtain ⟨other, _, kept⟩ := List.mem_filterMap.mp present
            obtain ⟨value, other_set, rfl⟩ := Option.map_eq_some_iff.mp kept
            rw [Value.text.inj same, set] at other_set
            contradiction
      · have later : name ∈ rest := (List.mem_cons.mp listed).resolve_left fun same =>
          here same.symm
        cases given? given field with
        | none => exact ih later
        | some value =>
            exact (Value.field?_cons_of_ne (fun same => here (Value.text.inj same)) value _).trans
              (ih later)

theorem distinctNames_underFieldNames (given : List (Value × Value)) :
    DistinctNames (underFieldNames given) := by
  suffices all : ∀ fields : List String, fields.Nodup →
      DistinctNames (fields.filterMap fun field =>
        (given? given field).map fun value => (.text field, value)) from all fieldNames (by decide)
  intro fields once
  induction fields with
  | nil => exact Value.distinctNames_nil
  | cons field rest ih =>
      obtain ⟨absent, rest_once⟩ := List.nodup_cons.mp once
      rw [List.filterMap_cons]
      cases given? given field with
      | none => exact ih rest_once
      | some value =>
          refine List.pairwise_cons.mpr ⟨?_, ih rest_once⟩
          intro entry present other named same
          obtain ⟨later, listed, kept⟩ := List.mem_filterMap.mp present
          obtain ⟨_, _, rfl⟩ := Option.map_eq_some_iff.mp kept
          exact absent (Value.text.inj named ▸ Value.text.inj same ▸ listed)

/-- What is given to a field prevails over the environment and the file of variables. -/
theorem prevails_of_mergedEntries (merged : mergedEntries env file given = .ok entries)
    (known : name ∈ fieldNames) (set : given? given name = some value)
    (apart : NamesApart value) :
    ∃ value', Value.field? entries name = some value' ∧ Prevails value value' := by
  unfold mergedEntries at merged
  obtain ⟨fromEnvironment, read, merged⟩ := bind_eq_ok_iff.mp merged
  obtain ⟨fromFile, _, merged⟩ := bind_eq_ok_iff.mp merged
  obtain rfl := Except.ok.inj merged
  have tidy : Tidy fromEnvironment := Variables.tidy_entries (mapError_eq_ok_iff.mp read)
  have given_distinct := distinctNames_underFieldNames given
  have first := Variables.field?_mergeEntries given_distinct fromEnvironment
    ((field?_underFieldNames known).trans set)
  have distinct : DistinctNames
      (Variables.mergeEntries fromEnvironment (underFieldNames given)) :=
    Variables.distinctNames_merge tidy.distinct given_distinct _
  have apart_first :
    NamesApart (Variables.overlay (Variables.depthOfEntries (underFieldNames given))
      (Value.field? fromEnvironment name) value) :=
    Variables.namesApart_overlay (fun _ found => tidy.namesApart found) apart _
  exact ⟨_, Variables.field?_mergeEntries distinct fromFile first,
    (Variables.prevails_overlay apart _ _).trans (Variables.prevails_overlay apart_first _ _)⟩

/-! ## The fields -/

/-- Settings each of whose fields is what some entries give. -/
structure Fields (env : Environment) (entries : List (Value × Value)) (settings : Settings) :
    Prop where
  root : field entries "root" (expandedPath env) (env.path (toString ({} : Settings).root)) =
    .valid settings.root
  classMap : field entries "class_map" (expandedPath env)
    (env.path (toString ({} : Settings).classMap)) = .valid settings.classMap
  manifest : field entries "manifest" (expandedPath env)
    (env.path (toString ({} : Settings).manifest)) = .valid settings.manifest
  scan : field entries "scan" (group Scan.ofEntries) {} = .valid settings.scan
  exclude : field entries "exclude" patterns [] = .valid settings.exclude
  excludeNamespaces : field entries "exclude_namespaces" texts [] =
    .valid settings.excludeNamespaces
  preload : field entries "preload" patterns [] = .valid settings.preload
  preloadNamespaces : field entries "preload_namespaces" texts [] =
    .valid settings.preloadNamespaces
  files : field entries "files" texts [] = .valid settings.files
  compile : field entries "compile" texts [] = .valid settings.compile
  loader : field entries "loader" (group Loader.ofEntries) {} = .valid settings.loader

theorem fields_of_ofEntries {settings : Settings}
    (accepted : ofEntries env entries = .valid settings) : Fields env entries settings := by
  simp only [ofEntries, Checked.seq_eq_valid_iff, Checked.map_eq_valid_iff] at accepted
  obtain ⟨_, ⟨_, ⟨_, ⟨_, ⟨_, ⟨_, ⟨_, ⟨_, ⟨_, ⟨_, ⟨_, root, rfl⟩, _, class_map, rfl⟩, _, manifest,
    rfl⟩, _, scan, rfl⟩, _, exclude, rfl⟩, _, exclude_namespaces, rfl⟩, _, preload, rfl⟩, _,
    preload_namespaces, rfl⟩, _, files, rfl⟩, _, compile, rfl⟩, _, loader, rfl⟩ := accepted
  exact ⟨root, class_map, manifest, scan, exclude, exclude_namespaces, preload, preload_namespaces,
    files, compile, loader⟩

/-- Settings come of entries in which what is given prevails. -/
theorem exists_fields_of_ofSources {settings : Settings}
    (made : ofSources env file given = .ok settings) :
    ∃ entries, mergedEntries env file given = .ok entries ∧ Fields env entries settings := by
  obtain ⟨entries, merged, made⟩ := bind_eq_ok_iff.mp made
  refine ⟨entries, merged, fields_of_ofEntries ?_⟩
  cases accepted : ofEntries env entries with
  | valid settings' =>
      rw [accepted] at made
      exact congrArg Checked.valid (Except.ok.inj made)
  | invalid faults =>
      rw [accepted] at made
      contradiction
  | aborted pattern rejection =>
      rw [accepted] at made
      contradiction

/-- A field that is set is what its check makes of the value. -/
theorem check_of_field {α : Type} {check : Value → Checked α} {usual a : α}
    (set : Value.field? entries name = some value)
    (accepted : field entries name check usual = .valid a) : check value = .valid a := by
  rw [field, set] at accepted
  exact Checked.within_eq_valid_iff.mp accepted

end Settings

end OpcachePreload
