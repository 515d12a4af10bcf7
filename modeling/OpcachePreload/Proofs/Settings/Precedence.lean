import OpcachePreload.Proofs.Settings.Sources

/-!
# What is given comes first

Where what is given to a field prevails, the field comes out the same, whatever other sources hold.
Only a path may still depend on the environment, since the home directory and variables in it are
replaced.
-/

namespace OpcachePreload

/-! ## Paths without variables -/

namespace Environment

variable {env env' : Environment} {text : String}

theorem expandHome_congr (same_home : env'.home? = env.home?) (text : List Char) :
    env'.expandHome text = env.expandHome text := by
  simp only [expandHome, same_home]

/-- A text in which there is nothing to replace but the home directory means the same path in every
environment with that home directory. -/
theorem path_congr (same_home : env'.home? = env.home?)
    (plain : '$' ∉ env.expandHome text.toList) : env'.path text = env.path text := by
  have plain' : '$' ∉ env'.expandHome text.toList := by
    rw [expandHome_congr same_home]
    exact plain
  rw [path, path, expandVariables_of_not_mem plain, expandVariables_of_not_mem plain',
    expandHome_congr same_home]

end Environment

namespace Settings

open Variables (Stands Prevails)

variable {env env' : Environment} {given entries entries' : List (Value × Value)} {name : String}
  {value merged : Value} {settings settings' : Settings}

/-! ## Checks -/

/-- A check that lets no mapping pass. -/
def RefusesMappings {α : Type} (check : Value → Checked α) : Prop :=
  ∀ entries a, check (.mapping entries) ≠ .valid a

theorem refusesMappings_text : RefusesMappings text := nofun

theorem refusesMappings_textOrNothing : RefusesMappings textOrNothing := nofun

theorem refusesMappings_texts : RefusesMappings texts := nofun

theorem refusesMappings_path : RefusesMappings path := nofun

theorem refusesMappings_expandedPath (env : Environment) : RefusesMappings (expandedPath env) :=
  nofun

theorem refusesMappings_truth : RefusesMappings truth := nofun

theorem refusesMappings_hostKind : RefusesMappings hostKind := nofun

theorem refusesMappings_patterns : RefusesMappings patterns := nofun

theorem Variables.Prevails.stands (prevails : Prevails value merged) : Stands value merged := by
  cases value with
  | mapping =>
      obtain ⟨entries, same, _⟩ := prevails
      exact ⟨entries, same⟩
  | _ => exact prevails

/-- What passes in place of a value is that value. -/
theorem RefusesMappings.check_eq {α : Type} {check : Value → Checked α} {a : α}
    (refuses : RefusesMappings check) (stands : Stands value merged)
    (accepted : check merged = .valid a) : check value = .valid a := by
  cases value with
  | mapping =>
      obtain ⟨entries, rfl⟩ := stands
      exact absurd accepted (refuses entries a)
  | _ =>
      obtain rfl := stands
      exact accepted

/-! ## Fields that are set -/

/-- What is given to a field prevails in some entries. -/
def Kept (given entries : List (Value × Value)) (name : String) : Prop :=
  ∀ value, given? given name = some value →
    ∃ value', Value.field? entries name = some value' ∧ Prevails value value'

theorem Kept.check_eq {α : Type} {check : Value → Checked α} {usual a : α}
    (kept : Kept given entries name) (refuses : RefusesMappings check)
    (set : given? given name = some value)
    (accepted : field entries name check usual = .valid a) : check value = .valid a := by
  obtain ⟨_, found, prevails⟩ := kept value set
  exact refuses.check_eq prevails.stands (check_of_field found accepted)

/-- A field that is given comes out the same wherever it prevails. -/
theorem Kept.unique {α : Type} {check : Value → Checked α} {usual a a' : α}
    (kept : Kept given entries name) (kept' : Kept given entries' name)
    (refuses : RefusesMappings check) (set : (given? given name).isSome = true)
    (accepted : field entries name check usual = .valid a)
    (accepted' : field entries' name check usual = .valid a') : a' = a := by
  obtain ⟨value, set⟩ := Option.isSome_iff_exists.mp set
  exact Checked.valid.inj ((kept'.check_eq refuses set accepted').symm.trans
    (kept.check_eq refuses set accepted))

/-- A field that is given inside another one. -/
def SetInside (given : List (Value × Value)) (group name : String) : Prop :=
  ∃ inner, given? given group = some (.mapping inner) ∧ (Value.field? inner name).isSome = true

section Inside

variable {α β : Type} {ofEntries : List (Value × Value) → Checked α} {part : α → β}
  {check : Value → Checked β} {usual a a' : α} {usual_part : β} {group_name : String}

theorem Kept.check_inside_eq {inner : List (Value × Value)} (kept : Kept given entries group_name)
    (refuses : RefusesMappings check)
    (parts : ∀ own a, ofEntries own = .valid a → field own name check usual_part = .valid (part a))
    (set : given? given group_name = some (.mapping inner))
    (set_inside : Value.field? inner name = some value)
    (accepted : field entries group_name (group ofEntries) usual = .valid a) :
    check value = .valid (part a) := by
  obtain ⟨_, found, own, rfl, inner_kept⟩ := kept _ set
  obtain ⟨_, found_inside, stands⟩ := inner_kept name value set_inside
  have own_accepted : ofEntries own = .valid a := check_of_field found accepted
  exact refuses.check_eq stands (check_of_field found_inside (parts own a own_accepted))

/-- A field that is given inside another one comes out the same wherever that one prevails. -/
theorem Kept.unique_inside (kept : Kept given entries group_name)
    (kept' : Kept given entries' group_name) (refuses : RefusesMappings check)
    (parts : ∀ own a, ofEntries own = .valid a → field own name check usual_part = .valid (part a))
    (set : SetInside given group_name name)
    (accepted : field entries group_name (group ofEntries) usual = .valid a)
    (accepted' : field entries' group_name (group ofEntries) usual = .valid a') :
    part a' = part a := by
  obtain ⟨inner, set, set_inside⟩ := set
  obtain ⟨value, set_inside⟩ := Option.isSome_iff_exists.mp set_inside
  exact Checked.valid.inj
    ((kept'.check_inside_eq refuses parts set set_inside accepted').symm.trans
      (kept.check_inside_eq refuses parts set set_inside accepted))

end Inside

/-- Scan settings each of whose fields is what some entries give. -/
structure Scan.Fields (own : List (Value × Value)) (scan : Scan) : Prop where
  types : field own "types" texts [] = .valid scan.types
  imports : field own "imports" texts [] = .valid scan.imports

theorem Scan.fields_of_ofEntries {own : List (Value × Value)} {scan : Scan}
    (accepted : Scan.ofEntries own = .valid scan) : Scan.Fields own scan := by
  simp only [Scan.ofEntries, Checked.seq_eq_valid_iff, Checked.map_eq_valid_iff] at accepted
  obtain ⟨_, ⟨_, ⟨_, types, rfl⟩, _, imports, rfl⟩, _, _, rfl⟩ := accepted
  exact ⟨types, imports⟩

/-- Loader settings each of whose fields is what some entries give. -/
structure Loader.Fields (own : List (Value × Value)) (loader : Loader) : Prop where
  runtime : field own "runtime" hostKind ({} : Loader).runtime = .valid loader.runtime
  phpBinary : field own "php_binary" text ({} : Loader).phpBinary = .valid loader.phpBinary
  interface : field own "sapi" textOrNothing ({} : Loader).interface = .valid loader.interface
  script : field own "script" path ({} : Loader).script = .valid loader.script
  includeOnly : field own "include_only" truth ({} : Loader).includeOnly = .valid loader.includeOnly
  checkEnvironment : field own "check_environment" truth ({} : Loader).checkEnvironment =
    .valid loader.checkEnvironment

theorem Loader.fields_of_ofEntries {own : List (Value × Value)} {loader : Loader}
    (accepted : Loader.ofEntries own = .valid loader) : Loader.Fields own loader := by
  simp only [Loader.ofEntries, Checked.seq_eq_valid_iff, Checked.map_eq_valid_iff] at accepted
  obtain ⟨_, ⟨_, ⟨_, ⟨_, ⟨_, ⟨_, ⟨_, runtime, rfl⟩, _, binary, rfl⟩, _, interface, rfl⟩, _, script,
    rfl⟩, _, include_only, rfl⟩, _, check_environment, rfl⟩, _, _, rfl⟩ := accepted
  exact ⟨runtime, binary, interface, script, include_only, check_environment⟩

/-- Settings that agree on every field that is given, the root left out; inside a field that holds
fields of its own, on those that are given there. -/
structure SameWhereSet (given : List (Value × Value)) (settings settings' : Settings) : Prop where
  classMap : (given? given "class_map").isSome → settings'.classMap = settings.classMap
  manifest : (given? given "manifest").isSome → settings'.manifest = settings.manifest
  types : SetInside given "scan" "types" → settings'.scan.types = settings.scan.types
  imports : SetInside given "scan" "imports" → settings'.scan.imports = settings.scan.imports
  exclude : (given? given "exclude").isSome → settings'.exclude = settings.exclude
  excludeNamespaces : (given? given "exclude_namespaces").isSome →
    settings'.excludeNamespaces = settings.excludeNamespaces
  preload : (given? given "preload").isSome → settings'.preload = settings.preload
  preloadNamespaces : (given? given "preload_namespaces").isSome →
    settings'.preloadNamespaces = settings.preloadNamespaces
  files : (given? given "files").isSome → settings'.files = settings.files
  compile : (given? given "compile").isSome → settings'.compile = settings.compile
  runtime : SetInside given "loader" "runtime" → settings'.loader.runtime = settings.loader.runtime
  phpBinary : SetInside given "loader" "php_binary" →
    settings'.loader.phpBinary = settings.loader.phpBinary
  interface : SetInside given "loader" "sapi" →
    settings'.loader.interface = settings.loader.interface
  script : SetInside given "loader" "script" → settings'.loader.script = settings.loader.script
  includeOnly : SetInside given "loader" "include_only" →
    settings'.loader.includeOnly = settings.loader.includeOnly
  checkEnvironment : SetInside given "loader" "check_environment" →
    settings'.loader.checkEnvironment = settings.loader.checkEnvironment

/-! ## Paths that are given -/

/-- A path that is given to a field has nothing to replace in it but the home directory. -/
def PlainAt (env : Environment) (given : List (Value × Value)) (name : String) : Prop :=
  ∀ value text, given? given name = some value → value.toText? = some text →
    '$' ∉ env.expandHome text.toList

theorem expandedPath_congr {a : Path} (same_home : env'.home? = env.home?)
    (plain : ∀ text, value.toText? = some text → '$' ∉ env.expandHome text.toList)
    (accepted : expandedPath env value = .valid a) : expandedPath env' value = .valid a := by
  have carried {written : String} (spelled : value.toText? = some written) :
      Checked.valid (env'.path written) = Checked.valid (env.path written) :=
    congrArg Checked.valid (Environment.path_congr same_home (plain written spelled))
  cases value with
  | text written => exact (carried rfl).trans accepted
  | codes codes => exact (carried rfl).trans accepted
  | _ => exact accepted

/-- A path that is given comes out the same in every environment with the same home directory. -/
theorem Kept.path_unique {usual usual' a a' : Path} (kept : Kept given entries name)
    (kept' : Kept given entries' name) (same_home : env'.home? = env.home?)
    (plain : PlainAt env given name) (set : (given? given name).isSome = true)
    (accepted : field entries name (expandedPath env) usual = .valid a)
    (accepted' : field entries' name (expandedPath env') usual' = .valid a') : a' = a := by
  obtain ⟨value, set⟩ := Option.isSome_iff_exists.mp set
  have checked := kept.check_eq (refusesMappings_expandedPath env) set accepted
  have checked' := kept'.check_eq (refusesMappings_expandedPath env') set accepted'
  have carried := expandedPath_congr same_home
    (fun text spelled => plain value text set spelled) checked
  exact Checked.valid.inj (checked'.symm.trans carried)

/-! ## Settings of all sources -/

/-- What is given comes out the same, whatever else the environment and the file of variables hold.
-/
theorem sameWhereSet_of_fields (kept : ∀ name ∈ fieldNames.erase "root", Kept given entries name)
    (kept' : ∀ name ∈ fieldNames.erase "root", Kept given entries' name)
    (fields : Fields env entries settings) (fields' : Fields env' entries' settings')
    (same_home : env'.home? = env.home?)
    (plain_map : PlainAt env given "class_map") (plain_manifest : PlainAt env given "manifest") :
    SameWhereSet given settings settings' := by
  have scan_kept := kept "scan" (by decide)
  have scan_kept' := kept' "scan" (by decide)
  have loader_kept := kept "loader" (by decide)
  have loader_kept' := kept' "loader" (by decide)
  refine {
    classMap := fun set =>
      (kept _ (by decide)).path_unique (kept' _ (by decide)) same_home plain_map set
      fields.classMap fields'.classMap
    manifest := fun set => (kept _ (by decide)).path_unique (kept' _ (by decide)) same_home
      plain_manifest set fields.manifest fields'.manifest
    types := fun set => scan_kept.unique_inside scan_kept' refusesMappings_texts
      (fun _ _ accepted => (Scan.fields_of_ofEntries accepted).types) set fields.scan fields'.scan
    imports := fun set => scan_kept.unique_inside scan_kept' refusesMappings_texts
      (fun _ _ accepted => (Scan.fields_of_ofEntries accepted).imports) set fields.scan fields'.scan
    exclude := fun set => (kept _ (by decide)).unique (kept' _ (by decide)) refusesMappings_patterns
      set fields.exclude fields'.exclude
    excludeNamespaces := fun set => (kept _ (by decide)).unique (kept' _ (by decide))
      refusesMappings_texts set fields.excludeNamespaces fields'.excludeNamespaces
    preload := fun set => (kept _ (by decide)).unique (kept' _ (by decide)) refusesMappings_patterns
      set fields.preload fields'.preload
    preloadNamespaces := fun set => (kept _ (by decide)).unique (kept' _ (by decide))
      refusesMappings_texts set fields.preloadNamespaces fields'.preloadNamespaces
    files := fun set => (kept _ (by decide)).unique (kept' _ (by decide)) refusesMappings_texts set
      fields.files fields'.files
    compile := fun set =>
      (kept _ (by decide)).unique (kept' _ (by decide)) refusesMappings_texts set
      fields.compile fields'.compile
    runtime := fun set => loader_kept.unique_inside loader_kept' refusesMappings_hostKind
      (fun _ _ accepted => (Loader.fields_of_ofEntries accepted).runtime) set fields.loader
      fields'.loader
    phpBinary := fun set => loader_kept.unique_inside loader_kept' refusesMappings_text
      (fun _ _ accepted => (Loader.fields_of_ofEntries accepted).phpBinary) set fields.loader
      fields'.loader
    interface := fun set => loader_kept.unique_inside loader_kept' refusesMappings_textOrNothing
      (fun _ _ accepted => (Loader.fields_of_ofEntries accepted).interface) set fields.loader
      fields'.loader
    script := fun set => loader_kept.unique_inside loader_kept' refusesMappings_path
      (fun _ _ accepted => (Loader.fields_of_ofEntries accepted).script) set fields.loader
      fields'.loader
    includeOnly := fun set => loader_kept.unique_inside loader_kept' refusesMappings_truth
      (fun _ _ accepted => (Loader.fields_of_ofEntries accepted).includeOnly) set fields.loader
      fields'.loader
    checkEnvironment := fun set => loader_kept.unique_inside loader_kept' refusesMappings_truth
      (fun _ _ accepted => (Loader.fields_of_ofEntries accepted).checkEnvironment) set fields.loader
      fields'.loader }

end Settings

end OpcachePreload
