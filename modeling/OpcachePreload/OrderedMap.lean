/-!
# Maps in order of insertion

A finite map whose keys are listed in the order in which they were first assigned. Assigning a key
anew keeps its place and replaces its value.
-/

namespace OpcachePreload

/-- The entries of `entries` after assigning `value` to `key`. -/
def assign {α β : Type} [DecidableEq α] (key : α) (value : β) : List (α × β) → List (α × β)
  | [] => [(key, value)]
  | entry :: rest =>
    if entry.1 = key then (key, value) :: rest else entry :: assign key value rest

theorem map_fst_assign {α β : Type} [DecidableEq α] (key : α) (value : β)
    (entries : List (α × β)) :
    (assign key value entries).map Prod.fst =
      if key ∈ entries.map Prod.fst then entries.map Prod.fst
      else entries.map Prod.fst ++ [key] := by
  induction entries with
  | nil => simp [assign]
  | cons entry rest ih =>
      unfold assign
      by_cases same : entry.1 = key
      · simp [same]
      · simp only [if_neg same, List.map_cons, ih, List.mem_cons, Ne.symm same, false_or]
        split <;> simp

theorem assign_of_not_mem {α β : Type} [DecidableEq α] {key : α} (value : β)
    {entries : List (α × β)} (absent : key ∉ entries.map Prod.fst) :
    assign key value entries = entries ++ [(key, value)] := by
  induction entries with
  | nil => rfl
  | cons entry rest ih =>
      simp only [List.map_cons, List.mem_cons, not_or] at absent
      rw [assign, if_neg (Ne.symm absent.1), ih absent.2]
      rfl

/-- Entries with distinct keys in the order of their first assignment. -/
structure OrderedMap (α β : Type) where
  toList : List (α × β)
  nodup : (toList.map Prod.fst).Nodup

namespace OrderedMap

variable {α β : Type}

@[ext]
theorem ext {m n : OrderedMap α β} (same : m.toList = n.toList) : m = n := by
  cases m
  cases n
  simp_all

/-- The map without entries. -/
def empty : OrderedMap α β := ⟨[], by simp⟩

instance : Inhabited (OrderedMap α β) := ⟨empty⟩

/-- The keys in order. -/
def keys (m : OrderedMap α β) : List α := m.toList.map Prod.fst

/-- How many entries there are. -/
def size (m : OrderedMap α β) : Nat := m.toList.length

@[simp]
theorem keys_empty : (empty : OrderedMap α β).keys = [] := rfl

variable [DecidableEq α]

/-- The value of a key. -/
def get? (m : OrderedMap α β) (key : α) : Option β :=
  (m.toList.find? (·.1 = key)).map Prod.snd

/-- Whether a key has a value. -/
def contains (m : OrderedMap α β) (key : α) : Bool := decide (key ∈ m.keys)

/-- Assign a value to a key. -/
def insert (m : OrderedMap α β) (key : α) (value : β) : OrderedMap α β where
  toList := assign key value m.toList
  nodup := by
    rw [map_fst_assign]
    split
    · exact m.nodup
    · rename_i absent
      refine List.nodup_append.mpr ⟨m.nodup, by simp, fun k mem l last same => absent ?_⟩
      rw [← List.mem_singleton.mp last, ← same]
      exact mem

/-- Take a key and its value away. -/
def erase (m : OrderedMap α β) (key : α) : OrderedMap α β where
  toList := m.toList.filter (·.1 ≠ key)
  nodup := m.nodup.sublist (List.filter_sublist.map Prod.fst)

/-- The map that results from assigning the entries in order. -/
def ofList (entries : List (α × β)) : OrderedMap α β :=
  entries.foldl (fun m entry => m.insert entry.1 entry.2) empty

theorem keys_insert (m : OrderedMap α β) (key : α) (value : β) :
    (m.insert key value).keys = if key ∈ m.keys then m.keys else m.keys ++ [key] :=
  map_fst_assign key value m.toList

theorem mem_keys_insert {m : OrderedMap α β} {key other : α} {value : β} :
    other ∈ (m.insert key value).keys ↔ other ∈ m.keys ∨ other = key := by
  rw [keys_insert]
  split
  · rename_i present
    refine ⟨.inl, fun known => known.elim id fun same => same ▸ present⟩
  · simp

/-- A new key is listed last. -/
theorem toList_insert_of_not_mem {m : OrderedMap α β} {key : α} (value : β)
    (absent : key ∉ m.keys) : (m.insert key value).toList = m.toList ++ [(key, value)] :=
  assign_of_not_mem value absent

/-- A new key that is taken away again leaves nothing behind. -/
theorem erase_insert_of_not_mem {m : OrderedMap α β} {key : α} (value : β)
    (absent : key ∉ m.keys) : (m.insert key value).erase key = m := by
  apply ext
  have others : m.toList.filter (·.1 ≠ key) = m.toList := by
    apply List.filter_eq_self.mpr
    intro entry present
    have differs : entry.1 ≠ key := fun same => absent (same ▸ List.mem_map_of_mem present)
    simpa using differs
  change (m.insert key value).toList.filter (·.1 ≠ key) = m.toList
  rw [toList_insert_of_not_mem value absent, List.filter_append, others]
  simp

/-- A key has a value exactly when it is listed. -/
theorem get?_isSome_iff {m : OrderedMap α β} {key : α} :
    (m.get? key).isSome = true ↔ key ∈ m.keys := by
  simp [get?, keys, List.find?_isSome]

end OrderedMap

end OpcachePreload
