import OpcachePreload.OrderedMap
import OpcachePreload.OrderedSet

/-!
# What assigning in order leaves

After some assignments, the keys are listed in the order in which they were first assigned, and each
has the value that was assigned to it last.
-/

namespace OpcachePreload

theorem find?_assign {α β : Type} [DecidableEq α] (key other : α) (value : β)
    (entries : List (α × β)) :
    (assign key value entries).find? (·.1 = other) =
      if key = other then some (key, value) else entries.find? (·.1 = other) := by
  induction entries with
  | nil => by_cases same : key = other <;> simp [assign, same]
  | cons entry rest ih =>
      unfold assign
      split
      · rename_i reassigned
        by_cases same : key = other <;> simp [reassigned, same]
      · rename_i distinct
        by_cases here : entry.1 = other
        · have elsewhere : key ≠ other := fun same => distinct (here.trans same.symm)
          simp [here, elsewhere]
        · simpa [here] using ih

namespace OrderedMap

variable {α β : Type} [DecidableEq α]

/-- An entry that is listed is found under its key. -/
theorem get?_of_mem {m : OrderedMap α β} {entry : α × β} (listed : entry ∈ m.toList) :
    m.get? entry.1 = some entry.2 := by
  obtain ⟨before, after, split⟩ := List.append_of_mem listed
  have distinct := m.nodup
  rw [split, List.map_append, List.nodup_append] at distinct
  have others : ∀ other ∈ before, ¬decide (other.1 = entry.1) = true := fun other earlier same =>
    distinct.2.2 other.1 (List.mem_map_of_mem earlier) entry.1 List.mem_cons_self
      (of_decide_eq_true same)
  rw [get?, split, List.find?_append, List.find?_eq_none.mpr others]
  simp

theorem get?_insert (m : OrderedMap α β) (key other : α) (value : β) :
    (m.insert key value).get? other = if key = other then some value else m.get? other := by
  rw [get?, insert, find?_assign]
  split <;> rfl

theorem get?_foldl_insert (m : OrderedMap α β) (entries : List (α × β)) (key : α) :
    (entries.foldl (fun m entry => m.insert entry.1 entry.2) m).get? key =
      (((entries.reverse.find? (·.1 = key)).map Prod.snd).or (m.get? key)) := by
  induction entries generalizing m with
  | nil => rfl
  | cons entry rest ih =>
      rw [List.foldl_cons, ih, get?_insert, List.reverse_cons, List.find?_append]
      cases rest.reverse.find? (·.1 = key) with
      | some later => rfl
      | none => by_cases same : entry.1 = key <;> simp [same]

/-- A key has the value that was assigned to it last. -/
theorem get?_ofList (entries : List (α × β)) (key : α) :
    (ofList entries).get? key = (entries.reverse.find? (·.1 = key)).map Prod.snd := by
  rw [ofList, get?_foldl_insert]
  exact Option.or_none

/-- The keys of a map as a set. -/
def keySet (m : OrderedMap α β) : OrderedSet α := ⟨m.keys, m.nodup⟩

theorem keySet_insert (m : OrderedMap α β) (key : α) (value : β) :
    (m.insert key value).keySet = m.keySet.insert key := by
  apply OrderedSet.ext
  rw [OrderedSet.toList_insert]
  exact keys_insert m key value

theorem keySet_foldl_insert (m : OrderedMap α β) (entries : List (α × β)) :
    (entries.foldl (fun m entry => m.insert entry.1 entry.2) m).keySet =
      m.keySet.insertAll (entries.map Prod.fst) := by
  induction entries generalizing m with
  | nil => rfl
  | cons entry rest ih =>
      rw [List.foldl_cons, ih, keySet_insert, List.map_cons, OrderedSet.insertAll_cons]

/-- The keys are listed as they were first assigned. -/
theorem keys_ofList (entries : List (α × β)) :
    (ofList entries).keys = (entries.map Prod.fst).eraseDups := by
  have keys : (ofList entries).keySet = OrderedSet.ofList (entries.map Prod.fst) :=
    keySet_foldl_insert empty entries
  rw [← OrderedSet.toList_ofList, ← keys]
  rfl

/-- Only without assignments there are no entries. -/
theorem toList_ofList_eq_nil_iff (entries : List (α × β)) :
    (ofList entries).toList = [] ↔ entries = [] := by
  constructor
  · intro none_left
    cases entries with
    | nil => rfl
    | cons entry rest =>
        have keys := keys_ofList (entry :: rest)
        rw [OrderedMap.keys, none_left, List.map_cons, List.eraseDups_cons] at keys
        cases keys
  · rintro rfl
    rfl

end OrderedMap

end OpcachePreload
