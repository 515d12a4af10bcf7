import OpcachePreload.Value.Basic

/-!
# Fields of entries

What is under a name in entries after an assignment, and entries in which no name comes twice.
-/

namespace OpcachePreload

namespace Value

variable {entries : List (Value × Value)} {key value : Value} {name : String}

theorem sameKey_text_iff : sameKey key (text name) = true ↔ key = text name := by
  cases key <;> simp [sameKey, number?]

theorem sameKey_of_text_iff : sameKey (text name) key = true ↔ key = text name := by
  cases key with
  | text other => simpa [sameKey] using eq_comm
  | _ => simp [sameKey, number?]

theorem field?_cons_of_eq (value : Value) (rest : List (Value × Value)) :
    field? ((text name, value) :: rest) name = some value := by
  have same : sameKey (text name) (text name) = true := sameKey_text_iff.mpr rfl
  simp [field?, same]

theorem field?_cons_of_ne (differs : key ≠ text name) (value : Value)
    (rest : List (Value × Value)) : field? ((key, value) :: rest) name = field? rest name := by
  have other : ¬ sameKey key (text name) = true := fun same => differs (sameKey_text_iff.mp same)
  simp [field?, other]

theorem field?_eq_none_iff :
    field? entries name = none ↔ ∀ entry ∈ entries, entry.1 ≠ text name := by
  rw [field?, Option.map_eq_none_iff, List.find?_eq_none]
  exact forall₂_congr fun entry _ => not_congr sameKey_text_iff

theorem mem_of_field? (found : field? entries name = some value) :
    (text name, value) ∈ entries := by
  obtain ⟨⟨key, _⟩, listed, rfl⟩ := Option.map_eq_some_iff.mp found
  have same := List.find?_some listed
  obtain rfl : key = text name := sameKey_text_iff.mp same
  exact List.mem_of_find?_eq_some listed

theorem field?_assign_self (name : String) (value : Value) (entries : List (Value × Value)) :
    field? (assign (text name) value entries) name = some value := by
  induction entries with
  | nil => exact field?_cons_of_eq value []
  | cons entry rest ih =>
      unfold assign
      split
      · rename_i same
        rw [sameKey_text_iff.mp same, field?_cons_of_eq]
      · rename_i differs
        rw [field?_cons_of_ne fun same => differs (sameKey_text_iff.mpr same), ih]

theorem field?_assign_of_ne (differs : key ≠ text name) (value : Value)
    (entries : List (Value × Value)) :
    field? (assign key value entries) name = field? entries name := by
  induction entries with
  | nil => exact field?_cons_of_ne differs value []
  | cons entry rest ih =>
      obtain ⟨other, old⟩ := entry
      unfold assign
      by_cases here : other = text name
      · subst here
        have elsewhere : ¬ sameKey (text name) key = true := by
          rw [sameKey_of_text_iff]
          exact differs
        rw [if_neg elsewhere, field?_cons_of_eq, field?_cons_of_eq]
      · split
        · rw [field?_cons_of_ne here, field?_cons_of_ne here]
        · rw [field?_cons_of_ne here, field?_cons_of_ne here, ih]

/-! ## Distinct names -/

/-- No two entries have one name. -/
def DistinctNames (entries : List (Value × Value)) : Prop :=
  entries.Pairwise fun earlier later => ∀ name, earlier.1 = text name → later.1 ≠ text name

theorem distinctNames_nil : DistinctNames [] := List.Pairwise.nil

theorem DistinctNames.field?_eq_none {rest : List (Value × Value)}
    (distinct : DistinctNames ((text name, value) :: rest)) : field? rest name = none :=
  field?_eq_none_iff.mpr fun entry later => (List.pairwise_cons.mp distinct).1 entry later name rfl

theorem fst_mem_of_mem_assign {entry : Value × Value} (present : entry ∈ assign key value entries) :
    entry.1 = key ∨ ∃ old ∈ entries, old.1 = entry.1 := by
  induction entries with
  | nil => exact .inl (congrArg Prod.fst (List.mem_singleton.mp present))
  | cons first rest ih =>
      unfold assign at present
      split at present
      · rcases List.mem_cons.mp present with rfl | later
        · exact .inr ⟨first, List.mem_cons_self, rfl⟩
        · exact .inr ⟨entry, List.mem_cons_of_mem _ later, rfl⟩
      · rcases List.mem_cons.mp present with rfl | later
        · exact .inr ⟨entry, List.mem_cons_self, rfl⟩
        · rcases ih later with same | ⟨old, listed, same⟩
          · exact .inl same
          · exact .inr ⟨old, List.mem_cons_of_mem _ listed, same⟩

theorem snd_mem_of_mem_assign {entry : Value × Value} (present : entry ∈ assign key value entries) :
    entry.2 = value ∨ entry ∈ entries := by
  induction entries with
  | nil => exact .inl (congrArg Prod.snd (List.mem_singleton.mp present))
  | cons first rest ih =>
      unfold assign at present
      split at present
      · rcases List.mem_cons.mp present with rfl | later
        · exact .inl rfl
        · exact .inr (List.mem_cons_of_mem _ later)
      · rcases List.mem_cons.mp present with rfl | later
        · exact .inr List.mem_cons_self
        · exact (ih later).imp_right (List.mem_cons_of_mem _)

theorem DistinctNames.assign (distinct : DistinctNames entries) (key value : Value) :
    DistinctNames (Value.assign key value entries) := by
  induction entries with
  | nil => exact List.pairwise_singleton _ _
  | cons first rest ih =>
      obtain ⟨others, rest_distinct⟩ := List.pairwise_cons.mp distinct
      unfold Value.assign
      split
      · exact List.pairwise_cons.mpr ⟨others, rest_distinct⟩
      · rename_i differs
        refine List.pairwise_cons.mpr ⟨?_, ih rest_distinct⟩
        intro entry present name named
        rcases fst_mem_of_mem_assign present with same | ⟨old, listed, same⟩
        · rw [same]
          rintro rfl
          exact differs (sameKey_text_iff.mpr named)
        · rw [← same]
          exact others old listed name named

end Value

end OpcachePreload
