/-!
# Sets in order of insertion

A set whose elements are listed in the order in which they were first inserted. `toList` is the
view through which every operation is described: inserting appends what is new and changes nothing
otherwise.
-/

namespace OpcachePreload

/-- Distinct elements in the order of their first insertion. -/
structure OrderedSet (α : Type) where
  toList : List α
  nodup : toList.Nodup

namespace OrderedSet

variable {α : Type}

@[ext]
theorem ext {s t : OrderedSet α} (same : s.toList = t.toList) : s = t := by
  cases s
  cases t
  simp_all

/-- The set without elements. -/
def empty : OrderedSet α := ⟨[], List.nodup_nil⟩

instance : Inhabited (OrderedSet α) := ⟨empty⟩

instance : Membership α (OrderedSet α) := ⟨fun s a => a ∈ s.toList⟩

/-- How many elements there are. -/
def size (s : OrderedSet α) : Nat := s.toList.length

/-- How a diagnostic shows a set, given how it shows an element. -/
def shown (element : α → String) (s : OrderedSet α) : String :=
  "OrderedSet([" ++ String.intercalate ", " (s.toList.map element) ++ "])"

@[simp]
theorem mem_iff {s : OrderedSet α} {a : α} : a ∈ s ↔ a ∈ s.toList := Iff.rfl

@[simp]
theorem toList_empty : (empty : OrderedSet α).toList = [] := rfl

variable [DecidableEq α]

instance (a : α) (s : OrderedSet α) : Decidable (a ∈ s) :=
  inferInstanceAs (Decidable (a ∈ s.toList))

/-- Whether an element is present. -/
def contains (s : OrderedSet α) (a : α) : Bool := decide (a ∈ s)

/-- Append an element unless it is present already. -/
def insert (s : OrderedSet α) (a : α) : OrderedSet α :=
  if present : a ∈ s.toList then s
  else
    ⟨s.toList ++ [a], by
      refine List.nodup_append.mpr ⟨s.nodup, by simp, fun b mem c last same => present ?_⟩
      rw [← List.mem_singleton.mp last, ← same]
      exact mem⟩

/-- Insert elements one after the other. -/
def insertAll (s : OrderedSet α) (items : List α) : OrderedSet α :=
  items.foldl insert s

/-- The set of some elements, in the order of their first occurrence. -/
def ofList (items : List α) : OrderedSet α := empty.insertAll items

theorem toList_insert (s : OrderedSet α) (a : α) :
    (s.insert a).toList = if a ∈ s.toList then s.toList else s.toList ++ [a] := by
  unfold insert
  split <;> simp_all

theorem insert_of_mem {s : OrderedSet α} {a : α} (present : a ∈ s.toList) : s.insert a = s :=
  ext (by simp [toList_insert, present])

@[simp]
theorem insertAll_nil (s : OrderedSet α) : s.insertAll [] = s := rfl

@[simp]
theorem insertAll_cons (s : OrderedSet α) (a : α) (items : List α) :
    s.insertAll (a :: items) = (s.insert a).insertAll items := rfl

theorem insertAll_append (s : OrderedSet α) (first second : List α) :
    s.insertAll (first ++ second) = (s.insertAll first).insertAll second :=
  List.foldl_append

/-- Inserting elements appends the first occurrences of those that are new. -/
theorem toList_insertAll (s : OrderedSet α) (items : List α) :
    (s.insertAll items).toList =
      s.toList ++ (items.filter fun a => decide (a ∉ s.toList)).eraseDups := by
  induction items generalizing s with
  | nil => simp
  | cons a rest ih =>
      rw [insertAll_cons, ih, toList_insert]
      by_cases present : a ∈ s.toList
      · simp [present]
      · simp only [present, if_false, not_false_eq_true, decide_true, List.filter_cons_of_pos,
          List.eraseDups_cons, List.filter_filter, List.append_assoc, List.singleton_append]
        congr 3
        apply List.filter_congr
        intro b _
        by_cases same : b = a <;> simp [same, present]

theorem mem_insertAll_of_mem {s : OrderedSet α} {items : List α} {a : α} (present : a ∈ items) :
    a ∈ (s.insertAll items).toList := by
  rw [toList_insertAll, List.mem_append, List.mem_eraseDups]
  by_cases old : a ∈ s.toList
  · exact .inl old
  · exact .inr (List.mem_filter.mpr ⟨present, by simpa using old⟩)

/-- Inserting what is present already changes nothing. -/
theorem insertAll_of_subset {s : OrderedSet α} {items : List α}
    (present : ∀ a ∈ items, a ∈ s.toList) : s.insertAll items = s := by
  apply ext
  have none_new : (items.filter fun a => decide (a ∉ s.toList)) = [] := by
    simpa [List.filter_eq_nil_iff] using present
  rw [toList_insertAll, none_new, List.eraseDups_nil, List.append_nil]

theorem insertAll_insertAll (s : OrderedSet α) (items : List α) :
    (s.insertAll items).insertAll items = s.insertAll items :=
  insertAll_of_subset fun _ present => mem_insertAll_of_mem present

/-- The set of some elements lists their first occurrences. -/
theorem toList_ofList (items : List α) : (ofList items).toList = items.eraseDups := by
  rw [ofList, toList_insertAll, toList_empty, List.nil_append, List.filter_eq_self.mpr (by simp)]

/-! ## First occurrences -/

theorem eraseDups_of_nodup {items : List α} (distinct : items.Nodup) : items.eraseDups = items := by
  induction items with
  | nil => rfl
  | cons a rest ih =>
      rw [List.nodup_cons] at distinct
      have others : (rest.filter fun b => !b == a) = rest := by
        rw [List.filter_eq_self]
        intro b present
        have differs : b ≠ a := fun same => distinct.1 (same ▸ present)
        simpa using differs
      rw [List.eraseDups_cons, others, ih distinct.2]

theorem toList_insertAll_map {β : Type} [DecidableEq β] {f : α → β}
    (injective : ∀ a b, f a = f b → a = b) {s : OrderedSet α} {t : OrderedSet β}
    (same : t.toList = s.toList.map f) (items : List α) :
    (t.insertAll (items.map f)).toList = (s.insertAll items).toList.map f := by
  induction items generalizing s t with
  | nil => exact same
  | cons a rest ih =>
      apply ih
      have present_iff : f a ∈ s.toList.map f ↔ a ∈ s.toList := by
        rw [List.mem_map]
        constructor
        · rintro ⟨b, present, equal⟩
          exact injective b a equal ▸ present
        · exact fun present => ⟨a, present, rfl⟩
      rw [toList_insert, toList_insert, same, apply_ite (List.map f)]
      simp only [present_iff, List.map_append, List.map_cons, List.map_nil]

/-- The first occurrences of images are the images of the first occurrences. -/
theorem eraseDups_map {β : Type} [DecidableEq β] {f : α → β} (injective : ∀ a b, f a = f b → a = b)
    (items : List α) : (items.map f).eraseDups = items.eraseDups.map f := by
  rw [← toList_ofList, ← toList_ofList]
  exact toList_insertAll_map injective rfl items

theorem eraseDups_append_of_disjoint {first second : List α}
    (disjoint : ∀ a ∈ second, a ∉ first) :
    (first ++ second).eraseDups = first.eraseDups ++ second.eraseDups := by
  have others : second.removeAll first = second := by
    apply List.filter_eq_self.mpr
    intro a present
    simpa using disjoint a present
  rw [List.eraseDups_append, others]

end OrderedSet

end OpcachePreload
