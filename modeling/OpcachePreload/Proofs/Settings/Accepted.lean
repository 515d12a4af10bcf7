import OpcachePreload.Proofs.Path.Text
import OpcachePreload.Settings.Check

/-!
# Settings that were accepted

Both of two checks come out well exactly if each of them does. So in settings that were accepted the
patterns are patterns, and the root is a path as one is read.
-/

namespace OpcachePreload.Settings

/-! ## Checks -/

namespace Checked

variable {α β : Type}

theorem map_eq_valid_iff {f : α → β} {checked : Checked α} {b : β} :
    f <$> checked = .valid b ↔ ∃ a, checked = .valid a ∧ f a = b := by
  change Checked.map f checked = .valid b ↔ _
  cases checked <;> simp [Checked.map]

theorem seq_eq_valid_iff {change : Checked (α → β)} {checked : Checked α} {b : β} :
    change <*> checked = .valid b ↔
      ∃ f, change = .valid f ∧ ∃ a, checked = .valid a ∧ f a = b := by
  change Checked.both change checked = .valid b ↔ _
  cases change <;> cases checked <;> simp [Checked.both]

theorem within_eq_valid_iff {step : String} {checked : Checked α} {a : α} :
    checked.within step = .valid a ↔ checked = .valid a := by
  cases checked <;> simp [Checked.within]

end Checked

/-- A field holds what it is when it is not given, or something that its check lets pass. -/
theorem field_eq_valid {α : Type} {entries : List (Value × Value)} {name : String}
    {check : Value → Checked α} {usual a : α}
    (accepted : field entries name check usual = .valid a) :
    a = usual ∨ ∃ value, check value = .valid a := by
  unfold field at accepted
  split at accepted
  · exact .inl (Checked.valid.inj accepted).symm
  · exact .inr ⟨_, Checked.within_eq_valid_iff.mp accepted⟩

/-! ## Patterns -/

theorem firstRejected_eq_none_iff {list : List String} :
    firstRejected list = none ↔
      ∀ pattern ∈ list, ∃ compiled, Pattern.compile pattern = .ok compiled := by
  induction list with
  | nil => simp [firstRejected]
  | cons pattern rest ih =>
      unfold firstRejected
      cases compiles : Pattern.compile pattern with
      | ok compiled => simp [ih, compiles]
      | error rejection => simp [compiles]

/-- A list of patterns that passes holds nothing but patterns. -/
theorem compiles_of_patterns {value : Value} {list : List String}
    (accepted : patterns value = .valid list) :
    ∀ pattern ∈ list, ∃ compiled, Pattern.compile pattern = .ok compiled := by
  unfold patterns at accepted
  split at accepted
  · rename_i found _
    split at accepted
    · rename_i passed
      obtain rfl := Checked.valid.inj accepted
      exact firstRejected_eq_none_iff.mp passed
    · contradiction
    · contradiction
  · rename_i never
    exact absurd accepted (never list)

/-! ## Paths -/

theorem proper_of_path {value : Value} {place : Path} (accepted : path value = .valid place) :
    place.Proper := by
  unfold path at accepted
  split at accepted
  · obtain rfl := Checked.valid.inj accepted
    exact Path.proper_ofString _
  · obtain rfl := Checked.valid.inj accepted
    exact Path.proper_ofString _
  · contradiction

theorem proper_of_expandedPath {env : Environment} {value : Value} {place : Path}
    (accepted : expandedPath env value = .valid place) : place.Proper := by
  unfold expandedPath at accepted
  split at accepted
  · obtain rfl := Checked.valid.inj accepted
    exact Path.proper_ofString _
  · obtain rfl := Checked.valid.inj accepted
    exact Path.proper_ofString _
  · exact proper_of_path accepted

/-! ## Settings -/

variable {env : Environment} {entries : List (Value × Value)} {settings : Settings}

/-- The patterns and the root of settings that were accepted. -/
structure WellFormed (settings : Settings) : Prop where
  exclude_compiles : ∀ pattern ∈ settings.exclude, ∃ compiled,
    Pattern.compile pattern = .ok compiled
  preload_compiles : ∀ pattern ∈ settings.preload, ∃ compiled,
    Pattern.compile pattern = .ok compiled
  root_proper : settings.root.Proper

theorem wellFormed_of_ofEntries (accepted : ofEntries env entries = .valid settings) :
    settings.WellFormed := by
  simp only [ofEntries, Checked.seq_eq_valid_iff, Checked.map_eq_valid_iff] at accepted
  -- The fields in their order; of these the root and the two lists of patterns are looked at.
  obtain ⟨_, ⟨_, ⟨_, ⟨_, ⟨_, ⟨_, ⟨_, ⟨_, ⟨_, ⟨_, ⟨root, root_accepted, rfl⟩, _, _, rfl⟩, _, _,
    rfl⟩, _, _, rfl⟩, exclude, exclude_accepted, rfl⟩, _, _, rfl⟩, preload, preload_accepted,
    rfl⟩, _, _, rfl⟩, _, _, rfl⟩, _, _, rfl⟩, _, _, rfl⟩ := accepted
  constructor
  · rcases field_eq_valid exclude_accepted with usual | ⟨value, accepted⟩
    · rw [usual]
      simp
    · exact compiles_of_patterns accepted
  · rcases field_eq_valid preload_accepted with usual | ⟨value, accepted⟩
    · rw [usual]
      simp
    · exact compiles_of_patterns accepted
  · rcases field_eq_valid root_accepted with usual | ⟨value, accepted⟩
    · rw [usual]
      exact Path.proper_ofString _
    · exact proper_of_expandedPath accepted

end OpcachePreload.Settings
