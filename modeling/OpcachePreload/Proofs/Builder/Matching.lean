import OpcachePreload.Proofs.Builder.Offer

/-!
# The names that a pattern registers

The names of the class map that a pattern matches are offered like any others: the leading separator
is taken off first. Where none of them has one, exactly the matching names are registered that are
not held back. A name that has one is looked up without it, so it is not registered under itself.
-/

namespace OpcachePreload.Builder

open ClassName (separator stripSeparator)

variable {builder : Builder} {text : String} {pattern : Pattern} {name : String}
  {names : List String}

theorem stripSeparator_of_head?_ne (plain : name.toList.head? ≠ some separator) :
    stripSeparator name = name := by
  unfold stripSeparator
  split
  · rename_i c rest spelled
    rw [spelled] at plain
    exact if_neg fun same => plain (congrArg some same)
  · rfl

theorem accepts_eq_admits (builder : Builder) (name : String) :
    builder.accepts name = (builder.admits name && !builder.classes.contains name) := by
  rw [accepts, admits, Bool.and_assoc, Bool.and_comm]

/-- Offering names appends the first occurrences of those that are accepted. -/
theorem toList_classes_offerAll_eq (names : List String) :
    (builder.offerAll names).1.classes.toList =
      builder.classes.toList ++
        ((names.map stripSeparator).filter builder.accepts).eraseDups := by
  rw [classes_offerAll, OrderedSet.toList_insertAll, List.filter_filter]
  congr 2
  apply List.filter_congr
  intro name _
  rw [accepts_eq_admits, Bool.and_comm, OrderedSet.contains, decide_not]
  rfl

theorem offerAll_snd_eq (names : List String) :
    (builder.offerAll names).2 =
      ((names.map stripSeparator).filter builder.accepts).eraseDups.length := by
  rw [offerAll_snd, registeredSince, OrderedSet.size, toList_classes_offerAll_eq, OrderedSet.size,
    List.length_append]
  exact Nat.add_sub_cancel_left _ _

/-- A pattern that can be read is matched against the names of the class map, which are offered. -/
theorem offerMatching_of_ok (good : Pattern.compile text = .ok pattern) :
    builder.offerMatching text = .ok (builder.offerAll (builder.matching pattern)) := by
  rw [offerMatching, good]
  rfl

/-- Distinct names without leading separators are offered as they are. -/
theorem accepted_of_plain (distinct : names.Nodup)
    (plain : ∀ name ∈ names, name.toList.head? ≠ some separator) :
    ((names.map stripSeparator).filter builder.accepts).eraseDups =
      names.filter builder.accepts := by
  have same : names.map stripSeparator = names := by
    rw [List.map_congr_left fun name present => stripSeparator_of_head?_ne (plain name present)]
    exact List.map_id names
  rw [same, OrderedSet.eraseDups_of_nodup (distinct.filter _)]

/-- Offering what a pattern matches registers each matching name without its leading separator, if
it is known then, not held back and not registered yet, and answers how many names these are. Where
no matching name has a leading separator, what is registered afterwards is what was registered
before and the matching names that are not held back, the new ones in the order of the class map. -/
theorem classes_of_offerMatching (builder : Builder) (good : Pattern.compile text = .ok pattern) :
    ∃ next added, builder.offerMatching text = .ok (next, added.length) ∧
      next = { builder with classes := next.classes } ∧
      next.classes.toList = builder.classes.toList ++ added ∧
      added = (((builder.classMap.keys.filter pattern.occursIn).map stripSeparator).filter
        builder.accepts).eraseDups ∧
      ((∀ name ∈ builder.classMap.keys, pattern.occursIn name = true →
          name.toList.head? ≠ some separator) →
        added = (builder.classMap.keys.filter fun name =>
          pattern.occursIn name && !builder.excludes name && !builder.classes.contains name) ∧
        ∀ name, name ∈ next.classes.toList ↔
          name ∈ builder.classes.toList ∨
            name ∈ builder.classMap.keys ∧ pattern.occursIn name = true ∧
              builder.excludes name = false) := by
  have appended := builder.toList_classes_offerAll_eq (builder.matching pattern)
  refine ⟨(builder.offerAll (builder.matching pattern)).1, _, ?_, offerAll_frame _, appended, rfl,
    fun plain => ?_⟩
  case refine_1 =>
    rw [offerMatching_of_ok good, matching, ← offerAll_snd_eq]
  case refine_2 =>
    have matching_plain : ∀ name ∈ builder.matching pattern,
        name.toList.head? ≠ some separator := by
      intro name present
      obtain ⟨known, occurs⟩ := List.mem_filter.mp present
      exact plain name known occurs
    have added_eq : _ = (builder.matching pattern).filter builder.accepts :=
      accepted_of_plain (builder.classMap.nodup.filter _) matching_plain
    constructor
    · refine added_eq.trans ?_
      rw [matching, List.filter_filter]
      apply List.filter_congr
      intro name known
      have known : builder.classMap.contains name = true := decide_eq_true known
      rw [accepts, known, Bool.and_true, Bool.and_comm, Bool.and_assoc, Bool.and_comm (!_)]
    · intro name
      rw [appended, added_eq, List.mem_append, List.mem_filter, matching, List.mem_filter,
        accepts_iff]
      by_cases registered : name ∈ builder.classes.toList
      · simp [registered]
      · simp only [registered, false_or, not_false_eq_true, true_and]
        constructor
        · rintro ⟨⟨known, occurs⟩, free, _⟩
          exact ⟨known, occurs, free⟩
        · rintro ⟨known, occurs, free⟩
          exact ⟨⟨known, occurs⟩, free, known⟩

/-- Three of four names match, of which one is registered already and one is held back. -/
theorem classes_of_offerMatching_model :
    let classMap : ClassMap := .ofList [("App\\Model\\User", "/src/Model/User.php"),
      ("App\\Http", "/src/Http.php"), ("App\\Model\\Post", "/src/Model/Post.php"),
      ("Model", "/src/Model.php")]
    let builder : Builder :=
      { start classMap with
        excluded := .ofList [("Post", .literal "Post")]
        classes := .ofList ["App\\Model\\User"] }
    Pattern.compile "Model" = .ok (.literal "Model") ∧
      (∀ name ∈ builder.classMap.keys, (Pattern.literal "Model").occursIn name = true →
        name.toList.head? ≠ some separator) ∧
      ∃ next, builder.offerMatching "Model" = .ok (next, 1) ∧
        next.classes.toList = ["App\\Model\\User", "Model"] := by
  intro classMap builder
  have good : Pattern.compile "Model" = .ok (.literal "Model") := by cbv
  have plain : ∀ name ∈ builder.classMap.keys, (Pattern.literal "Model").occursIn name = true →
      name.toList.head? ≠ some separator := by decide
  obtain ⟨next, added, offered, _, listed, _, exactly⟩ := classes_of_offerMatching builder good
  obtain rfl : added = ["Model"] := (exactly plain).1.trans (by decide)
  exact ⟨good, plain, next, offered, listed⟩

/-- A name that the class map lists with a leading separator is looked up without it and not found.
So it is not registered, though the pattern matches it and nothing holds it back. -/
theorem not_registered_of_separator :
    let builder := start (.ofList [("\\A", "/a.php")])
    builder.offerMatching "A" = .ok (builder, 0) ∧
      (∃ pattern, Pattern.compile "A" = .ok pattern ∧ pattern.occursIn "\\A" = true) ∧
      "\\A" ∈ builder.classMap.keys ∧ builder.excludes "\\A" = false ∧
      "\\A" ∉ builder.classes.toList := by
  have compiled : Pattern.compile "A" = .ok (.one (.single 'A')) := by cbv
  refine ⟨?_, ⟨_, compiled, by decide⟩, by decide, by decide, by decide⟩
  rw [offerMatching_of_ok compiled]
  rfl

end OpcachePreload.Builder
