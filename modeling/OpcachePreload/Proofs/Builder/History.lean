import OpcachePreload.Proofs.Builder.Offer

/-!
# The classes that a history registers

Operations may be done to a builder in any order, some of them may fail, and the sources may change
between them. What matters of all this is a history of events: a pattern was excluded, or a name was
offered. A class is registered exactly if the history offers it at a time when no pattern excluded
before occurs in it, and the classes stand in the order of the first such offers.
-/

namespace OpcachePreload.Builder

/-! ## Histories -/

/-- An operation, and the sources as they are when it is done. -/
structure Turn where
  read : SourceReader
  operation : Operation

/-- The builder after some turns. One whose operation fails is followed by the next one all the
same. -/
def after (builder : Builder) (turns : List Turn) : Builder :=
  turns.foldl (fun builder turn => (builder.perform turn.read turn.operation).1) builder

/-- What matters of a turn. -/
inductive Event where
  | excluded (pattern : String)
  | offered (name : String)
  deriving DecidableEq, Repr

/-- The events of a turn, in order. -/
def Turn.events (classMap : ClassMap) (turn : Turn) : List Event :=
  match turn.operation with
  | .exclude pattern => [.excluded pattern]
  | operation => (operation.offers classMap turn.read).map .offered

theorem Turn.events_of_ne_exclude {classMap : ClassMap} {read : SourceReader}
    {operation : Operation} (plain : ∀ pattern, operation ≠ .exclude pattern) :
    Turn.events classMap ⟨read, operation⟩ = (operation.offers classMap read).map .offered := by
  cases operation with
  | exclude pattern => exact absurd rfl (plain pattern)
  | _ => rfl

/-- The events of some turns, in order. -/
def history (classMap : ClassMap) (turns : List Turn) : List Event :=
  turns.flatMap (Turn.events classMap)

/-- Whether the event at a position offers a class that the class map knows and that none of the
patterns excluded before occurs in. -/
def Admitted (classMap : ClassMap) (events : List Event) (position : Nat) (name : String) :
    Prop :=
  ∃ offer, events[position]? = some (.offered offer) ∧
    ClassName.stripSeparator offer = name ∧ name ∈ classMap.keys ∧
    ∀ pattern, .excluded pattern ∈ events.take position → occurs pattern name = false

theorem Admitted.lt_length {classMap : ClassMap} {events : List Event} {position : Nat}
    {name : String} (admitted : Admitted classMap events position name) :
    position < events.length := by
  obtain ⟨offer, here, _⟩ := admitted
  exact (List.getElem?_eq_some_iff.mp here).1

/-- An event that is added at the end has no say in what was admitted before it. -/
theorem admitted_append_iff {classMap : ClassMap} {events : List Event} {event : Event}
    {position : Nat} {name : String} :
    Admitted classMap (events ++ [event]) position name ↔
      Admitted classMap events position name ∨
        position = events.length ∧ ∃ offer, event = .offered offer ∧
          ClassName.stripSeparator offer = name ∧ name ∈ classMap.keys ∧
          ∀ pattern, .excluded pattern ∈ events → occurs pattern name = false := by
  unfold Admitted
  rcases Nat.lt_trichotomy position events.length with earlier | rfl | later
  · rw [List.getElem?_append_left earlier, List.take_append_of_le_length (Nat.le_of_lt earlier)]
    simp [Nat.ne_of_lt earlier]
  · simp
  · rw [List.getElem?_eq_none (by simp; omega), List.getElem?_eq_none (by omega)]
    simp [Nat.ne_of_gt later]

/-! ## The invariant -/

/-- A builder that has come about by some events: its exclusions are the patterns that were
excluded, its classes are those that were admitted, and they stand in the order in which they were
admitted first. -/
structure Follows (builder : Builder) (classMap : ClassMap) (events : List Event) : Prop where
  classMap_eq : builder.classMap = classMap
  mem_excluded_iff : ∀ pattern compiled, (pattern, compiled) ∈ builder.excluded.toList ↔
    .excluded pattern ∈ events ∧ Pattern.compile pattern = .ok compiled
  mem_classes_iff : ∀ name, name ∈ builder.classes.toList ↔
    ∃ position, Admitted classMap events position name
  ordered : builder.classes.toList.Pairwise fun first second =>
    ∃ position, Admitted classMap events position first ∧
      ∀ later, Admitted classMap events later second → position < later

variable {builder : Builder} {classMap : ClassMap} {events : List Event}

theorem follows_start (classMap : ClassMap) : (start classMap).Follows classMap [] where
  classMap_eq := rfl
  mem_excluded_iff := by simp [start, OrderedMap.empty]
  mem_classes_iff := by simp [start, Admitted]
  ordered := by simp [start]

namespace Follows

theorem excludes_eq_true_iff (follows : builder.Follows classMap events) (name : String) :
    builder.excludes name = true ↔
      ∃ pattern, .excluded pattern ∈ events ∧ occurs pattern name = true := by
  simp only [excludes, List.any_eq_true, Prod.exists, follows.mem_excluded_iff, occurs_eq_true_iff]
  constructor
  · rintro ⟨pattern, compiled, ⟨member, compiles⟩, occurs⟩
    exact ⟨pattern, member, compiled, compiles, occurs⟩
  · rintro ⟨pattern, member, compiled, compiles, occurs⟩
    exact ⟨pattern, compiled, ⟨member, compiles⟩, occurs⟩

/-- An exclusion leaves what was admitted before it alone, so only what is held back changes. -/
theorem excluded_of_mem_iff (follows : builder.Follows classMap events) {pattern : String}
    {exclusions : OrderedMap String Pattern}
    (mem_iff : ∀ other compiled, (other, compiled) ∈ exclusions.toList ↔
      .excluded other ∈ events ++ [.excluded pattern] ∧ Pattern.compile other = .ok compiled) :
    Follows { builder with excluded := exclusions } classMap (events ++ [.excluded pattern]) := by
  have admitted_iff (position : Nat) (name : String) :
      Admitted classMap (events ++ [.excluded pattern]) position name ↔
        Admitted classMap events position name := by
    simp [admitted_append_iff]
  constructor
  · exact follows.classMap_eq
  · exact mem_iff
  · simpa only [admitted_iff] using follows.mem_classes_iff
  · simpa only [admitted_iff] using follows.ordered

/-- Excluding what is excluded already, or what is no pattern, holds back nothing more. -/
theorem mem_excluded_iff_of_useless (follows : builder.Follows classMap events) {pattern : String}
    (useless : pattern ∈ builder.excluded.keys ∨
      ∃ rejection, Pattern.compile pattern = .error rejection)
    (other : String) (compiled : Pattern) :
    (other, compiled) ∈ builder.excluded.toList ↔
      .excluded other ∈ events ++ [.excluded pattern] ∧ Pattern.compile other = .ok compiled := by
  rw [follows.mem_excluded_iff, List.mem_append, List.mem_singleton, Event.excluded.injEq]
  constructor
  · rintro ⟨earlier, compiles⟩
    exact ⟨.inl earlier, compiles⟩
  · rintro ⟨earlier | rfl, compiles⟩
    · exact ⟨earlier, compiles⟩
    · rcases useless with present | ⟨rejection, fails⟩
      · obtain ⟨⟨_, first⟩, member, rfl⟩ := List.mem_map.mp present
        exact ⟨((follows.mem_excluded_iff _ _).mp member).1, compiles⟩
      · rw [compiles] at fails
        contradiction

/-- Excluding a new pattern holds back what it occurs in. -/
theorem mem_excluded_insert_iff (follows : builder.Follows classMap events) {pattern : String}
    {added : Pattern} (compiles : Pattern.compile pattern = .ok added)
    (absent : pattern ∉ builder.excluded.keys) (other : String) (compiled : Pattern) :
    (other, compiled) ∈ (builder.excluded.insert pattern added).toList ↔
      .excluded other ∈ events ++ [.excluded pattern] ∧ Pattern.compile other = .ok compiled := by
  rw [OrderedMap.toList_insert_of_not_mem added absent, List.mem_append, follows.mem_excluded_iff,
    List.mem_singleton, Prod.mk.injEq, List.mem_append, List.mem_singleton, Event.excluded.injEq]
  constructor
  · rintro (⟨earlier, other_compiles⟩ | ⟨rfl, rfl⟩)
    · exact ⟨.inl earlier, other_compiles⟩
    · exact ⟨.inr rfl, compiles⟩
  · rintro ⟨earlier | rfl, other_compiles⟩
    · exact .inl ⟨earlier, other_compiles⟩
    · rw [compiles] at other_compiles
      exact .inr ⟨rfl, (Except.ok.inj other_compiles).symm⟩

/-- Excluding a pattern, whether it is one or not. -/
theorem excluded (follows : builder.Follows classMap events) (read : SourceReader)
    (pattern : String) :
    (builder.perform read (.exclude pattern)).1.Follows classMap
      (events ++ [.excluded pattern]) := by
  rcases exclude_cases builder read pattern with
    ⟨same, useless⟩ | ⟨added, compiles, absent, grown⟩
  · rw [same]
    exact follows.excluded_of_mem_iff (follows.mem_excluded_iff_of_useless useless)
  · rw [grown]
    exact follows.excluded_of_mem_iff (follows.mem_excluded_insert_iff compiles absent)

/-- The builder admits what the class map knows and no pattern excluded so far occurs in. -/
theorem admits_iff (follows : builder.Follows classMap events) {name : String} :
    builder.admits name = true ↔ name ∈ classMap.keys ∧
      ∀ pattern, .excluded pattern ∈ events → occurs pattern name = false := by
  rw [Builder.admits_iff, follows.classMap_eq, ← Bool.not_eq_true, follows.excludes_eq_true_iff,
    and_comm]
  simp

/-- An offer adds to what was admitted a name that the builder admits. -/
theorem admitted_offered_iff (follows : builder.Follows classMap events) {offer : String}
    {position : Nat} {name : String} :
    Admitted classMap (events ++ [.offered offer]) position name ↔
      Admitted classMap events position name ∨ position = events.length ∧
        ClassName.stripSeparator offer = name ∧ builder.admits name = true := by
  rw [admitted_append_iff, follows.admits_iff]
  constructor
  · rintro (before | ⟨here, _, same, rfl, known, free⟩)
    · exact .inl before
    · cases same
      exact .inr ⟨here, rfl, known, free⟩
  · rintro (before | ⟨here, rfl, known, free⟩)
    · exact .inl before
    · exact .inr ⟨here, offer, rfl, rfl, known, free⟩

/-- What was admitted before an offer stays ahead of whatever the offer admits. -/
theorem ordered_offered (follows : builder.Follows classMap events) (offer : String) :
    builder.classes.toList.Pairwise fun first second =>
      ∃ position, Admitted classMap (events ++ [.offered offer]) position first ∧
        ∀ later, Admitted classMap (events ++ [.offered offer]) later second →
          position < later := by
  apply follows.ordered.imp
  rintro first second ⟨position, admitted, ahead⟩
  have still : Admitted classMap (events ++ [.offered offer]) position first :=
    follows.admitted_offered_iff.mpr (.inl admitted)
  have still_ahead (later : Nat)
      (again : Admitted classMap (events ++ [.offered offer]) later second) : position < later := by
    rcases follows.admitted_offered_iff.mp again with before | ⟨rfl, _⟩
    · exact ahead later before
    · exact admitted.lt_length
  exact ⟨position, still, still_ahead⟩

/-- An offer that is accepted lists a name that was not listed before. -/
theorem offered_of_accepts (follows : builder.Follows classMap events) {offer : String}
    (accepted : builder.accepts (ClassName.stripSeparator offer) = true) :
    (builder.offer offer).1.Follows classMap (events ++ [.offered offer]) := by
  obtain ⟨absent, admits⟩ := accepts_iff.mp accepted
  have listed : (builder.classes.insert (ClassName.stripSeparator offer)).toList =
      builder.classes.toList ++ [ClassName.stripSeparator offer] := by
    rw [OrderedSet.toList_insert, if_neg absent]
  rw [offer_of_accepts accepted]
  constructor
  · exact follows.classMap_eq
  · intro pattern compiled
    rw [follows.mem_excluded_iff]
    simp
  · intro name
    rw [listed, List.mem_append, List.mem_singleton, follows.mem_classes_iff]
    constructor
    · rintro (⟨position, before⟩ | rfl)
      · exact ⟨position, follows.admitted_offered_iff.mpr (.inl before)⟩
      · have now := follows.admitted_offered_iff.mpr
          (.inr ⟨rfl, rfl, Builder.admits_iff.mpr admits⟩)
        exact ⟨events.length, now⟩
    · rintro ⟨position, admitted⟩
      rcases follows.admitted_offered_iff.mp admitted with before | ⟨_, rfl, _⟩
      · exact .inl ⟨position, before⟩
      · exact .inr rfl
  · rw [listed]
    apply List.pairwise_append.mpr
    constructor
    · exact follows.ordered_offered offer
    constructor
    · exact List.pairwise_singleton _ _
    · intro first member second last
      obtain rfl := List.mem_singleton.mp last
      obtain ⟨position, first_admitted⟩ := (follows.mem_classes_iff first).mp member
      have ahead (later : Nat) (again : Admitted classMap (events ++ [.offered offer]) later
          (ClassName.stripSeparator offer)) : position < later := by
        rcases follows.admitted_offered_iff.mp again with before | ⟨rfl, _⟩
        · exact absurd ((follows.mem_classes_iff _).mpr ⟨later, before⟩) absent
        · exact first_admitted.lt_length
      exact ⟨position, follows.admitted_offered_iff.mpr (.inl first_admitted), ahead⟩

/-- An offer that is refused admits nothing that is not listed already. -/
theorem offered_of_not_accepts (follows : builder.Follows classMap events) {offer : String}
    (refused : ¬builder.accepts (ClassName.stripSeparator offer) = true) :
    (builder.offer offer).1.Follows classMap (events ++ [.offered offer]) := by
  rw [offer_of_not_accepts refused]
  constructor
  · exact follows.classMap_eq
  · intro pattern compiled
    rw [follows.mem_excluded_iff]
    simp
  · intro name
    constructor
    · intro present
      obtain ⟨position, before⟩ := (follows.mem_classes_iff name).mp present
      exact ⟨position, follows.admitted_offered_iff.mpr (.inl before)⟩
    · rintro ⟨position, admitted⟩
      rcases follows.admitted_offered_iff.mp admitted with before | ⟨_, rfl, admits⟩
      · exact (follows.mem_classes_iff name).mpr ⟨position, before⟩
      · apply Decidable.byContradiction
        intro absent
        exact refused (accepts_iff.mpr ⟨absent, Builder.admits_iff.mp admits⟩)
  · exact follows.ordered_offered offer

/-- Offering a name. -/
theorem offered (follows : builder.Follows classMap events) (offer : String) :
    (builder.offer offer).1.Follows classMap (events ++ [.offered offer]) := by
  by_cases accepted : builder.accepts (ClassName.stripSeparator offer) = true
  · exact follows.offered_of_accepts accepted
  · exact follows.offered_of_not_accepts accepted

/-- Offering names one after the other. -/
theorem offeredAll (follows : builder.Follows classMap events) (names : List String) :
    (builder.offerAll names).1.Follows classMap (events ++ names.map .offered) := by
  induction names generalizing builder events with
  | nil => simpa using follows
  | cons name rest ih => simpa using ih (follows.offered name)

theorem performed (follows : builder.Follows classMap events) (turn : Turn) :
    (builder.perform turn.read turn.operation).1.Follows classMap
      (events ++ turn.events classMap) := by
  obtain ⟨read, operation⟩ := turn
  rcases perform_cases builder read operation with ⟨pattern, rfl⟩ | ⟨plain, performed⟩
  · exact follows.excluded read pattern
  · rw [performed, Turn.events_of_ne_exclude plain, follows.classMap_eq]
    have offered := follows.offeredAll (operation.offers classMap read)
    rw [offerAll_fst] at offered
    exact ⟨offered.classMap_eq, offered.mem_excluded_iff, offered.mem_classes_iff, offered.ordered⟩

/-- The invariant holds after any turns. -/
theorem after (follows : builder.Follows classMap events) (turns : List Turn) :
    (builder.after turns).Follows classMap (events ++ history classMap turns) := by
  induction turns generalizing builder events with
  | nil => simpa [history, Builder.after] using follows
  | cons turn rest ih =>
      have rest_follows := ih (follows.performed turn)
      rw [List.append_assoc] at rest_follows
      exact rest_follows

end Follows

/-! ## Classes -/

/-- Turns only append to the classes. -/
theorem classes_isPrefix_after (builder : Builder) (turns : List Turn) :
    builder.classes.toList <+: (builder.after turns).classes.toList := by
  induction turns generalizing builder with
  | nil => exact List.prefix_refl _
  | cons turn rest ih =>
      exact (builder.classes_isPrefix_perform turn.read turn.operation).trans (ih _)

/-- After any turns the classes are those that the history admits, each of them once, in the order
in which it first admits them; no turn takes away what was registered before it; offering a name
answers whether it was appended, and offering the names that a pattern matches answers how many
were. -/
theorem classes_of_history (classMap : ClassMap) (turns : List Turn) :
    let builder := (start classMap).after turns
    let events := history classMap turns
    (∀ name, name ∈ builder.classes.toList ↔
      ∃ position, Admitted classMap events position name) ∧
    builder.classes.toList.Nodup ∧
    (builder.classes.toList.Pairwise fun first second =>
      ∃ position, Admitted classMap events position first ∧
        ∀ later, Admitted classMap events later second → position < later) ∧
    (∀ count, ((start classMap).after (turns.take count)).classes.toList <+:
      builder.classes.toList) ∧
    (∀ read name, ∃ yes,
      (builder.perform read (.offer name)).2 = .ok (.registered yes) ∧
      (builder.perform read (.offer name)).1.classes.toList =
        builder.classes.toList ++ if yes then [ClassName.stripSeparator name] else []) ∧
    (∀ read pattern,
      match Pattern.compile pattern with
      | .ok _ =>
          let next := builder.perform read (.offerMatching pattern)
          builder.classes.toList <+: next.1.classes.toList ∧
            next.2 = .ok (.count (next.1.registeredSince builder))
      | .error rejection =>
          builder.perform read (.offerMatching pattern) =
            (builder, .error (.pattern pattern rejection))) := by
  intro builder events
  have follows : builder.Follows classMap events := by
    simpa using (follows_start classMap).after turns
  have earlier_first (count : Nat) :
      ((start classMap).after (turns.take count)).classes.toList <+: builder.classes.toList := by
    have split_run : builder = ((start classMap).after (turns.take count)).after
        (turns.drop count) := by
      rw [after, after, ← List.foldl_append, List.take_append_drop]
      rfl
    rw [split_run]
    exact classes_isPrefix_after _ _
  constructor
  · exact follows.mem_classes_iff
  constructor
  · exact builder.classes.nodup
  constructor
  · exact follows.ordered
  constructor
  · exact earlier_first
  constructor
  · intro read name
    exact ⟨_, rfl, toList_classes_offer name⟩
  · intro read pattern
    cases compiles : Pattern.compile pattern with
    | ok compiled =>
        rw [perform_offerMatching_of_ok read compiles]
        exact ⟨builder.classes_isPrefix_offerAll _, by rw [offerAll_snd]⟩
    | error rejection => exact perform_offerMatching_of_error read compiles

end OpcachePreload.Builder
