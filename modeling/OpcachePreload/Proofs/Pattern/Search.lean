import Mathlib.Data.List.Basic
import OpcachePreload.Proofs.Pattern.Reading

/-!
# Searching from left to right

The matches of a pattern in a text are those of a sweep over the text: the pattern is tried at one
place after the other, and where it matches, the sweep goes on behind the match. This holds of every
pattern whose matches take something. So no match is lost but those that start inside an earlier
one.
-/

namespace OpcachePreload

/-- The place between the two parts of a text. -/
def Cursor.between (before after : List Char) : Cursor := ⟨before.length, before.reverse, after, []⟩

namespace Pattern

/-- The match that takes a text between two others. -/
def Match.between (before taken rest : List Char) (captures : List (Nat × List Char)) : Match where
  first := .between before (taken ++ rest)
  last := { Cursor.between (before ++ taken) rest with captures }

/-- A match that takes a text, not an empty one, between two others. -/
structure Match.Lies (found : Match) (before taken rest : List Char) : Prop where
  nonempty : taken ≠ []
  first_eq : found.first = .between before (taken ++ rest)
  last_eq : found.last =
    { Cursor.between (before ++ taken) rest with captures := found.last.captures }

namespace Match.Lies

variable {found : Match} {before taken rest : List Char}

theorem first_position (lies : found.Lies before taken rest) :
    found.first.position = before.length := by
  rw [lies.first_eq]
  rfl

theorem last_position (lies : found.Lies before taken rest) :
    found.last.position = before.length + taken.length := by
  rw [lies.last_eq]
  exact List.length_append

theorem length_pos (lies : found.Lies before taken rest) : 0 < taken.length :=
  List.length_pos_iff.mpr lies.nonempty

end Match.Lies

theorem Match.lies_between {taken : List Char} (nonempty : taken ≠ []) (before rest : List Char)
    (captures : List (Nat × List Char)) :
    (Match.between before taken rest captures).Lies before taken rest :=
  ⟨nonempty, rfl, rfl⟩

/-- What a pattern reads is its match between what is before and behind it. -/
theorem Reads.matchAt_between {pattern : Pattern} {taken rest : List Char}
    {captured : List (Nat × List Char)} (reads : Reads pattern taken rest captured)
    (before : List Char) :
    Pattern.matchAt pattern false (.between before (taken ++ rest)) =
      some (.between before taken rest captured) := by
  have matched := reads.matchAt before.length before.reverse
  rw [Cursor.between, matched]
  simp [Match.between, Cursor.between]

/-- A pattern whose matches take something. -/
def Proceeds (pattern : Pattern) : Prop :=
  ∀ (before after : List Char) (found : Match),
    matchAt pattern false (.between before after) = some found →
      ∃ taken rest, after = taken ++ rest ∧ found.Lies before taken rest

/-- What a sweep over the second part of a text finds: it tries the pattern at each place in turn
and goes on behind each match. -/
inductive Sweep (pattern : Pattern) : (before after : List Char) → List Match → Prop
  | done {before : List Char} (nothing : matchAt pattern false (.between before []) = none) :
      Sweep pattern before [] []
  | pass {before after : List Char} {c : Char} {found : List Match}
      (nothing : matchAt pattern false (.between before (c :: after)) = none)
      (others : Sweep pattern (before ++ [c]) after found) : Sweep pattern before (c :: after) found
  | take {before taken rest : List Char} {first : Match} {found : List Match}
      (matched : matchAt pattern false (.between before (taken ++ rest)) = some first)
      (lies : first.Lies before taken rest) (others : Sweep pattern (before ++ taken) rest found) :
      Sweep pattern before (taken ++ rest) (first :: found)

variable {pattern : Pattern}

/-- A match with which a sweep over the second part of a text can begin. -/
def Begins (pattern : Pattern) (before after : List Char) (first : Match) : Prop :=
  ∃ passed taken rest, after = passed ++ (taken ++ rest) ∧
    first.Lies (before ++ passed) taken rest ∧
    ∀ found, Sweep pattern (before ++ passed ++ taken) rest found →
      Sweep pattern before after (first :: found)

/-! ## The search is a sweep -/

theorem Proceeds.begins (proceeds : Proceeds pattern) {before after : List Char} {first : Match}
    (matched : matchAt pattern false (.between before after) = some first) :
    Begins pattern before after first := by
  obtain ⟨taken, rest, rfl, lies⟩ := proceeds _ _ _ matched
  refine ⟨[], taken, rest, rfl, ?_, fun found others => ?_⟩
  · rwa [List.append_nil]
  · rw [List.append_nil] at others
    exact .take matched lies others

theorem Begins.pass {before after : List Char} {c : Char} {first : Match}
    (nothing : matchAt pattern false (.between before (c :: after)) = none)
    (begins : Begins pattern (before ++ [c]) after first) :
    Begins pattern before (c :: after) first := by
  obtain ⟨passed, taken, rest, rfl, lies, extend⟩ := begins
  refine ⟨c :: passed, taken, rest, rfl, ?_, fun found others => .pass nothing (extend found ?_)⟩
  · simpa using lies
  · simpa using others

/-- The leftmost match that starts in the second part of a text. -/
def findBetween (pattern : Pattern) (before after : List Char) : Option Match :=
  findFrom pattern false before.length before.reverse after

theorem findBetween_cons (before : List Char) (c : Char) (after : List Char) :
    findBetween pattern before (c :: after) =
      (matchAt pattern false (.between before (c :: after)) <|>
        findBetween pattern (before ++ [c]) after) := by
  simp [findBetween, findFrom, Cursor.between]

theorem Proceeds.begins_of_findBetween (proceeds : Proceeds pattern) {before after : List Char}
    {first : Match} (searched : findBetween pattern before after = some first) :
    Begins pattern before after first := by
  induction after generalizing before with
  | nil => exact proceeds.begins searched
  | cons c after ih =>
      rw [findBetween_cons] at searched
      cases matched : matchAt pattern false (.between before (c :: after)) with
      | none =>
          rw [matched] at searched
          exact (ih searched).pass matched
      | some found =>
          rw [matched] at searched
          obtain rfl : found = first := Option.some.inj searched
          exact proceeds.begins matched

/-- Where nothing is found, a sweep finds nothing. -/
theorem sweep_of_findBetween {before after : List Char}
    (searched : findBetween pattern before after = none) : Sweep pattern before after [] := by
  induction after generalizing before with
  | nil => exact .done searched
  | cons c after ih =>
      rw [findBetween_cons] at searched
      cases matched : matchAt pattern false (.between before (c :: after)) with
      | none =>
          rw [matched] at searched
          exact .pass matched (ih searched)
      | some found =>
          rw [matched] at searched
          cases searched

/-- With enough fuel, the search goes on as a sweep does; what earlier matches captured has no say
in it. -/
theorem Proceeds.sweep_findAllFrom (proceeds : Proceeds pattern) (fuel : Nat) :
    ∀ (before after : List Char) (captures : List (Nat × List Char)), after.length < fuel →
      Sweep pattern before after
        (findAllFrom pattern fuel false { Cursor.between before after with captures }) := by
  induction fuel with
  | zero => exact fun _ _ _ enough => absurd enough (Nat.not_lt_zero _)
  | succ fuel ih =>
      intro before after captures enough
      rw [findAllFrom]
      cases searched : findBetween pattern before after with
      | none =>
          have nothing : findFrom pattern false before.length before.reverse after = none :=
            searched
          simp only [Cursor.between, nothing]
          exact sweep_of_findBetween searched
      | some first =>
          obtain ⟨passed, taken, rest, rfl, lies, extend⟩ := proceeds.begins_of_findBetween searched
          have moved : (first.first.position == first.last.position) = false := by
            have taken_pos := lies.length_pos
            rw [lies.first_position, lies.last_position, beq_eq_false_iff_ne]
            omega
          have nearer : rest.length < fuel := by
            have taken_pos := lies.length_pos
            simp only [List.length_append] at enough
            omega
          have others := ih (before ++ passed ++ taken) rest first.last.captures nearer
          rw [← lies.last_eq] at others
          have found : findFrom pattern false before.length before.reverse
              (passed ++ (taken ++ rest)) = some first := searched
          simp only [Cursor.between, found, moved]
          exact extend _ others

/-- All matches in a text are those of a sweep over it. -/
theorem Proceeds.sweep_findAll (proceeds : Proceeds pattern) (text : List Char) :
    Sweep pattern [] text (findAll pattern text) :=
  proceeds.sweep_findAllFrom _ [] text [] (by omega)

/-! ## What a sweep finds -/

namespace Sweep

variable {before after : List Char} {found : List Match}

/-- Everything that is found is a match at its place. -/
theorem matchAt_of_mem (sweep : Sweep pattern before after found) {other : Match}
    (member : other ∈ found) :
    ∃ passed taken rest, after = passed ++ (taken ++ rest) ∧
      other.Lies (before ++ passed) taken rest ∧
      matchAt pattern false (.between (before ++ passed) (taken ++ rest)) = some other := by
  induction sweep with
  | done => cases member
  | pass nothing _ ih =>
      obtain ⟨passed, taken, rest, rfl, lies, matched⟩ := ih member
      exact ⟨_ :: passed, taken, rest, rfl, by simpa using lies, by simpa using matched⟩
  | @take before taken rest first found matched lies _ ih =>
      rcases List.mem_cons.mp member with rfl | later
      · exact ⟨[], taken, rest, rfl, by simpa using lies, by simpa using matched⟩
      · obtain ⟨passed, taken', rest', rfl, lies', matched'⟩ := ih later
        exact ⟨taken ++ passed, taken',
          rest', by simp, by simpa using lies', by simpa using matched'⟩

/-- What is found later starts where the earlier ones have ended. -/
theorem pairwise (sweep : Sweep pattern before after found) :
    found.Pairwise fun first second => first.last.position ≤ second.first.position := by
  induction sweep with
  | done => exact .nil
  | pass _ _ ih => exact ih
  | @take before taken rest first found _ lies others ih =>
      refine .cons (fun second member => ?_) ih
      obtain ⟨passed, _, _, _, lies', _⟩ := others.matchAt_of_mem member
      rw [lies.last_position, lies'.first_position]
      simp only [List.length_append]
      omega

/-- Of two ways to split a text, either the second goes at least as far as the first, or its front
is shorter. -/
theorem behind_or_shorter {front back front' back' : List Char}
    (same : front ++ back = front' ++ back') :
    (∃ extra, front' = front ++ extra ∧ back = extra ++ back') ∨ front'.length < front.length := by
  rcases List.append_eq_append_iff.mp same with behind | ⟨extra, rfl, rfl⟩
  · exact .inl behind
  · cases extra with
    | nil => exact .inl ⟨[], by simp, rfl⟩
    | cons c extra => exact .inr (by simp)

/-- A match is found unless it starts inside another one that is. -/
theorem found_or_inside (sweep : Sweep pattern before after found) {passed rest : List Char}
    (split_text : after = passed ++ rest) {other : Match}
    (matched : matchAt pattern false (.between (before ++ passed) rest) = some other) :
    other ∈ found ∨ ∃ earlier ∈ found,
      earlier.first.position < before.length + passed.length ∧
        before.length + passed.length < earlier.last.position := by
  induction sweep generalizing passed with
  | done nothing =>
      obtain ⟨rfl, rfl⟩ := List.nil_eq_append_iff.mp split_text
      rw [List.append_nil, nothing] at matched
      cases matched
  | @pass before after c found nothing _ ih =>
      cases passed with
      | nil =>
          obtain rfl : c :: after = rest := split_text
          rw [List.append_nil, nothing] at matched
          cases matched
      | cons d passed =>
          obtain ⟨rfl, onward_text⟩ := List.cons.inj split_text
          have onward := ih onward_text (by simpa using matched)
          simpa [Nat.add_assoc, Nat.add_comm 1] using onward
  | @take before taken rest' first found here lies _ ih =>
      rcases behind_or_shorter split_text with ⟨extra, rfl, rest_eq⟩ | shorter
      · rw [← List.append_assoc] at matched
        rcases ih rest_eq matched with later | ⟨earlier, member, starts, ends⟩
        · exact .inl (List.mem_cons_of_mem _ later)
        · refine .inr ⟨earlier, List.mem_cons_of_mem _ member, ?_⟩
          simp only [List.length_append] at starts ends ⊢
          omega
      · cases passed with
        | nil =>
            obtain rfl : taken ++ rest' = rest := split_text
            rw [List.append_nil, here] at matched
            obtain rfl : first = other := Option.some.inj matched
            exact .inl List.mem_cons_self
        | cons d passed =>
            refine .inr ⟨first, List.mem_cons_self, ?_⟩
            rw [lies.first_position, lies.last_position]
            rw [List.length_cons] at shorter ⊢
            omega

end Sweep

end Pattern

end OpcachePreload
