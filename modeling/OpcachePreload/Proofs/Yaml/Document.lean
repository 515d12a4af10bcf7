import OpcachePreload.Proofs.Yaml.Node
import OpcachePreload.Proofs.Yaml.Scalar
import OpcachePreload.Yaml.Document

/-!
# Documents without marks

What can be wrong with a text without marks counts as a fault of its content, whatever the text is:
no tag gives a scalar a kind that its text does not fit. So only a text that holds an exclamation
mark or the escape of a code with eight digits can have a fault of another sort, but for a binary
fraction that is written in so many parts of sixty that the weight of one is no binary fraction.
-/

namespace OpcachePreload.Yaml

open Failure (isYamlContent)

/-! ## Outcomes -/

/-- A value was found, or else the fault that is reported counts as one of the content. -/
def Outcome.Counts {α : Type} (outcome : Outcome α) : Prop :=
  Fits Anything (outcome.mapError Prod.snd)

namespace Outcome

variable {α β γ : Type}

theorem counts_ok (a : α) : Counts (.ok a) := .found trivial

theorem counts_fail (depth : Nat) (problem : Problem) :
    Counts (@fail α depth (.malformed problem)) :=
  .content rfl

theorem counts_lift (depth : Nat) {found : Except Fault α} {kind : α → Prop}
    (fits : Fits kind found) :
    Counts (lift depth found) := by
  cases fits with
  | found of_kind => exact .found trivial
  | content counts => exact .content counts
  | overweight => exact .overweight

theorem Counts.map {outcome : Outcome α} (counts : outcome.Counts) (f : α → β) :
    (f <$> outcome).Counts := by
  cases outcome with
  | error fault => exact Fits.error counts
  | ok a => exact counts_ok _

/-- Of two faults one is reported. -/
theorem Counts.both {first : Outcome α} {second : Outcome β} (first_counts : first.Counts)
    (second_counts : second.Counts) (combine : α → β → γ) : (both combine first second).Counts := by
  rcases first with fault | a <;> rcases second with fault' | b
  · change Counts (.error (if fault'.1 < fault.1 then fault' else fault))
    split
    · exact Fits.error second_counts
    · exact Fits.error first_counts
  · exact Fits.error first_counts
  · exact Fits.error second_counts
  · exact counts_ok _

end Outcome

open Outcome (Counts counts_ok counts_fail counts_lift)

/-- An entry whose parts are values, or faults of the content. -/
structure Piece.Counts (piece : Piece) : Prop where
  key : piece.key.Counts
  value : piece.value.Counts

theorem counts_assignAll {pieces : List Piece} (counts : ∀ piece ∈ pieces, piece.Counts)
    {soFar : Outcome (List (Value × Value))} (soFar_counts : soFar.Counts) :
    (assignAll pieces soFar).Counts := by
  induction pieces generalizing soFar with
  | nil => exact soFar_counts
  | cons piece rest ih =>
      obtain ⟨first, others⟩ := List.forall_mem_cons.mp counts
      exact ih others (soFar_counts.both (first.key.both first.value _) _)

/-! ## Nodes -/

/-- What can be wrong with a node counts as a fault of the content: with its value, with its text
where it has to be a scalar, and with the entries that it adds where it is merged. -/
structure Node.Counts (node : Node) : Prop where
  value : ∀ depth, (valueAt depth node).Counts
  text : Fits Anything node.scalarText
  merged : ∀ depth, Fits (∀ piece ∈ ·, piece.Counts) (mergedAt depth node)

section

variable {items : List Node} {entries : List (Node × Node)}

theorem counts_valuesAt (depth : Nat) (counts : ∀ item ∈ items, item.Counts) :
    (valuesAt depth items).Counts := by
  induction items with
  | nil =>
      unfold valuesAt
      exact counts_ok _
  | cons item rest ih =>
      obtain ⟨first, others⟩ := List.forall_mem_cons.mp counts
      unfold valuesAt
      exact (first.value depth).both (ih others) _

theorem fits_inEntries (counts : ∀ entry ∈ entries, entry.2.Counts) :
    Fits Anything (Node.scalarText.inEntries entries) := by
  induction entries with
  | nil =>
      unfold Node.scalarText.inEntries
      exact .content rfl
  | cons entry rest ih =>
      obtain ⟨first, others⟩ := List.forall_mem_cons.mp counts
      unfold Node.scalarText.inEntries
      exact Fits.ite (fun _ => first.text) (ih others)

theorem fits_piecesAt (depth : Nat) (keys_count : ∀ entry ∈ entries, entry.1.Counts)
    (values_count : ∀ entry ∈ entries, entry.2.Counts) :
    Fits (∀ piece ∈ ·.all, piece.Counts) (piecesAt depth entries) := by
  induction entries with
  | nil =>
      unfold piecesAt
      exact .found (List.forall_mem_nil _)
  | cons entry rest ih =>
      obtain ⟨key, value⟩ := entry
      obtain ⟨key_counts, keys_count⟩ := List.forall_mem_cons.mp keys_count
      obtain ⟨value_counts, values_count⟩ := List.forall_mem_cons.mp values_count
      have others := ih keys_count values_count
      unfold piecesAt
      split
      · refine (value_counts.merged depth).bind fun merged merged_count => ?_
        refine others.bind fun pieces count => .found ?_
        rw [Pieces.all, List.append_assoc]
        exact List.forall_mem_append.mpr ⟨merged_count, count⟩
      · refine others.bind fun pieces count => .found ?_
        refine List.forall_mem_append.mpr
          ⟨fun piece before => ?_, List.forall_mem_cons.mpr ⟨?_, ?_⟩⟩
        · exact count piece (List.mem_append_left _ before)
        · refine ⟨?_, value_counts.value depth⟩
          dsimp only
          split
          · exact counts_lift depth (key_counts.text.map _)
          split
          · exact counts_fail depth _
          · exact key_counts.value depth
        · exact fun piece later => count piece (List.mem_append_right _ later)

theorem counts_entriesAt (depth : Nat) (keys_count : ∀ entry ∈ entries, entry.1.Counts)
    (values_count : ∀ entry ∈ entries, entry.2.Counts) : (entriesAt depth entries).Counts := by
  unfold entriesAt
  have fits := fits_piecesAt depth keys_count values_count
  cases read : piecesAt depth entries with
  | error fault =>
      rw [read] at fits
      exact fits.error
  | ok pieces =>
      rw [read] at fits
      exact counts_assignAll fits.of_ok (counts_ok [])

theorem fits_mergedAllAt (depth : Nat) (counts : ∀ item ∈ items, item.Counts) :
    Fits (∀ piece ∈ ·, piece.Counts) (mergedAllAt depth items) := by
  induction items with
  | nil =>
      unfold mergedAllAt
      exact .found (List.forall_mem_nil _)
  | cons item rest ih =>
      obtain ⟨first, others⟩ := List.forall_mem_cons.mp counts
      cases item with
      | mapping tag entries =>
          have merged := first.merged depth
          unfold mergedAt at merged
          unfold mergedAllAt
          cases read : piecesAt depth entries with
          | error fault =>
              rw [read] at merged
              exact merged.error
          | ok pieces =>
              rw [read] at merged
              exact (ih others).bind fun rest count =>
                .found (List.forall_mem_append.mpr ⟨count, merged.of_ok⟩)
      | cycle keyed =>
          unfold mergedAllAt
          cases keyed with
          | true => exact ih others
          | false => exact .content rfl
      | scalar tag text | sequence tag items =>
          unfold mergedAllAt
          exact .content rfl

end

theorem Node.Resolved.counts {node : Node} (resolved : node.Resolved) : node.Counts := by
  induction resolved with
  | quoted text =>
      refine ⟨fun depth => ?_, ?_, fun depth => ?_⟩
      · unfold valueAt
        exact counts_ok _
      · unfold Node.scalarText
        exact .found trivial
      · unfold mergedAt
        exact .content rfl
  | plain complete =>
      refine ⟨fun depth => ?_, ?_, fun depth => ?_⟩
      · unfold valueAt
        split
        case h_6 => exact counts_lift depth (Scalar.fits_value_resolve complete)
        all_goals exact counts_fail _ _
      · unfold Node.scalarText
        exact .found trivial
      · unfold mergedAt
        exact .content rfl
  | sequence _ counts =>
      refine ⟨fun depth => ?_, ?_, fun depth => ?_⟩
      · unfold valueAt
        exact (counts_valuesAt _ counts).map _
      · unfold Node.scalarText
        exact .content rfl
      · unfold mergedAt
        exact fits_mergedAllAt depth counts
  | mapping _ _ keys_count values_count =>
      refine ⟨fun depth => ?_, ?_, fun depth => ?_⟩
      · unfold valueAt
        exact (counts_entriesAt _ keys_count values_count).map _
      · unfold Node.scalarText
        exact fits_inEntries values_count
      · unfold mergedAt
        exact (fits_piecesAt depth keys_count values_count).bind fun pieces counts => .found counts
  | cycle keyed =>
      refine ⟨fun depth => ?_, ?_, fun depth => ?_⟩
      · unfold valueAt
        exact counts_ok _
      · unfold Node.scalarText
        exact .content rfl
      · unfold mergedAt
        cases keyed with
        | true => exact .found (List.forall_mem_nil _)
        | false => exact .content rfl

/-! ## Texts -/

/-- A text whose fault does not count as one of the content is marked, or holds a number whose parts
weigh too much. -/
theorem marked_of_read {text : String} {fault : Fault} (failed : read text = .error fault)
    (other : isYamlContent fault = false) : Marked text.toList ∨ fault = .overweight := by
  refine or_iff_not_imp_left.mpr fun unmarked => ?_
  have fits : Fits Anything (read text) := by
    unfold read
    refine (fits_ofTokens (clean_tokens unmarked)).bind fun found resolved => ?_
    split
    · exact .found trivial
    · rename_i node
      exact (resolved node rfl).counts.value 0
  rw [failed] at fits
  exact fits.of_error.resolve_left (by simp [other])

end OpcachePreload.Yaml
