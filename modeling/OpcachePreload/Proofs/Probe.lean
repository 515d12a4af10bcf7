import OpcachePreload.Probe
import OpcachePreload.Proofs.Json.Complete

/-!
# Asking a PHP binary

What comes of starting a PHP binary: its capabilities if it prints an object in JSON and ends well,
and a fault of the environment in most of the other cases. The wording of such a fault is a single
line if the name of the binary is one.
-/

namespace OpcachePreload

/-! ## Single lines -/

namespace Text

/-- A text without a line feed. -/
def IsLine (text : String) : Prop := '\n' ∉ text.toList

instance (text : String) : Decidable (IsLine text) :=
  inferInstanceAs (Decidable ('\n' ∉ text.toList))

theorem IsLine.append {text more : String} (line : IsLine text) (more_line : IsLine more) :
    IsLine (text ++ more) := by
  rw [IsLine, String.toList_append, List.mem_append, not_or]
  exact ⟨line, more_line⟩

theorem exists_digitChar_of_mem_toDigits {n : Nat} {c : Char} (listed : c ∈ Nat.toDigits 16 n) :
    ∃ d : Fin 16, c = d.val.digitChar := by
  induction n using Nat.strongRecOn with
  | ind n ih =>
      by_cases small : n < 16
      · rw [Nat.toDigits_of_lt_base small, List.mem_singleton] at listed
        exact ⟨⟨n, small⟩, listed⟩
      · rw [Nat.toDigits_of_base_le (by decide) (Nat.le_of_not_lt small), List.mem_append,
          List.mem_singleton] at listed
        rcases listed with earlier | last
        · exact ih (n / 16) (by omega) earlier
        · exact ⟨⟨n % 16, Nat.mod_lt _ (by decide)⟩, last⟩

theorem lineFeed_not_mem_hex (width n : Nat) : '\n' ∉ hex width n := by
  have no_digit : ∀ d : Fin 16, '\n' ≠ d.val.digitChar := by decide
  intro present
  rcases List.mem_append.mp present with padding | digit
  · exact absurd (List.eq_of_mem_replicate padding) (by decide)
  · obtain ⟨d, same⟩ := exists_digitChar_of_mem_toDigits digit
    exact no_digit d same

theorem lineFeed_not_mem_numbered (n : Nat) : '\n' ∉ numbered n := by
  unfold numbered
  split
  · simp [lineFeed_not_mem_hex]
  · split <;> simp [lineFeed_not_mem_hex]

theorem lineFeed_not_mem_shownChar {quote : Char} (other : quote ≠ '\n') (c : Char) :
    '\n' ∉ shownChar quote c := by
  have other_than : ∀ {d : Char}, d ≠ '\n' → '\n' ∉ [d] := fun differs present =>
    differs (List.mem_singleton.mp present).symm
  by_cases feed : c = '\n'
  · subst feed
    simp [shownChar, Ne.symm other]
  · have written : '\n' ∉ ['\\', c] := by simp [Ne.symm feed]
    unfold shownChar
    rw [if_neg feed]
    split
    · exact written
    · split
      · decide
      · split
        · decide
        · split
          · exact other_than feed
          · exact lineFeed_not_mem_numbered c.toNat

/-- A text between quotes is a single line, whatever it holds. -/
theorem isLine_quoted (text : String) : IsLine (quoted text) := by
  have quote_other : quoteFor text.toList ≠ '\n' := by
    unfold quoteFor
    split <;> decide
  rw [IsLine, quoted, String.toList_ofList, quotedChars]
  simp only [List.cons_append, List.mem_cons, List.mem_append, List.mem_flatMap, List.not_mem_nil,
    or_false, not_or, not_exists, not_and]
  exact ⟨Ne.symm quote_other, fun c _ => lineFeed_not_mem_shownChar quote_other c,
    Ne.symm quote_other⟩

theorem isLine_natRepr (n : Nat) : IsLine n.repr := by
  rw [IsLine, Nat.toList_repr]
  intro present
  exact absurd (Nat.isDigit_of_mem_toDigits (by decide) (by decide) present) (by decide)

theorem isLine_intRepr (n : Int) : IsLine n.repr := by
  cases n with
  | ofNat n => exact isLine_natRepr n
  | negSucc n => exact IsLine.append (by decide) (isLine_natRepr _)

end Text

open Text (IsLine)

namespace EnvironmentFault

/-- The names that a fault of the environment tells. -/
def names : EnvironmentFault → List String
  | lacking cacheName compilePrimitive _ => [cacheName, compilePrimitive]
  | binaryNotFound binary | binaryFailed binary _ | binaryTimedOut binary
  | unexpectedReply binary _ => [binary]

/-- The wording of a fault is a single line if the names in it are: a reply is shown between quotes.
-/
theorem isLine_message {fault : EnvironmentFault} (lines : ∀ name ∈ fault.names, IsLine name) :
    IsLine fault.message := by
  have before : IsLine "PHP binary " := by decide
  cases fault with
  | lacking cacheName compilePrimitive lack =>
      have cache_line : IsLine cacheName := lines _ (by simp [names])
      have primitive_line : IsLine compilePrimitive := lines _ (by simp [names])
      cases lack with
      | cache => exact cache_line.append (by decide)
      | compilePrimitive =>
          exact ((cache_line.append (by decide)).append primitive_line).append (by decide)
      | commandLineCache => exact cache_line.append (by decide)
  | binaryNotFound binary =>
      have line : IsLine binary := lines _ (by simp [names])
      exact (before.append line).append (by decide)
  | binaryTimedOut binary =>
      have line : IsLine binary := lines _ (by simp [names])
      exact (before.append line).append (by decide)
  | binaryFailed binary status =>
      have line : IsLine binary := lines _ (by simp [names])
      exact (((before.append line).append (by decide)).append (Text.isLine_intRepr status)).append
        (by decide)
  | unexpectedReply binary reply =>
      have line : IsLine binary := lines _ (by simp [names])
      exact ((IsLine.append (by decide) line).append (by decide)).append (Text.isLine_quoted _)

end EnvironmentFault

/-! ## Replies -/

namespace Probe

variable {probe : Probe} {outcome : ProcessOutcome} {output : String} {failure : Failure}
  {fault : EnvironmentFault} {entries : List (Value × Value)} {capabilities : Capabilities}

/-- The failures of asking a binary that are no faults of the environment: it may not be started, or
it ends well with a reply in JSON that is no object, or with one that is not read for an integer
with too many digits. -/
inductive Escapes (probe : Probe) : ProcessOutcome → Failure → Prop where
  | notPermitted : Escapes probe .notPermitted (.notPermitted probe.binary)
  | notAnObject {output : String} {value : Value} (spelled : Json.SpelledText output.toList value)
      (no_object : ∀ entries, value ≠ .mapping entries) :
      Escapes probe (.finished output 0) (.replyKind value.kindName)
  | tooManyDigits {output : String} {digits : Nat}
      (stops : Json.document output.toList = .error (.tooManyDigits digits))
      (long : Json.LongRun digits output.toList) :
      Escapes probe (.finished output 0) (.content (.json (.tooManyDigits digits)))

/-- Settings are read exactly from an object in JSON. -/
theorem settings_eq_ok_iff :
    probe.settings output = .ok entries ↔
      ∃ members, Json.SpelledObject output.toList members ∧
        entries = Json.entriesAfter [] members := by
  rw [← Json.spelledText_mapping_iff, ← Json.document_eq_ok_iff]
  unfold settings
  rw [Json.read]
  cases read : Json.document output.toList with
  | error stop => cases stop <;> simp [mapError_error, Json.Stop.fault]
  | ok value => cases value <;> simp [mapError_ok]

/-- A reply that is no object in JSON is of another kind or is not read; of the last there are two
sorts. -/
theorem settings_eq_error (fails : probe.settings output = .error failure) :
    failure = .environment (.unexpectedReply probe.binary output) ∨
      Escapes probe (.finished output 0) failure := by
  unfold settings at fails
  rcases Json.document_cases output.toList with
    ⟨value, read, spelled⟩ | ⟨problem, left, stops⟩ | ⟨digits, stops, long⟩
  · rw [Json.read, read, mapError_ok] at fails
    split at fails
    · cases fails
    · rename_i no_object given
      obtain rfl := Except.ok.inj given
      obtain rfl := Except.error.inj fails
      exact .inr (.notAnObject spelled no_object)
    · contradiction
    · contradiction
  · rw [Json.read, stops, mapError_error] at fails
    exact .inl (Except.error.inj fails).symm
  · rw [Json.read, stops, mapError_error] at fails
    obtain rfl := Except.error.inj fails
    exact .inr (.tooManyDigits stops long)

/-- What comes of asking a binary. It tells its capabilities exactly by ending well with an object
in JSON, and every failure is one of the environment, but for those that escape. -/
structure Reported (probe : Probe) (outcome : ProcessOutcome)
    (result : Except Failure Capabilities) :
    Prop where
  ok_iff : ∀ capabilities, result = .ok capabilities ↔ ∃ output members,
    outcome = .finished output 0 ∧ Json.SpelledObject output.toList members ∧
      capabilities = probe.ofSettings (Json.entriesAfter [] members)
  error : ∀ failure, result = .error failure →
    (∃ fault, failure = .environment fault) ∨ Escapes probe outcome failure
  escapes : ∀ failure, Escapes probe outcome failure → result = .error failure

theorem capabilitiesOf_finished (probe : Probe) (output : String) :
    probe.capabilitiesOf (.finished output 0) = probe.ofSettings <$> probe.settings output := by
  change (do return probe.ofSettings (← probe.settings output)) = _
  cases probe.settings output <;> rfl

theorem Escapes.ended (escapes : Escapes probe outcome failure) :
    outcome = .notPermitted ∨ ∃ output, outcome = .finished output 0 := by
  cases escapes with
  | notPermitted => exact .inl rfl
  | notAnObject => exact .inr ⟨_, rfl⟩
  | tooManyDigits => exact .inr ⟨_, rfl⟩

/-- A binary that may be started and does not end well tells nothing. -/
theorem reported_of_error (other : ∀ output, outcome ≠ .finished output 0)
    (permitted : outcome ≠ .notPermitted)
    (fails : probe.output outcome = .error (.environment fault)) :
    Reported probe outcome (probe.capabilitiesOf outcome) := by
  have given_up : probe.capabilitiesOf outcome = .error (.environment fault) := by
    rw [capabilitiesOf, fails]
    rfl
  rw [given_up]
  refine ⟨fun capabilities => ?_, ?_, fun failure escapes => ?_⟩
  · simp only [reduceCtorEq, false_iff, not_exists]
    rintro output members ⟨ended, _⟩
    exact other output ended
  · rintro _ ⟨⟩
    exact .inl ⟨fault, rfl⟩
  · rcases escapes.ended with same | ⟨output, same⟩
    · exact absurd same permitted
    · exact absurd same (other output)

theorem reported_finished (probe : Probe) (output : String) :
    Reported probe (.finished output 0) (probe.capabilitiesOf (.finished output 0)) := by
  rw [capabilitiesOf_finished]
  refine ⟨fun capabilities => ?_, fun failure fails => ?_, fun failure escapes => ?_⟩
  · rw [map_eq_ok_iff]
    constructor
    · rintro ⟨entries, read, rfl⟩
      obtain ⟨members, spelled, rfl⟩ := settings_eq_ok_iff.mp read
      exact ⟨output, members, rfl, spelled, rfl⟩
    · rintro ⟨_, members, ⟨⟩, spelled, rfl⟩
      exact ⟨_, settings_eq_ok_iff.mpr ⟨members, spelled, rfl⟩, rfl⟩
  · cases held : probe.settings output with
    | ok entries => simp [held] at fails
    | error other =>
        rw [held] at fails
        obtain rfl := Except.error.inj fails
        exact (settings_eq_error held).imp_left fun same => ⟨_, same⟩
  · have fails : probe.settings output = .error failure := by
      unfold settings
      cases escapes with
      | notAnObject spelled no_object =>
          rw [Json.read, Json.document_eq_ok_iff.mpr spelled, mapError_ok]
          split
          · rename_i entries given
            exact absurd (Except.ok.inj given) (no_object entries)
          · rename_i given
            rw [Except.ok.inj given]
          · contradiction
          · contradiction
      | tooManyDigits stops => rw [Json.read, stops, mapError_error, Json.Stop.fault]
    rw [fails]
    rfl

theorem reported_capabilitiesOf (probe : Probe) {outcome : ProcessOutcome}
    (uninterrupted : outcome ≠ .interrupted) :
    Reported probe outcome (probe.capabilitiesOf outcome) := by
  cases outcome with
  | finished output status =>
      by_cases well : status = 0
      · subst well
        exact reported_finished probe output
      · refine reported_of_error (fun other same => well ?_) nofun (if_neg well)
        exact (ProcessOutcome.finished.inj same).2
  | notFound => exact reported_of_error nofun nofun rfl
  | timedOut => exact reported_of_error nofun nofun rfl
  | notPermitted =>
      refine ⟨fun capabilities => ?_, ?_, ?_⟩
      · simp [capabilitiesOf, Probe.output, bind, Except.bind]
      · rintro _ ⟨⟩
        exact .inr .notPermitted
      · rintro _ ⟨⟩
        rfl
  | interrupted => exact absurd rfl uninterrupted

end Probe

end OpcachePreload
