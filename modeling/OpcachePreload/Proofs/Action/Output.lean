import Mathlib.Tactic.ByContra
import OpcachePreload.Proofs.Action.Frame

/-!
# What actions print

An action that prints certain texts and gives a result does so if the output takes all of the texts.
If it does not, the action fails where the first one is refused. Whether a run of a command ends
well with some output can so be told from its run with an output that takes everything.
-/

namespace OpcachePreload

/-! ## Outputs -/

/-- Whether an output takes texts one after the other, after some that were printed. -/
def takesAll (takes : List String → String → Bool) : (printed texts : List String) → Bool
  | _, [] => true
  | printed, text :: rest => takes printed text && takesAll takes (printed ++ [text]) rest

theorem takesAll_append (takes : List String → String → Bool) (printed texts more : List String) :
    takesAll takes printed (texts ++ more) =
      (takesAll takes printed texts && takesAll takes (printed ++ texts) more) := by
  induction texts generalizing printed with
  | nil => simp [takesAll]
  | cons text rest ih =>
      simp only [List.cons_append, takesAll, ih, Bool.and_assoc, List.append_assoc,
        List.nil_append]

namespace Session

variable {session : Session} {texts more : List String}

/-- Whether the output of a session takes texts one after the other. -/
def Takes (session : Session) (texts : List String) : Prop :=
  takesAll session.takes session.printed texts = true

/-- The session after texts were printed. -/
def printingAll (session : Session) (texts : List String) : Session :=
  { session with printed := session.printed ++ texts }

theorem printingAll_nil (session : Session) : session.printingAll [] = session := by
  rw [printingAll, List.append_nil]

/-- The same session with an output that takes everything. -/
def opened (session : Session) : Session := { session with takes := fun _ _ => true }

theorem takes_opened (session : Session) (texts : List String) : session.opened.Takes texts := by
  have all (printed : List String) : takesAll (fun _ _ => true) printed texts = true := by
    induction texts generalizing printed with
    | nil => rfl
    | cons text rest ih => exact ih _
  exact all session.printed

theorem takes_append :
    session.Takes (texts ++ more) ↔
      session.Takes texts ∧ (session.printingAll texts).Takes more := by
  rw [Takes, takesAll_append, Bool.and_eq_true_iff]
  rfl

/-- Noting a record makes no difference to what is printed and taken. -/
theorem printed_takes_noting (session : Session) (record : Record) :
    (session.noting record).printed = session.printed ∧
      (session.noting record).takes = session.takes := by
  obtain ⟨records, noted⟩ := session.exists_noting_eq record
  rw [noted]
  exact ⟨rfl, rfl⟩

end Session

/-! ## Printing -/

namespace Action

variable {α β : Type} {surroundings : Surroundings} {action : Action α} {next : α → Action β}
  {texts more : List String} {a : α} {b : β}

/-- An action that prints certain texts, does nothing else and gives a certain result, unless the
output does not take all of the texts. -/
structure Prints (surroundings : Surroundings) (action : Action α) (texts : List String) (a : α) :
    Prop where
  taken : ∀ session : Session, session.Takes texts →
    action.perform surroundings session = (.ok a, session.printingAll texts)
  refused : ∀ session : Session, ¬session.Takes texts →
    ∃ text, (action.perform surroundings session).1 = .error (.notPrinted text)

theorem prints_pure (a : α) : Prints surroundings (pure a) [] a where
  taken session _ := by rw [Session.printingAll_nil, perform_pure]
  refused session refused := absurd rfl refused

theorem prints_print (line : String) : Prints surroundings (print line) [line ++ "\n"] () where
  taken session taken := by
    rcases perform_print_cases line surroundings session with ⟨_, performed⟩ | ⟨refused, _⟩
    · exact performed
    · simp [Session.Takes, takesAll, refused] at taken
  refused session not_taken := by
    rcases perform_print_cases line surroundings session with ⟨taken, _⟩ | ⟨_, performed⟩
    · exact absurd (by simp [Session.Takes, takesAll, taken]) not_taken
    · exact ⟨_, congrArg Prod.fst performed⟩

theorem Prints.cases (prints : Prints surroundings action texts a) (session : Session) :
    (action.perform surroundings session).1 = .ok a ∨
      ∃ text, (action.perform surroundings session).1 = .error (.notPrinted text) := by
  by_cases taken : session.Takes texts
  · exact .inl (by rw [prints.taken session taken])
  · exact .inr (prints.refused session taken)

/-- Texts are printed in the order of the actions. -/
theorem Prints.bind (prints : Prints surroundings action texts a)
    (then_prints : Prints surroundings (next a) more b) :
    Prints surroundings (action >>= next) (texts ++ more) b where
  taken session taken := by
    obtain ⟨first, last⟩ := Session.takes_append.mp taken
    rw [perform_bind, prints.taken session first]
    change (next a).perform surroundings _ = _
    rw [then_prints.taken _ last, Session.printingAll, Session.printingAll, List.append_assoc]
    rfl
  refused session not_taken := by
    rw [perform_bind]
    by_cases first : session.Takes texts
    · rw [prints.taken session first]
      exact then_prints.refused _ fun last => not_taken (Session.takes_append.mpr ⟨first, last⟩)
    · obtain ⟨text, fails⟩ := prints.refused session first
      rcases outcome : action.perform surroundings session with ⟨_ | _, after⟩ <;>
        rw [outcome] at fails <;> cases fails
      exact ⟨text, rfl⟩

/-- What an action gives that prints nothing and fails nowhere is handed on. -/
theorem Prints.after (gives : ∀ session, action.perform surroundings session = (.ok a, session))
    (prints : Prints surroundings (next a) texts b) :
    Prints surroundings (action >>= next) texts b :=
  have silent : Prints surroundings action [] a :=
    ⟨fun session _ => by rw [gives, Session.printingAll_nil], fun _ refused => absurd rfl refused⟩
  silent.bind prints

theorem prints_forM {items : List α} {each : α → Action Unit} {line : α → String}
    (each_prints : ∀ item, Prints surroundings (each item) [line item] ()) :
    Prints surroundings (items.forM each) (items.map line) () := by
  induction items with
  | nil => exact prints_pure ()
  | cons item rest ih => exact (each_prints item).bind ih

/-! ## Ending with a result -/

/-- An outcome in which texts were printed and a result given, if the output takes the texts, and a
failure otherwise. -/
structure Shows (start : Session) (texts : List String) (a : α)
    (outcome : Except Failure α × Session) : Prop where
  taken : start.Takes texts → outcome.1 = .ok a ∧ outcome.2.printed = start.printed ++ texts
  refused : ¬start.Takes texts → ∃ text, outcome.1 = .error (.notPrinted text)

theorem Prints.shows (prints : Prints surroundings action texts a) (start : Session) :
    Shows start texts a (action.perform surroundings start) := by
  refine ⟨fun taken => ?_, prints.refused start⟩
  rw [prints.taken start taken]
  exact ⟨rfl, rfl⟩

/-- What was done before does not matter if it printed nothing. -/
theorem Shows.from {start between : Session} {outcome : Except Failure α × Session}
    (shows : Shows between texts a outcome) (printed : between.printed = start.printed)
    (takes : between.takes = start.takes) : Shows start texts a outcome := by
  have same : between.Takes texts ↔ start.Takes texts := by
    rw [Session.Takes, Session.Takes, printed, takes]
  refine ⟨fun taken => ?_, fun refused => shows.refused (same.not.mpr refused)⟩
  rw [← printed]
  exact shows.taken (same.mpr taken)

theorem Shows.eq_of_ok {start : Session} {outcome : Except Failure α × Session} {c : α}
    (shows : Shows start texts a outcome) (given : outcome.1 = .ok c) : c = a := by
  by_cases taken : start.Takes texts
  · exact Except.ok.inj (given.symm.trans (shows.taken taken).1)
  · obtain ⟨text, fails⟩ := shows.refused taken
    cases fails.symm.trans given

theorem Shows.eq_ok_iff {start : Session} {outcome : Except Failure α × Session}
    (shows : Shows start texts a outcome) : outcome.1 = .ok a ↔ start.Takes texts := by
  refine ⟨fun given => ?_, fun taken => (shows.taken taken).1⟩
  by_contra refused
  obtain ⟨text, fails⟩ := shows.refused refused
  cases fails.symm.trans given

end Action

end OpcachePreload
