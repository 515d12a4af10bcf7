import OpcachePreload.CommandLine.Run
import OpcachePreload.Proofs.Action.Frame

/-!
# Running command lines

A command line that runs a command does what the command does. If the command fails, the command
line does not end well, and at most one more text is printed; the files are left as they are.
-/

namespace OpcachePreload.CommandLine

open OpcachePreload.Action
open Command (succeeded failed)

/-- The context that options give to a command. -/
def Options.context (env : Environment) (options : Options) : Command.Context :=
  ⟨options.arguments, options.configPath.map fun path => toString (env.path (toString path))⟩

/-- Whether options ask for help on a command instead of running it. -/
def Options.asksHelp (options : Options) : Bool :=
  options.help || options.arguments.contains "-h" || options.arguments.contains "--help"

/-- Whether words run a command, with a context. -/
inductive Runs (env : Environment) (words : List String) : Command → Command.Context → Prop where
  | intro {options : Options} {name : String} {command : Command}
      (read : Options.read words = .ok options) (proper : options.version = false)
      (busy : options.asksHelp = false) (called : options.command = some name)
      (known : Command.ofName? name = some command) : Runs env words command (options.context env)

variable (interpreter : Module.Interpreter) {surroundings : Surroundings} {session : Session}
  {options : Options} {name : String} {words : List String}

/-- What becomes of a failure that is dealt with: it is no success, the files are left alone, and
one text at most is printed. -/
structure Handled {α : Type} (good : α) (between : Session) (outcome : Except Failure α × Session) :
    Prop where
  failing : outcome.1 ≠ .ok good
  files : outcome.2.files = between.files
  printed : ∃ texts, outcome.2.printed = between.printed ++ texts ∧ texts.length ≤ 1

/-- A line is printed and then something is given, unless the output does not take the line. -/
theorem perform_print_pure_cases {α : Type} (line : String) (a : α) (surroundings : Surroundings)
    (session : Session) :
    (print line >>= fun _ => pure a : Action α).perform surroundings session =
        (.ok a, session.printing (line ++ "\n")) ∨
      (print line >>= fun _ => pure a : Action α).perform surroundings session =
        (.error (.notPrinted (line ++ "\n")), session) := by
  rw [perform_bind]
  rcases perform_print_cases line surroundings session with ⟨_, performed⟩ | ⟨_, performed⟩ <;>
    rw [performed]
  · exact .inl rfl
  · exact .inr rfl

theorem handled_of_failure {α : Type} {good : α} (failure : Failure) (session : Session) :
    Handled good session (.error failure, session) :=
  ⟨by simp, rfl, [], by simp, by decide⟩

theorem handled_print_pure {α : Type} {good a : α} (differs : a ≠ good) (line : String)
    (surroundings : Surroundings) (session : Session) :
    Handled good session
      ((print line >>= fun _ => pure a : Action α).perform surroundings session) := by
  rcases perform_print_pure_cases line a surroundings session with performed | performed <;>
    rw [performed]
  · exact ⟨by simpa using differs, rfl, [line ++ "\n"], rfl, Nat.le_refl 1⟩
  · exact handled_of_failure _ session

/-- A run that is guarded ends in its status. A failure does not end in success. -/
theorem perform_guarded_cases (name : String) (action : Action Command.Status)
    (surroundings : Surroundings) (session : Session) :
    (∃ status after, action.perform surroundings session = (.ok status, after) ∧
      (guarded name action).perform surroundings session = (.ok status, after)) ∨
    ∃ failure between, action.perform surroundings session = (.error failure, between) ∧
      Handled succeeded between ((guarded name action).perform surroundings session) := by
  rw [guarded, perform_tryCatch]
  rcases action.perform surroundings session with ⟨failure | status, between⟩
  · refine .inr ⟨failure, between, rfl, ?_⟩
    have noted (failure : Failure) : Handled succeeded between ((do
        note ⟨.error, "Error executing " ++ name, some failure⟩
        return failed : Action Command.Status).perform surroundings between) :=
      ⟨nofun, by simp, [], by simp, by decide⟩
    dsimp only
    split
    · exact handled_print_pure (by decide) _ surroundings between
    · exact handled_of_failure _ between
    · exact noted failure
  · exact .inl ⟨status, between, rfl, rfl⟩

/-- Words that do not name a file of log settings. -/
def Unlogged (words : List String) : Prop :=
  ∀ options, Options.read words = .ok options → options.loggingConfig = none

/-- Options that run a command do what it does, with the log as they settle it. -/
theorem perform_runOptions (proper : options.version = false) (busy : options.asksHelp = false)
    (called : options.command = some name) (unlogged : options.loggingConfig = none)
    (surroundings : Surroundings) (session : Session) :
    (runOptions interpreter options).perform surroundings session =
      (guarded name (dispatch interpreter name (options.context surroundings.environment))).perform
        surroundings { session with threshold := levelFor options.verbose } := by
  rw [Options.asksHelp] at busy
  have settled (next : Unit → Action Command.Status) :
      (settleLog options.verbose none >>= next).perform surroundings session =
        (next ()).perform surroundings
          { session with threshold := levelFor options.verbose } := by
    rw [settleLog]
    simp only [perform_bind, perform_pure, perform_modify]
  rw [runOptions, if_neg (by simp [proper])]
  simp only [called, busy, unlogged, Options.context]
  rw [if_neg (by simp), Option.mapM_none, pure_bind, settled]
  cases options.configPath with
  | none => simp only [Option.mapM_none, pure_bind, Option.map_none]
  | some path =>
      simp only [Option.mapM_some, expanded, perform_bind, perform_map, perform_read, perform_pure,
        Except.map, Option.map_some]

theorem finishes_reportUnknown (name : String) :
    Finishes (fun _ => True) (reportUnknown name) :=
  (finishes_print _).bind fun _ _ => (finishes_print _).bind fun _ _ =>
    (finishes_print _).bind fun _ _ => finishes_pure trivial

theorem finishes_explain (name : String) : Finishes (fun _ => True) (explain name) := by
  unfold explain
  split
  · exact (finishes_print _).bind fun _ _ => finishes_pure trivial
  · exact finishes_reportUnknown name

/-- The help of the program is printed, or else nothing is done. -/
theorem finishes_explainProgram : Finishes (fun _ => True) explainProgram := by
  intro surroundings session
  rw [explainProgram, perform_tryCatch, perform_printText]
  cases session.takes session.printed Command.globalHelp with
  | true => exact ⟨session.printing Command.globalHelp, rfl, rfl, .inl ⟨(), rfl, trivial⟩⟩
  | false => exact ⟨session, rfl, rfl, .inl ⟨(), rfl, trivial⟩⟩

/-- Options that run no command only have something printed. -/
theorem runs_or_finishes (options : Options) :
    (∃ name, options.version = false ∧ options.asksHelp = false ∧ options.command = some name) ∨
      Finishes (fun _ => True) (runOptions interpreter options) := by
  unfold runOptions
  cases options.version with
  | true =>
      refine .inr ?_
      exact (finishes_print _).bind fun _ _ => finishes_pure trivial
  | false =>
      cases called : options.command with
      | none => exact .inr (finishes_explainProgram.bind fun _ _ => finishes_pure trivial)
      | some name =>
          cases busy : options.asksHelp with
          | false => exact .inl ⟨name, rfl, rfl, rfl⟩
          | true =>
              rw [Options.asksHelp] at busy
              refine .inr ?_
              simp only [busy]
              exact finishes_explain name

/-- An expected failure of a command is printed, if the output takes it. -/
theorem perform_dispatch_cases {command : Command} (known : Command.ofName? name = some command)
    (context : Command.Context) (surroundings : Surroundings) (session : Session) :
    (∃ status after, (execute interpreter command context).perform surroundings session =
        (.ok status, after) ∧
      (dispatch interpreter name context).perform surroundings session = (.ok status, after)) ∨
    ∃ failure between, (execute interpreter command context).perform surroundings session =
        (.error failure, between) ∧
      ((dispatch interpreter name context).perform surroundings session =
          (.ok failed, between.printing (failure.message ++ "\n")) ∨
        ∃ failure', (dispatch interpreter name context).perform surroundings session =
          (.error failure', between)) := by
  rw [dispatch, known]
  simp only [perform_tryCatch]
  rcases (execute interpreter command context).perform surroundings session with
    ⟨failure | status, between⟩
  · refine .inr ⟨failure, between, rfl, ?_⟩
    dsimp only
    split
    · rcases perform_print_pure_cases failure.message failed surroundings between with
        performed | performed
      · exact .inl performed
      · exact .inr ⟨_, performed⟩
    · exact .inr ⟨failure, rfl⟩
  · exact .inl ⟨status, between, rfl, rfl⟩

theorem perform_run (read : Options.read words = .ok options) (proper : options.version = false)
    (busy : options.asksHelp = false) (called : options.command = some name)
    (unlogged : Unlogged words) (surroundings : Surroundings) (session : Session) :
    let guarding := guarded name
      (dispatch interpreter name (options.context surroundings.environment))
    let outcome :=
      guarding.perform surroundings { session with threshold := levelFor options.verbose }
    (run interpreter words).perform surroundings session =
      (outcome.1.map Ending.ended, outcome.2) := by
  intro guarding outcome
  have ran := perform_runOptions interpreter proper busy called
    (unlogged options read) surroundings session
  rw [run, read]
  simp only [perform_bind, ran]
  change _ = (outcome.1.map Ending.ended, outcome.2)
  rcases same : outcome with ⟨_ | _, _⟩
  all_goals
    rw [show guarding.perform surroundings _ = _ from same]
    rfl

/-- A failure of a command line is handled as that of the command. -/
theorem Handled.ended {between : Session} {outcome : Except Failure Command.Status × Session}
    (handled : Handled succeeded between outcome) :
    Handled (Ending.ended succeeded) between (outcome.1.map Ending.ended, outcome.2) where
  failing := by
    have failing := handled.failing
    rcases outcome with ⟨_ | status, after⟩
    · simp [Except.map]
    · simpa [Except.map] using failing
  files := handled.files
  printed := handled.printed

/-- Words that run a command end in the status that it gives. A failure of the command does not end
in success. -/
theorem perform_run_cases {command : Command} {context : Command.Context}
    (runs : Runs surroundings.environment words command context) (unlogged : Unlogged words)
    (session : Session) :
    ∃ threshold,
      (∃ status after,
        (execute interpreter command context).perform surroundings { session with threshold } =
          (.ok status, after) ∧
        (run interpreter words).perform surroundings session = (.ok (.ended status), after)) ∨
      ∃ failure between,
        (execute interpreter command context).perform surroundings { session with threshold } =
          (.error failure, between) ∧
        Handled (.ended succeeded) between
          ((run interpreter words).perform surroundings session) := by
  obtain @⟨options, name, _, read, proper, busy, called, known⟩ := runs
  refine ⟨levelFor options.verbose, ?_⟩
  rw [perform_run interpreter read proper busy called unlogged]
  rcases perform_dispatch_cases interpreter known
      (options.context surroundings.environment) surroundings
      { session with threshold := levelFor options.verbose } with
    ⟨status, after, executed, dispatched⟩ |
      ⟨failure, between, executed, dispatched | ⟨failure', dispatched⟩⟩ <;>
    rcases perform_guarded_cases name
      (dispatch interpreter name (options.context surroundings.environment)) surroundings
      { session with threshold := levelFor options.verbose } with
      ⟨status', after', dispatched', performed⟩ | ⟨failure'', between', dispatched', handled⟩ <;>
    cases dispatched.symm.trans dispatched'
  · exact .inl ⟨status, after, executed, by rw [performed]; rfl⟩
  · refine .inr ⟨failure, between, executed, ?_⟩
    rw [performed]
    exact ⟨by simp [succeeded, failed, Except.map], rfl, [_], rfl, Nat.le_refl 1⟩
  · exact .inr ⟨failure, between, executed, handled.ended⟩

end OpcachePreload.CommandLine
