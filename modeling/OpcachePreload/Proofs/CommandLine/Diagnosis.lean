import OpcachePreload.Proofs.Command.Outcome

/-!
# Diagnosing before preloading

Preloading into a script succeeds exactly if checking the environment and showing the manifest do
and the script can be written. The class that preloading would not find is the first one that is
shown as stale.
-/

namespace OpcachePreload.CommandLine

open OpcachePreload.Action
open Command (Loads succeeded failed)

/-- Command lines that preload, check and show the manifest with one configuration. They leave to it
what the host is, which manifest is meant and whether the environment is checked. -/
structure Lines (env : Environment) where
  configPath : Option String
  preloading : List String
  checking : List String
  showing : List String
  arguments : List String
  request : Command.Preload.Request
  preloads : Runs env preloading .preload ⟨arguments, configPath⟩
  requested : Command.Preload.Request.read {} arguments = .ok request
  plain : request.runtime = none ∧ request.checkEnvironment = none
  checks : ∃ arguments, Runs env checking .check ⟨arguments, configPath⟩ ∧
    Command.Check.readRuntime none arguments = .ok none
  shows : ∃ arguments shown, Runs env showing .info ⟨arguments, configPath⟩ ∧
    Command.Info.Request.read {} arguments = .ok shown ∧ shown.manifest = none
  unlogged : Unlogged preloading ∧ Unlogged checking ∧ Unlogged showing

section Succeeding

variable (interpreter : Module.Interpreter) (surroundings : Surroundings) (start : Session)
  (words : List String)

/-- Whether words end with exit status zero. -/
def Succeeds : Prop :=
  ((run interpreter words).perform surroundings start).1 = .ok (.ended succeeded)

/-- The texts that words print. -/
def printedBy : List String :=
  ((run interpreter words).perform surroundings start).2.printed.drop start.printed.length

/-- Whether the last that words print is a list of stale classes with the given one in front. -/
def ShowsStale (name : String) : Prop :=
  ∃ texts rest, printedBy interpreter surroundings start words =
    texts ++ Command.Info.staleTexts (name :: rest)

end Succeeding

variable {interpreter : Module.Interpreter} {surroundings : Surroundings} {start : Session}
  {words : List String} {name : String} {command : Command} {context : Command.Context}
  {condition : Prop}

/-- What a command prints is what the command line prints that runs it. -/
theorem succeeds_of_shows (start : Session)
    (runs : Runs surroundings.environment words command context)
    (unlogged : Unlogged words) {texts : List String} {status : Command.Status}
    (shows : ∀ threshold, Shows { start with threshold } texts status
      ((execute interpreter command context).perform surroundings { start with threshold })) :
    (Succeeds interpreter surroundings start words ↔ start.Takes texts ∧ status = succeeded) ∧
      (start.Takes texts → printedBy interpreter surroundings start words = texts) := by
  obtain ⟨threshold, ⟨ended, after, executed, performed⟩ |
    ⟨failure, between, executed, handled⟩⟩ := perform_run_cases interpreter runs unlogged start
  · have shown := shows threshold
    rw [executed] at shown
    have taken : start.Takes texts := by
      by_contra refused
      obtain ⟨text, ⟨⟩⟩ := shown.refused refused
    obtain ⟨given, printed⟩ := shown.taken taken
    obtain rfl := Except.ok.inj given
    refine ⟨?_, fun _ => ?_⟩
    · simp [Succeeds, performed, taken]
    · rw [printedBy, performed, printed]
      exact List.drop_left
  · have shown := shows threshold
    rw [executed] at shown
    have refused : ¬start.Takes texts := by
      intro taken
      cases (shown.taken taken).1
    exact ⟨⟨fun ends => absurd ends handled.failing, fun both => absurd both.1 refused⟩,
      fun taken => absurd taken refused⟩

/-- With an output that takes everything a command line succeeds if its command does. With another
one it succeeds if moreover the output takes what is printed then. -/
theorem succeeds_iff_of_concludes (runs : Runs surroundings.environment words command context)
    (unlogged : Unlogged words)
    (concludes : Command.Concludes surroundings start (execute interpreter command context)
      condition) :
    (Succeeds interpreter surroundings start.opened words ↔ condition) ∧
      (Succeeds interpreter surroundings start words ↔ condition ∧
        start.Takes (printedBy interpreter surroundings start.opened words)) := by
  rcases concludes with ⟨texts, holds, shows⟩ | ⟨fails, ends⟩
  · obtain ⟨opened, printed⟩ := succeeds_of_shows start.opened runs unlogged
      fun _ => shows _ rfl rfl
    obtain ⟨closed, _⟩ := succeeds_of_shows start runs unlogged fun _ => shows _ rfl rfl
    have taken := start.takes_opened texts
    rw [printed taken]
    exact ⟨by simp [opened, taken, holds], by simp [closed, holds]⟩
  · have unsuccessful (session : Session) (held : session.files = start.files)
        (device : session.stores = start.stores) :
        ¬Succeeds interpreter surroundings session words := by
      intro succeeds
      obtain ⟨threshold, ⟨status, after, executed, performed⟩ |
        ⟨failure, between, executed, handled⟩⟩ :=
          perform_run_cases interpreter runs unlogged session
      · rw [Succeeds, performed] at succeeds
        obtain rfl := Ending.ended.inj (Except.ok.inj succeeds)
        exact ends { session with threshold } held device (congrArg Prod.fst executed)
      · exact handled.failing succeeds
    exact ⟨⟨fun succeeds => absurd succeeds (unsuccessful _ rfl rfl), fun holds =>
      absurd holds fails⟩,
      ⟨fun succeeds => absurd succeeds (unsuccessful _ rfl rfl), fun both => absurd both.1 fails⟩⟩

/-! ## What is printed last -/

theorem rest_eq_of_append_cons_eq {α : Type} (marked : α → Prop)
    {before before' after after' : List α} {mark mark' : α} (is_marked : marked mark)
    (is_marked' : marked mark')
    (plain : ∀ a ∈ after, ¬marked a) (plain' : ∀ a ∈ after', ¬marked a)
    (same : before ++ mark :: after = before' ++ mark' :: after') : after = after' := by
  rcases List.append_eq_append_iff.mp same with ⟨more, _, split⟩ | ⟨more, _, split⟩
  · cases more with
    | nil => exact (List.cons.inj split).2
    | cons first more =>
        have later : mark' ∈ after := by
          rw [(List.cons.inj split).2]
          simp
        exact absurd is_marked' (plain mark' later)
  · cases more with
    | nil => exact (List.cons.inj split).2.symm
    | cons first more =>
        have later : mark ∈ after' := by
          rw [(List.cons.inj split).2]
          simp
        exact absurd is_marked (plain' mark later)

/-- Whether a text starts a paragraph. -/
def StartsParagraph (text : String) : Prop := text.toList.head? = some '\n'

theorem startsParagraph_cleanText : StartsParagraph Command.Info.cleanText :=
  rfl

theorem not_startsParagraph_item {items : List String} :
    ∀ text ∈ items.map fun name => "  - " ++ name ++ "\n", ¬StartsParagraph text := by
  simp [StartsParagraph]

/-- Lists of stale classes that are printed last are the same if what is printed is. -/
theorem eq_of_append_staleTexts_eq {texts texts' stale stale' : List String}
    (same : texts ++ Command.Info.staleTexts stale = texts' ++ Command.Info.staleTexts stale') :
    stale = stale' := by
  have items := rest_eq_of_append_cons_eq StartsParagraph (by simp [StartsParagraph])
    (by simp [StartsParagraph]) not_startsParagraph_item not_startsParagraph_item same
  refine List.map_inj_right ?_ |>.mp items
  intro first second same_item
  simpa using same_item

theorem append_cleanText_ne {texts texts' rest : List String} :
    texts ++ [Command.Info.cleanText] ≠ texts' ++ Command.Info.staleTexts (name :: rest) := by
  intro same
  have items := rest_eq_of_append_cons_eq StartsParagraph startsParagraph_cleanText
    (by simp [StartsParagraph]) (by simp) not_startsParagraph_item same
  simp at items

/-- The list of stale classes that is shown starts with the first class of the manifest that the
class map does not know. -/
theorem showsStale_iff {arguments : List String} {configPath : Option String}
    {shown : Command.Info.Request}
    (runs : Runs surroundings.environment words .info ⟨arguments, configPath⟩)
    (unlogged : Unlogged words) (asked : Command.Info.Request.read {} arguments = .ok shown)
    (unnamed : shown.manifest = none) :
    ShowsStale interpreter surroundings start.opened words name ↔
      ∃ settings replay, Loads surroundings start.files ⟨arguments, configPath⟩ settings ∧
        (settings.replay none none).outcome surroundings start.files = .ok replay ∧
        (Command.Info.stale replay.manifest replay.classMap).head? = some name := by
  rcases Command.Info.execute_cases unnamed ⟨arguments, configPath⟩ asked surroundings
    start.files with
    ⟨settings, replay, loads, ready, page, shows⟩ | ⟨not_ready, ends⟩
  · have executed : ∀ threshold, Shows { start.opened with threshold } _ _
        ((execute interpreter .info ⟨arguments, configPath⟩).perform surroundings
          { start.opened with threshold }) := fun threshold => shows _ rfl
    rw [ShowsStale, (succeeds_of_shows start.opened runs unlogged executed).2
      (start.takes_opened _)]
    constructor
    · rintro ⟨texts, rest, same⟩
      refine ⟨settings, replay, loads, ready, ?_⟩
      unfold Command.Info.lastTexts at same
      split at same
      · exact absurd same append_cleanText_ne
      · rw [eq_of_append_staleTexts_eq same]
        rfl
    · rintro ⟨other, replay', loads', ready', first⟩
      obtain rfl := loads.unique loads'
      obtain rfl := Except.ok.inj (ready.symm.trans ready')
      obtain ⟨rest, split⟩ := List.head?_eq_some_iff.mp first
      refine ⟨page, rest, ?_⟩
      simp [Command.Info.lastTexts, split]
  · constructor
    · rintro ⟨texts, rest, same⟩
      -- Nothing but the wording of a failure is printed, which is too short for a list.
      have few : (printedBy interpreter surroundings start.opened words).length ≤ 1 := by
        obtain ⟨threshold, ⟨_, after, executed, performed⟩ |
          ⟨_, between, executed, handled⟩⟩ :=
            perform_run_cases interpreter runs unlogged start.opened
        · have nothing : after.printed = start.printed := by
            rw [← show _ = after.printed from congrArg (·.2.printed) executed]
            exact (ends { start.opened with threshold } rfl).2
          rw [printedBy, performed, nothing]
          simp [Session.opened]
        · have nothing : between.printed = start.printed := by
            rw [← show _ = between.printed from congrArg (·.2.printed) executed]
            exact (ends { start.opened with threshold } rfl).2
          obtain ⟨message, printed, short⟩ := handled.printed
          rw [printedBy, printed, nothing]
          simpa [Session.opened] using short
      rw [same, Command.Info.staleTexts] at few
      simp only [List.length_append, List.length_cons, List.length_map] at few
      omega
    · rintro ⟨settings, replay, loads, ready, _⟩
      exact absurd ready (not_ready settings replay loads)

/-! ## Predicting -/

theorem outcome_classFiles_eq_unknownClass_iff {files : FileTree} {replay : Replay} :
    replay.classFiles.outcome surroundings files = .error (.unknownClass name) ↔
      (Command.Info.stale replay.manifest replay.classMap).head? = some name := by
  rw [← Command.Info.filesOf_eq_error_iff_head?]
  cases found : Replay.filesOf replay.classMap replay.manifest.classes with
  | ok classFiles => simp [outcome, Replay.perform_classFiles_of_ok found]
  | error other =>
      obtain ⟨after, performed⟩ :=
        Replay.perform_classFiles_of_error found surroundings { files }
      simp [outcome, performed]

namespace Lines

variable (lines : Lines surroundings.environment)

/-- Settings that are loaded, and the manifest about to be replayed with them. -/
def Ready (files : FileTree) (settings : Settings) (replay : Replay) : Prop :=
  Loads surroundings files ⟨[], lines.configPath⟩ settings ∧
    (settings.replay none none).outcome surroundings files = .ok replay

theorem showing_concludes (interpreter : Module.Interpreter) (start : Session) :
    ∃ arguments, Runs surroundings.environment lines.showing .info
      ⟨arguments, lines.configPath⟩ ∧
    Command.Concludes surroundings start
      (execute interpreter .info ⟨arguments, lines.configPath⟩)
      (∃ settings replay, lines.Ready start.files settings replay ∧
        Command.Info.stale replay.manifest replay.classMap = []) := by
  obtain ⟨arguments, shown, runs, asked, unnamed⟩ := lines.shows
  simp only [Ready, and_assoc]
  exact ⟨arguments, runs, Command.Info.concludes_execute unnamed asked⟩

theorem showsStale_iff (name : String) :
    ShowsStale interpreter surroundings start.opened lines.showing name ↔
      ∃ settings replay, lines.Ready start.files settings replay ∧
        (Command.Info.stale replay.manifest replay.classMap).head? = some name := by
  obtain ⟨arguments, shown, runs, asked, unnamed⟩ := lines.shows
  simp only [CommandLine.showsStale_iff runs lines.unlogged.2.2 asked unnamed, Ready, and_assoc]
  rfl

variable (php : ∀ settings, Loads surroundings start.files ⟨[], lines.configPath⟩ settings →
  settings.loader.runtime = .script ∧ settings.loader.checkEnvironment = true)

/-- The loader settings of the check, with a binary that can preload. -/
def Checked (files : FileTree) : Prop :=
  ∃ loader, (Command.Check.loaderSettings ⟨[], lines.configPath⟩).outcome surroundings files =
    .ok (some loader) ∧ loader.probe.verdict surroundings.process = .ok ()

theorem checked_iff {files : FileTree} {settings : Settings}
    (loads : Loads surroundings files ⟨[], lines.configPath⟩ settings) :
    lines.Checked files ↔ settings.loader.probe.verdict surroundings.process = .ok () := by
  simp [Checked, Command.Check.outcome_loaderSettings loads]

include php

theorem checking_concludes (interpreter : Module.Interpreter) :
    ∃ arguments, Runs surroundings.environment lines.checking .check
      ⟨arguments, lines.configPath⟩ ∧
    Command.Concludes surroundings start
      (execute interpreter .check ⟨arguments, lines.configPath⟩) (lines.Checked start.files) := by
  obtain ⟨arguments, runs, asked⟩ := lines.checks
  refine ⟨arguments, runs, Command.Check.concludes_execute asked fun loader settled => ?_⟩
  rcases Command.Check.loads_or_usual settled with ⟨settings, loads, rfl⟩ | rfl
  · exact (php settings loads).1
  · rfl

theorem preloading_concludes (interpreter : Module.Interpreter) :
    Command.Concludes surroundings start
      (execute interpreter .preload ⟨lines.arguments, lines.configPath⟩)
      (∃ settings replay, lines.Ready start.files settings replay ∧ lines.Checked start.files ∧
        Command.Info.stale replay.manifest replay.classMap = [] ∧
        Command.Preload.ScriptStored surroundings start lines.request settings) := by
  have php :
    ∀ settings, Loads surroundings start.files ⟨lines.arguments, lines.configPath⟩ settings →
    settings.loader.runtime = .script ∧ settings.loader.checkEnvironment = true := php
  have concludes : Command.Concludes surroundings start
      (execute interpreter .preload ⟨lines.arguments, lines.configPath⟩) _ :=
    Command.Preload.concludes_execute lines.requested lines.plain.1 lines.plain.2 php
  refine concludes.congr ?_
  simp only [Command.Preload.replayedFor, Settings.replayed_succeeds_iff,
    ← Command.Info.exists_filesOf_iff_stale_eq_nil]
  constructor
  · rintro ⟨settings, loads, ⟨replay, classFiles, ready, verdict, found⟩, stored⟩
    exact ⟨settings, replay, ⟨loads, ready⟩, (lines.checked_iff loads).mpr verdict,
      ⟨classFiles, found⟩, stored⟩
  · rintro ⟨settings, replay, ⟨loads, ready⟩, checked, ⟨classFiles, found⟩, stored⟩
    exact ⟨settings, loads,
      ⟨replay, classFiles, ready, (lines.checked_iff loads).mp checked, found⟩,
      stored⟩

theorem preloading_eq_unknownClass_iff (name : String) :
    (execute interpreter .preload ⟨lines.arguments, lines.configPath⟩).outcome surroundings
        start.files = .error (.unknownClass name) ↔
      ∃ settings replay, lines.Ready start.files settings replay ∧ lines.Checked start.files ∧
        (Command.Info.stale replay.manifest replay.classMap).head? = some name := by
  have php :
    ∀ settings, Loads surroundings start.files ⟨lines.arguments, lines.configPath⟩ settings →
    settings.loader.runtime = .script ∧ settings.loader.checkEnvironment = true := php
  have executed : (execute interpreter .preload ⟨lines.arguments, lines.configPath⟩).outcome
      surroundings start.files = .error (.unknownClass name) ↔ _ :=
    Command.Preload.execute_eq_unknownClass_iff lines.requested lines.plain.1 lines.plain.2 php
  simp only [Command.Preload.replayedFor, Settings.replayed_eq_unknownClass_iff,
    Command.Info.filesOf_eq_error_iff_head?] at executed
  refine executed.trans ?_
  constructor
  · rintro ⟨settings, loads, replay, ready, verdict, first⟩
    exact ⟨settings, replay, ⟨loads, ready⟩, (lines.checked_iff loads).mpr verdict, first⟩
  · rintro ⟨settings, replay, ⟨loads, ready⟩, checked, first⟩
    exact ⟨settings, loads, replay, ready, (lines.checked_iff loads).mp checked, first⟩

end Lines

/-- A session in a project with one class, whose manifest lists some classes. The output takes some
texts and no more. -/
def projectSession (classes : String) (texts : Nat) : Session where
  files := ⟨[
    (["srv"], .directory),
    (["srv", "preload.json"], .file (Text.Utf8.encode "\x7b\"class_map\": \"cm.json\"\x7d".toList)),
    (["srv", "cm.json"], .file (Text.Utf8.encode "\x7b\"A\": \"/srv/a.php\"\x7d".toList)),
    (["srv", "var"], .directory),
    (["srv", "var", "preload.json"], .file (Text.Utf8.encode
      ("\x7b\"classes\": [" ++ classes ++ "], \"files\": [], \"compile\": []\x7d").toList))]⟩
  takes printed _ := printed.length < texts

/-- Its surroundings: the PHP binary can preload. -/
def projectSurroundings : Surroundings :=
  ⟨["srv"], .empty, .finished ("\x7b\"enable\": true, \"enable_cli\": true, " ++
    "\"compile_file\": true, \"sapi\": \"cli\"\x7d") 0, false, .ordinary⟩

/-- The command lines that name its configuration. -/
def projectLines : Lines projectSurroundings.environment where
  configPath := some (toString (Environment.path .empty (toString (Path.ofString "preload.json"))))
  preloading := ["-c", "preload.json", "preload"]
  checking := ["-c", "preload.json", "check"]
  showing := ["-c", "preload.json", "info"]
  arguments := []
  request := {}
  preloads := .intro (rfl : Options.read ["-c", "preload.json", "preload"] =
    .ok { configPath := some (.ofString "preload.json"), command := some "preload" })
      rfl rfl rfl rfl
  requested := rfl
  plain := ⟨rfl, rfl⟩
  checks := ⟨[], .intro (rfl : Options.read ["-c", "preload.json", "check"] =
    .ok { configPath := some (.ofString "preload.json"), command := some "check" }) rfl rfl rfl rfl,
    rfl⟩
  shows := ⟨[], {}, .intro (rfl : Options.read ["-c", "preload.json", "info"] =
    .ok { configPath := some (.ofString "preload.json"), command := some "info" }) rfl rfl rfl rfl,
    rfl, rfl⟩
  unlogged := by
    refine ⟨?_, ?_, ?_⟩ <;> rintro _ ⟨⟩ <;> rfl

/-- Whether words end with exit status zero in the project. -/
def projectSucceeds (start : Session) (words : List String) : Bool :=
  ((run Module.sources words).perform projectSurroundings start).1.toOption =
    some (.ended succeeded)

theorem succeeds_iff_projectSucceeds (start : Session) (words : List String) :
    Succeeds Module.sources projectSurroundings start words ↔
      projectSucceeds start words = true := by
  unfold Succeeds projectSucceeds
  generalize ((run Module.sources words).perform projectSurroundings start).1 = result
  cases result <;> simp [Except.toOption]

/-- What executing the preloading comes to on some files. -/
def projectOutcome (files : FileTree) : Except Failure Command.Status :=
  (execute Module.sources .preload ⟨[], projectLines.configPath⟩).outcome projectSurroundings files

/-- The settings that the configuration of the project gives on some files. -/
def projectSettings (files : FileTree) : Except Failure (Option Settings) :=
  (Command.loadSettings ⟨[], projectLines.configPath⟩).outcome projectSurroundings files

/-- Whether these are for PHP, with a check of the environment. -/
def projectScripted (files : FileTree) : Bool :=
  (projectSettings files).toOption.all (·.all fun settings =>
    settings.loader.runtime = .script && settings.loader.checkEnvironment)

theorem scripted_of_projectScripted {files : FileTree} (said : projectScripted files = true)
    (settings : Settings)
    (loads : Loads projectSurroundings files ⟨[], projectLines.configPath⟩ settings) :
    settings.loader.runtime = .script ∧ settings.loader.checkEnvironment = true := by
  have given : projectSettings files = .ok (some settings) := loads
  rw [projectScripted, given] at said
  simpa [Except.toOption] using said

/-- A project whose manifest lists its class. -/
abbrev wholeProject : Session := projectSession "\"A\"" 2

/-- A project whose manifest lists another class too. -/
abbrev staleProject : Session := projectSession "\"A\", \"B\"" 2

end OpcachePreload.CommandLine
