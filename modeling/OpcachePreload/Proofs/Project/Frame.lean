import OpcachePreload.Proofs.Module.Sources
import OpcachePreload.Proofs.Settings.Expand
import OpcachePreload.Proofs.Settings.Load

/-!
# Building and replaying leave the files alone

Building a manifest only reads files, and changes neither the device nor the output. So does
replaying one: hosts record, execute or compile what they are handed, and the environment is asked
through a process.
-/

namespace OpcachePreload

open OpcachePreload.Action

variable {γ : Type} {view : Session → γ}

/-! ## Hosts -/

/-- A host all of whose operations leave a view of the session as it is. -/
structure Host.Keeps {σ : Type} (view : Session → γ) (host : Host σ) : Prop where
  load : ∀ file required, (host.load file required).Keeps view
  compile : ∀ file, (host.compile file).Keeps view
  capabilities : host.capabilities.Keeps view

theorem Probe.keeps_ask (silent : Silent view) (probe : Probe) : Keeps view probe.ask := by
  refine Keeps.bind ?_ fun _ => keeps_read.bind fun _ => keeps_ofExcept _ _
  exact keeps_modify fun session => silent session _ _ _ _

theorem Script.keeps_host (silent : Silent view) (probe : Probe) :
    (Script.host probe).Keeps view where
  load _ _ := HostAction.keeps_update _
  compile _ := HostAction.keeps_update _
  capabilities := HostAction.keeps_ofAction (probe.keeps_ask silent)

namespace Module

theorem keeps_resolve (silent : Silent view) (path : Path) : Action.Keeps view (resolve path) := by
  have rest : Action.Keeps view (do
      let path ← absolute path
      return (⟨.slash, (← read).system.resolver.resolve path.names⟩ : Path)) :=
    ((observes_absolute path).keeps_silent silent).bind fun _ =>
      keeps_read.bind fun _ => keeps_pure _
  exact ((keeps_fail _).bind fun _ => rest).ite rest

/-- An interpreter that leaves a view of the session as it is. -/
structure Interpreter.Keeps (view : Session → γ) (interpreter : Interpreter) : Prop where
  run : ∀ path, Action.Keeps view (interpreter.run path)
  compile : ∀ file, Action.Keeps view (interpreter.compile file)

namespace Interpreter

variable {interpreter : Interpreter}

theorem Keeps.enter (keeps : interpreter.Keeps view) (silent : Silent view) (path : Path) :
    Action.Keeps view (interpreter.enter path) := by
  refine Action.Keeps.bind (keeps_modify fun session => silent session _ _ _ _) fun _ => ?_
  refine Action.Keeps.bind ((keeps.run path).tryCatch fun failure => ?_) fun _ =>
    keeps_modify fun session => silent session _ _ _ _
  exact Action.Keeps.bind (keeps_modify fun session => silent session _ _ _ _) fun _ =>
    keeps_fail failure

theorem Keeps.execute (keeps : interpreter.Keeps view) (silent : Silent view) (path : Path) :
    Action.Keeps view (interpreter.execute path) := by
  have entering := keeps.enter silent path
  refine keeps_get.bind fun _ => (keeps_pure ()).ite ?_
  exact ((keeps_fail _).bind fun _ => entering).ite entering

theorem Keeps.loadResolved (keeps : interpreter.Keeps view) (silent : Silent view) (path : Path)
    (required : Bool) : Action.Keeps view (interpreter.loadResolved path required) := by
  refine ((observes_isFile path).keeps_silent silent).bind fun found => ?_
  split
  · exact (keeps.execute silent path).bind fun _ => keeps_pure true
  split
  · exact (keeps_note silent _).bind fun _ => keeps_fail _
  · exact (keeps_note silent _).bind fun _ => keeps_pure false

theorem keeps_capabilities (interpreter : Interpreter) : interpreter.host.capabilities.Keeps view :=
  HostAction.keeps_read.bind fun _ => HostAction.keeps_pure _

theorem Keeps.host (keeps : interpreter.Keeps view) (silent : Silent view) :
    interpreter.host.Keeps view where
  load file required := by
    refine (HostAction.keeps_ofAction (keeps_resolve silent _)).bind fun path =>
      HostAction.keeps_state.bind fun state => ?_
    split
    · exact HostAction.keeps_pure ()
    · refine (HostAction.keeps_ofAction (keeps.loadResolved silent _ _)).bind fun executed => ?_
      split
      · exact HostAction.keeps_update _
      · exact HostAction.keeps_pure ()
  compile file := (HostAction.keeps_ofAction (keeps.compile file)).bind fun _ =>
    HostAction.keeps_update _
  capabilities := keeps_capabilities interpreter

end Interpreter

theorem keeps_sources (silent : Silent view) : sources.Keeps view where
  run path := (observes_run path).keeps_silent silent
  compile file := (observes_compile file).keeps_silent silent

end Module

/-! ## Replaying -/

section

variable {σ : Type} {host : Host σ}

theorem Host.keeps_check (keeps : host.capabilities.Keeps view) : host.check.Keeps view := by
  refine keeps.bind fun capabilities => ?_
  split
  · exact HostAction.keeps_pure ()
  · exact HostAction.keeps_throw _

theorem Host.Keeps.takeAll (keeps : host.Keeps view) (steps : List Step) :
    (Replay.takeAll host steps).Keeps view := by
  induction steps with
  | nil => exact HostAction.keeps_pure ()
  | cons step rest ih =>
      refine HostAction.Keeps.bind ?_ fun _ => ih
      cases step with
      | load file required => exact keeps.load file required
      | compile file => exact keeps.compile file

theorem Replay.keeps_classFiles (silent : Silent view) (replay : Replay) :
    Action.Keeps view replay.classFiles := by
  unfold classFiles
  split
  · exact keeps_pure _
  · exact (keeps_note silent _).bind fun _ => keeps_fail _

theorem Host.Keeps.run (keeps : host.Keeps view) (silent : Silent view) (replay : Replay)
    (includeOnly : Bool) : (replay.run host includeOnly).Keeps view :=
  (HostAction.keeps_ofAction (replay.keeps_classFiles silent)).bind fun _ =>
    (keeps.takeAll _).bind fun _ => (HostAction.keeps_ofAction (keeps_note silent _)).bind fun _ =>
      HostAction.keeps_pure _

end

namespace Settings

variable (settings : Settings) (silent : Silent view)

include silent

theorem keeps_classMapOr (classMap : Option ClassMap) :
    Keeps view (settings.classMapOr classMap) := by
  cases classMap with
  | none => exact settings.observes_loadClassMap.keeps_silent silent
  | some classMap => exact keeps_pure classMap

theorem keeps_replay (classMap : Option ClassMap) (manifest : Option Path) :
    Keeps view (settings.replay classMap manifest) :=
  (settings.keeps_classMapOr silent classMap).bind fun _ =>
    ((settings.observes_manifestPath manifest).keeps_silent silent).bind fun path =>
      ((Manifest.observes_load path).keeps_silent silent).bind fun _ => keeps_pure _

/-- Replaying leaves alone what the host does. -/
theorem keeps_runReplay {σ : Type} {host : Host σ} (keeps : host.Keeps view)
    (classMap : Option ClassMap) (includeOnly checkEnvironment : Option Bool) :
    (settings.runReplay host classMap includeOnly checkEnvironment).Keeps view := by
  refine (HostAction.keeps_ofAction (settings.keeps_replay silent classMap none)).bind
    fun replay => ?_
  split
  · exact (Host.keeps_check keeps.capabilities).bind fun _ => keeps.run silent replay _
  · exact keeps.run silent replay _

/-! ## Building -/

omit silent in
theorem keeps_applied (builder : Builder) (operations : List Builder.Operation) :
    Keeps view (applied builder operations) := by
  refine keeps_get.bind fun session => keeps_read.bind fun surroundings => ?_
  dsimp only
  split
  · exact keeps_pure _
  · exact keeps_fail _

/-- Building a manifest leaves the files alone, and where changes go. -/
theorem keeps_build (classMap : Option ClassMap) : Keeps view (settings.build classMap) := by
  have expand (entries : List String) : Keeps view (settings.expand entries) :=
    (observes_expand entries).keeps_silent silent
  exact (settings.keeps_classMapOr silent classMap).bind fun _ =>
    (keeps_applied _ _).bind fun _ => (expand _).bind fun _ => (expand _).bind fun _ =>
      (keeps_note silent _).bind fun _ => (keeps_applied _ _).bind fun _ => (expand _).bind fun _ =>
        (keeps_applied _ _).bind fun _ => (expand _).bind fun _ => (keeps_applied _ _).bind fun _ =>
          (keeps_note silent _).bind fun _ => keeps_pure _

end Settings

end OpcachePreload
