import OpcachePreload.Module.Host
import OpcachePreload.Proofs.Action.Frame

/-!
# Executing and compiling sources

Executing or compiling a source, as far as that is told here, only reads it.
-/

namespace OpcachePreload.Module

open OpcachePreload.Action

variable {path : Path} {surroundings : Surroundings} {session : Session} {bytes : List UInt8}

theorem observes_run (path : Path) : Observes (run path) := by
  refine (observes_readBytes path).bind fun bytes => ?_
  split
  · exact observes_pure ()
  · exact observes_fail _
  · exact observes_fail _

theorem observes_sourceBytes (file : String) : Observes (sourceBytes file) := by
  have rest : Observes (do
      let bytes ← Action.ask file fun tree directory => tree.read directory (.ofString file)
      if file.toList.getLast? = some '/' then Action.fail (.unusablePath .notADirectory file)
      return bytes) :=
    (observes_ask _ _).bind fun bytes =>
      ((observes_fail _).bind fun _ => observes_pure bytes).ite (observes_pure bytes)
  exact ((observes_fail _).bind fun _ => rest).ite rest

theorem observes_compile (file : String) : Observes (compile file) :=
  (observes_sourceBytes file).bind fun _ => (observes_fail _).ite (observes_pure ())

end OpcachePreload.Module
