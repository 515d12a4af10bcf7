import OpcachePreload.Host
import OpcachePreload.Probe

/-!
# Scripts as hosts

A preload script takes every file as a statement, and reports what the PHP binary that will run it
can do. Nothing is loaded until the script runs.
-/

namespace OpcachePreload.Script

/-- The host that adds statements to a script. -/
def host (probe : Probe) : Host Script where
  load file required :=
    HostAction.update (·.record ⟨if required then .require else .include, file⟩)
  compile file := HostAction.update (·.record ⟨.compile, file⟩)
  capabilities := HostAction.ofAction probe.ask

/-- Write a script to a file. -/
def write (script : Script) (path : Path) : Action Unit := do
  Action.writeInto path script.text
  Action.info ("Wrote preload script with " ++ toString script.statements.size ++
    " statement(s): " ++ toString path)

end OpcachePreload.Script
