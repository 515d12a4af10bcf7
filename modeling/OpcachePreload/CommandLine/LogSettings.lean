import OpcachePreload.Action.Basic

/-!
# Settings of the log

How many records are noted is decided by how often that is asked for on the command line, or by a
file of log settings. A file also says where the records go.
-/

namespace OpcachePreload.CommandLine

/-- The level for a count of requests to say more. -/
def levelFor : (verbose : Nat) → Level
  | 0 => .warning
  | 1 => .info
  | _ => .debug

/-- Settle what is noted by a file of log settings that is there. -/
def settleByFile (path : Path) : Action Unit := do
  let surroundings ← read
  let setup := surroundings.system.logSetup surroundings.directory (← get).files path
  modify fun session => { session with files := setup.files, redirected := true }
  let threshold ← Action.ofExcept .foreign setup.threshold
  modify fun session => { session with threshold }

/-- Settle what is noted by a file, if it is there, or else by how often that was asked for. -/
def settleLog (verbose : Nat) (file : Option Path) : Action Unit := do
  let present ← match file with
    | none => pure none
    | some path => do if ← Action.exists? path then pure (some path) else pure none
  match present with
  | some path => settleByFile path
  | none => modify fun session => { session with threshold := levelFor verbose }

end OpcachePreload.CommandLine
