import OpcachePreload.Pattern.Problem

/-!
# What is wrong with settings

Every value of the settings that is not of its field's kind is reported, with the place where it
stands: the fields and list positions on the way to it.
-/

namespace OpcachePreload.Settings

/-- Why a value does not fit. -/
inductive Misfit where
  | notText
  | notValidText
  | notAList
  | notAPath
  | notAMapping
  | notAChoice
  /-- Of a kind that no truth value is written in. -/
  | notABoolean
  /-- A text or number that is not the writing of a truth value. -/
  | notABooleanText
  | unknownField
  | fieldNotText
  | badPattern (pattern : String) (rejection : Pattern.Rejection)
  deriving DecidableEq, Repr

/-- A value that does not fit, and where it stands. -/
structure Fault where
  place : List String
  misfit : Misfit
  deriving DecidableEq, Repr

/-- What is said about a bad pattern in addition to the kind of the misfit. -/
def Misfit.detail? : Misfit → Option String
  | badPattern pattern rejection =>
    let reason := rejection.message pattern
    some ("Value error, " ++
      match rejection with
      | .malformed _ _ => "Invalid pattern " ++ Text.quoted pattern ++ ": " ++ reason
      | .countTooLarge | .countTooLong _ | .contradictoryFlags => reason)
  | _ => none

/-- Where variables that override settings come from. -/
inductive VariableSource where
  | environment
  | file
  deriving DecidableEq, Repr

/-- The name of a source in diagnostics. -/
def VariableSource.name : VariableSource → String
  | environment => "EnvSettingsSource"
  | file => "DotEnvSettingsSource"

end OpcachePreload.Settings
