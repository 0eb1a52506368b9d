/-
Directives: rules as data. Each says one thing about one family, the one
that its status belongs to, and a list of them is a configuration.
-/
import FaultStatus.Ruleset

namespace FaultStatus

/-- One step of a configuration. -/
inductive Directive where
  /-- Sets the default of a code. -/
  | setDefault (code : Code) (status : StatusValue)
  /-- Sets the override of a code. -/
  | setOverride (code : Code) (status : StatusValue)
  /-- Adds a pattern, as it is written, to those of a code. -/
  | addPrefix (code : Code) (pattern : String) (status : StatusValue)
  /-- Sets the fallback. -/
  | setFallback (status : StatusValue)
  deriving DecidableEq, Repr

namespace Ruleset

/-- The rules after a directive is carried out. -/
def apply (rules : Ruleset) : Directive → Ruleset
  | .setDefault code status =>
    rules.setDefault status.family code status.value
  | .setOverride code status =>
    rules.setOverride status.family code status.value
  | .addPrefix code pattern status =>
    rules.addPrefix status.family code pattern status.value
  | .setFallback status => rules.setFallback status.family status.value

/-- The rules after a list of directives is carried out from first to
last. -/
def applyAll (rules : Ruleset) (directives : List Directive) : Ruleset :=
  directives.foldl apply rules

end Ruleset

end FaultStatus
