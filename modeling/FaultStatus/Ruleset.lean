/-
The rules that a service collects before it answers anything: per family,
defaults and overrides of single codes, patterns on reasons, and a
fallback. Collecting never fails. A later default, override or fallback
replaces an earlier one in the same place; patterns are kept as they were
written, one after the other, and are looked at when the rules are
compiled (`Compile`).
-/
import Std.Data.TreeMap.Basic
import FaultStatus.Defaults

namespace FaultStatus

/-- A table with at most one entry per code, ascending by code. -/
abbrev CodeMap (α : Type) := Std.TreeMap Code α

/-- A pattern as it was written, and the status that it leads to. -/
structure PrefixRule (V : Type) where
  /-- The text of the pattern, not yet brought into canonical spelling. -/
  pattern : String
  /-- The status when the pattern is the most specific that matches. -/
  value : V
  deriving DecidableEq, Repr

/-- The rules of one family. -/
structure RuleTable (V : Type) where
  /-- The statuses of codes whose reason no pattern matches. -/
  defaults : CodeMap V
  /-- The statuses of codes whatever their reason. -/
  overrides : CodeMap V
  /-- The patterns of each code in the order in which they came. -/
  prefixRules : CodeMap (List (PrefixRule V))
  /-- The status of codes that have none. -/
  fallback : V

namespace RuleTable

variable {V : Type}

/-- The rules before any is added: built-in defaults and a fallback. -/
def seeded (table : List (Code × V)) (fallback : V) : RuleTable V where
  defaults := .ofList table
  overrides := {}
  prefixRules := {}
  fallback := fallback

/-- The default of a code. -/
def defaultFor? (rules : RuleTable V) (code : Code) : Option V :=
  rules.defaults[code]?

/-- The override of a code. -/
def overrideFor? (rules : RuleTable V) (code : Code) : Option V :=
  rules.overrides[code]?

/-- The patterns of a code in the order in which they came. -/
def prefixRulesFor (rules : RuleTable V) (code : Code) :
    List (PrefixRule V) :=
  rules.prefixRules.getD code []

/-- The number of patterns of all codes together. -/
def prefixRuleCount (rules : RuleTable V) : Nat :=
  rules.prefixRules.foldl (fun n _ list => n + list.length) 0

/-- Sets the default of a code. -/
def setDefault (rules : RuleTable V) (code : Code) (value : V) :
    RuleTable V :=
  { rules with defaults := rules.defaults.insert code value }

/-- Sets the override of a code. -/
def setOverride (rules : RuleTable V) (code : Code) (value : V) :
    RuleTable V :=
  { rules with overrides := rules.overrides.insert code value }

/-- Adds a pattern after those that a code has. -/
def addPrefix (rules : RuleTable V) (code : Code) (pattern : String)
    (value : V) : RuleTable V :=
  { rules with
    prefixRules := rules.prefixRules.insert code
      (rules.prefixRulesFor code ++ [{ pattern, value }]) }

/-- Sets the fallback. -/
def setFallback (rules : RuleTable V) (value : V) : RuleTable V :=
  { rules with fallback := value }

end RuleTable

/-- The rules of both families. -/
abbrev Ruleset := PerFamily RuleTable

namespace Ruleset

/-- The rules before any is added. -/
def initial : Ruleset where
  http := .seeded Defaults.http Defaults.httpFallback
  grpc := .seeded Defaults.grpc Defaults.grpcFallback

/-- Sets the default of a code in one family. -/
def setDefault (rules : Ruleset) (family : Family) (code : Code)
    (value : family.Value) : Ruleset :=
  rules.modify family (·.setDefault code value)

/-- Sets the override of a code in one family. -/
def setOverride (rules : Ruleset) (family : Family) (code : Code)
    (value : family.Value) : Ruleset :=
  rules.modify family (·.setOverride code value)

/-- Adds a pattern to those of a code in one family. -/
def addPrefix (rules : Ruleset) (family : Family) (code : Code)
    (pattern : String) (value : family.Value) : Ruleset :=
  rules.modify family (·.addPrefix code pattern value)

/-- Sets the fallback of one family. -/
def setFallback (rules : Ruleset) (family : Family)
    (value : family.Value) : Ruleset :=
  rules.modify family (·.setFallback value)

end Ruleset

end FaultStatus
