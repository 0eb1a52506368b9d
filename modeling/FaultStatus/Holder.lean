/-
Holders: a snapshot that is in force and is exchanged from time to time.
New rules are compiled as a whole first, and take effect only if that
succeeds; a snapshot that was handed out before stays as it is. The one in
force is looked at and exchanged in single steps, between which others may
exchange it.
-/
import FaultStatus.Compile

namespace FaultStatus

/-- What holds the snapshot in force. -/
structure Holder where
  /-- The snapshot in force. -/
  current : Snapshot

namespace Holder

/-- The holder of the built-in tables. -/
def builtIn : Holder := { current := .builtIn }

/-- The snapshot in force. -/
def load : Query Holder Snapshot := return (← Query.state).current

/-- Puts a snapshot in force; answers with the one that was so before. -/
def replace (holder : Holder) (snapshot : Snapshot) :
    Logged (Snapshot × Holder) := do
  Logged.tell .replaced
  return (holder.current, { current := snapshot })

/-- Puts the snapshot of new rules in force. If they cannot be compiled,
the snapshot in force stays. -/
def reloadFrom (holder : Holder) (rules : Ruleset) :
    Logged (Except BuildError Unit × Holder) := do
  match ← rules.build with
  | .ok snapshot =>
    Logged.tell .reloaded
    return (.ok (), { current := snapshot })
  | .error error =>
    Logged.tell (.reloadRejected error)
    return (.error error, holder)

/-- Puts the snapshot of a configuration in force. It is added to the
built-in rules, not to those in force. -/
def reload (holder : Holder) (directives : List Directive) :
    Logged (Except BuildError Unit × Holder) :=
  holder.reloadFrom (Ruleset.initial.applyAll directives)

/-- A holder answers as the snapshot in force does, which is loaded once
for each question, for both statuses too. -/
instance : StatusSource Holder where
  httpStatus code reason := return (← load).httpStatus code reason
  grpcStatus code reason := return (← load).grpcStatus code reason
  status code reason := return (← load).status code reason
  explain code reason := return ((← load).explanation code reason).render

end Holder

end FaultStatus
