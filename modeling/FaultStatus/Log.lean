/-
The log: what a compilation and the exchange of a snapshot report. A
computation that reports something is a value together with its events in
the order in which they happened, and each event has a record that a log
can write down. If the computation can fail, its value is what comes of it,
and the events are those up to the failure.
-/
import FaultStatus.Snapshot

namespace FaultStatus

-- ============================================================== failures

/-- The rule that a compilation failed at. -/
structure BuildError where
  /-- The family of the rule. -/
  family : Family
  /-- The code of the rule. -/
  code : Code
  /-- The pattern of the rule as it was written. -/
  pattern : String
  /-- What is wrong with the pattern in canonical spelling. -/
  cause : PatternError
  deriving DecidableEq, Repr

/-- The wording of the error. -/
def BuildError.message (error : BuildError) : String :=
  "invalid " ++ error.family.display ++ " reason-prefix "
    ++ Text.quote error.pattern ++ " for code \"" ++ error.code.text
    ++ "\": " ++ error.cause.message

-- ================================================================ events

/-- How much there is in the compiled rules of a family. -/
structure TableCounts where
  /-- The number of codes with an override. -/
  overrides : Nat
  /-- The number of patterns of all codes, in canonical spelling. -/
  prefixes : Nat
  /-- The number of codes with a default. -/
  defaults : Nat
  deriving DecidableEq, Repr

/-- What there is in a compiled table. -/
def ResolutionTable.counts {V : Type} (table : ResolutionTable V) :
    TableCounts where
  overrides := table.overrides.size
  prefixes := table.prefixCount
  defaults := table.defaults.size

/-- Something that a log is told. -/
inductive Event where
  /-- Rules were compiled. -/
  | built (http grpc : TableCounts)
  /-- A rule was refused: its family and code, its pattern as it was written,
  and what is wrong with it. -/
  | ruleRejected (family : Family) (code : Code) (pattern : String)
      (cause : PatternError)
  /-- A snapshot was put in the place of another. -/
  | replaced
  /-- A snapshot of new rules was put in the place of another. -/
  | reloaded
  /-- New rules were not compiled, and the snapshot stays. -/
  | reloadRejected (error : BuildError)
  deriving DecidableEq, Repr

-- =============================================================== records

/-- How much an event matters. -/
inductive LogLevel where
  /-- Of interest in a search for faults. -/
  | debug
  /-- Worth knowing. -/
  | info
  /-- Something is wrong. -/
  | warn
  deriving DecidableEq, Repr

/-- The name of the level. -/
def LogLevel.label : LogLevel → String
  | debug => "DEBUG"
  | info => "INFO"
  | warn => "WARN"

/-- What a record says about one thing. -/
inductive LogValue where
  /-- A number of things. -/
  | count (n : Nat)
  /-- A text. -/
  | text (s : String)
  deriving DecidableEq, Repr

/-- An event as a log writes it down. -/
structure LogRecord where
  /-- How much the event matters. -/
  level : LogLevel
  /-- What happened. -/
  message : String
  /-- What more there is to say, by name. -/
  fields : List (String × LogValue)
  deriving DecidableEq, Repr

/-- The record of an event. -/
def Event.record : Event → LogRecord
  | built http grpc =>
    { level := .debug, message := "status mapper built"
      fields :=
        [("http_overrides", .count http.overrides),
         ("http_prefixes", .count http.prefixes),
         ("http_defaults", .count http.defaults),
         ("grpc_overrides", .count grpc.overrides),
         ("grpc_prefixes", .count grpc.prefixes),
         ("grpc_defaults", .count grpc.defaults)] }
  | ruleRejected family code pattern cause =>
    { level := .warn, message := "rejected reason-prefix rule"
      fields :=
        [("family", .text family.label),
         ("code", .text code.text),
         ("pattern", .text pattern),
         ("error", .text cause.message)] }
  | replaced =>
    { level := .info, message := "status mapper replaced", fields := [] }
  | reloaded =>
    { level := .info, message := "status mapper reloaded", fields := [] }
  | reloadRejected error =>
    { level := .warn
      message := "status mapper reload rejected, keeping current rules"
      fields := [("error", .text error.message)] }

-- ===================================================== computations with a log

/-- A value and the events that happened on the way to it. -/
structure Logged (α : Type) where
  /-- The value. -/
  value : α
  /-- The events, the first one first. -/
  events : List Event
  deriving Repr

namespace Logged

/-- Tells the log of an event. -/
def tell (event : Event) : Logged Unit := { value := (), events := [event] }

/-- Computations follow one another, and so do their events. -/
instance : Monad Logged where
  pure value := { value, events := [] }
  bind x f :=
    let next := f x.value
    { value := next.value, events := x.events ++ next.events }

variable {α β ε : Type}

theorem value_bind (x : Logged α) (f : α → Logged β) :
    (x >>= f).value = (f x.value).value := rfl

theorem events_bind (x : Logged α) (f : α → Logged β) :
    (x >>= f).events = x.events ++ (f x.value).events := rfl

instance : LawfulMonad Logged := LawfulMonad.mk' Logged
  (fun x => by
    show Logged.mk x.value (x.events ++ []) = x
    rw [List.append_nil])
  (fun x f => rfl)
  (fun x f g => by
    show Logged.mk _ (x.events ++ _ ++ _) = Logged.mk _ (x.events ++ (_ ++ _))
    rw [List.append_assoc]
    rfl)

-- What can fail ends at its first failure, and its log ends there too.

theorem value_run_bind (x : ExceptT ε Logged α)
    (f : α → ExceptT ε Logged β) :
    (x >>= f).run.value = x.run.value >>= fun a => (f a).run.value := by
  show (ExceptT.bindCont f x.run.value : Logged (Except ε β)).value = _
  cases x.run.value <;> rfl

theorem events_run_bind (x : ExceptT ε Logged α)
    (f : α → ExceptT ε Logged β) :
    (x >>= f).run.events
      = x.run.events ++ match x.run.value with
        | .ok a => (f a).run.events
        | .error _ => [] := by
  show x.run.events
    ++ (ExceptT.bindCont f x.run.value : Logged (Except ε β)).events = _
  cases x.run.value <;> rfl

theorem value_run_foldlM {σ : Type} (l : List α)
    (f : σ → α → ExceptT ε Logged σ) (s : σ) :
    (l.foldlM f s).run.value = l.foldlM (fun s a => (f s a).run.value) s := by
  induction l generalizing s with
  | nil => rfl
  | cons a l ih =>
    rw [List.foldlM_cons, List.foldlM_cons, value_run_bind]
    exact bind_congr fun s' => ih s'

theorem value_run_mapM (l : List α) (f : α → ExceptT ε Logged β) :
    (l.mapM f).run.value = l.mapM fun a => (f a).run.value := by
  induction l with
  | nil => rfl
  | cons a l ih =>
    rw [List.mapM_cons, List.mapM_cons, value_run_bind]
    refine bind_congr fun b => ?_
    rw [value_run_bind, ih]
    rfl

end Logged

end FaultStatus
