/-
What the log tells of builds and of the calls on a holder. Each build leaves
one record (`Ruleset.Reports`): of rules that are built, how much there is in
them, which is what was written to them (`Ruleset.WrittenBy`), and of rules
that are not, the one that was refused and why. A call leaves the record of
its build, if it builds anything, and behind it one that says what has become
of the snapshot in force (`Holder.Call.Reports`).

All of it is about one step. The log of a run is the logs of its steps, one
after the other (`events_run_append`), and a step's log is that of the call
alone, whatever is in force. So the log can be read back: a snapshot was put
in force at a call if and only if the call left a record of level `info`
(`Call.Reports.count_info`, `run_reports`).
-/
import FaultStatus.Proofs.Compile.Events
import FaultStatus.Proofs.Holder.Run
import FaultStatus.Proofs.Ruleset.Contents

namespace FaultStatus

namespace Logged

variable {α β : Type}

/-- What a log writes down of a computation. -/
def records (logged : Logged α) : List LogRecord :=
  logged.events.map Event.record

theorem records_bind (x : Logged α) (f : α → Logged β) :
    (x >>= f).records = x.records ++ (f x.value).records :=
  List.map_append

/-- A computation leaves the same records if its value is only looked at
once more. -/
theorem records_bind_of_silent (x : Logged α) {f : α → Logged β}
    (h : ∀ a, (f a).records = []) : (x >>= f).records = x.records := by
  rw [records_bind, h, List.append_nil]

end Logged

-- ================================================================ a build

namespace Ruleset

/-- The record of a build, by what comes of it. -/
inductive Reports (rules : Ruleset) :
    Except BuildError Snapshot → LogRecord → Prop where
  /-- The counts are those of the rules. -/
  | built {snapshot : Snapshot} {http grpc : TableCounts}
      (http_counts : http.Measure rules.http)
      (grpc_counts : grpc.Measure rules.grpc) :
      Reports rules (.ok snapshot)
        { level := .debug, message := "status mapper built"
          fields :=
            [("http_overrides", .count http.overrides),
             ("http_prefixes", .count http.prefixes),
             ("http_defaults", .count http.defaults),
             ("grpc_overrides", .count grpc.overrides),
             ("grpc_prefixes", .count grpc.prefixes),
             ("grpc_defaults", .count grpc.defaults)] }
  /-- The fields are those of the error. -/
  | rejected {error : BuildError} :
      Reports rules (.error error)
        { level := .warn, message := "rejected reason-prefix rule"
          fields :=
            [("family", .text error.family.label),
             ("code", .text error.code.text),
             ("pattern", .text error.pattern),
             ("error", .text error.cause.message)] }

variable {rules : Ruleset}

/-- The record of a build is never that of a change of the snapshot. -/
theorem Reports.level_ne_info {result : Except BuildError Snapshot}
    {record : LogRecord} (h : rules.Reports result record) :
    record.level ≠ .info := by
  cases h <;> nofun

theorem records_build (rules : Ruleset) :
    ∃ record, rules.build.records = [record]
      ∧ rules.Reports rules.build.value record := by
  unfold Logged.records
  rw [events_build]
  cases hbuild : rules.build.value with
  | error error => exact ⟨_, rfl, .rejected⟩
  | ok snapshot =>
      have hmeasure := fun family =>
        RuleTable.measure_of_compile (build_eq_ok hbuild family)
      exact ⟨_, rfl, .built (hmeasure .http) (hmeasure .grpc)⟩

end Ruleset

namespace Holder

-- ================================================================= calls

/-- The rules that a call builds, if it builds any. -/
def Call.rules? : Call → Option Ruleset
  | .reload directives => some (Ruleset.initial.applyAll directives)
  | .reloadFrom rules => some rules
  | _ => none

theorem Call.installs?_of_rules {call : Call} {rules : Ruleset}
    (h : call.rules? = some rules) :
    call.installs? = rules.build.value.toOption := by
  apply Call.installs?_of_built
  cases call with
  | reload directives => cases h; rfl
  | reloadFrom rules => cases h; rfl
  | _ => cases h

/-- The records of a call. -/
inductive Call.Reports : Call → List LogRecord → Prop where
  | replaced {snapshot : Snapshot} :
      Reports (.replace snapshot)
        [{ level := .info, message := "status mapper replaced"
           fields := [] }]
  /-- The build, then the change. -/
  | reloaded {call : Call} {rules : Ruleset} {snapshot : Snapshot}
      {record : LogRecord} (brings : call.rules? = some rules)
      (built : rules.build.value = .ok snapshot)
      (told : rules.Reports (.ok snapshot) record) :
      Reports call
        [record,
         { level := .info, message := "status mapper reloaded"
           fields := [] }]
  /-- The build, then that nothing changes. -/
  | rejected {call : Call} {rules : Ruleset} {error : BuildError}
      {record : LogRecord} (brings : call.rules? = some rules)
      (failed : rules.build.value = .error error)
      (told : rules.Reports (.error error) record) :
      Reports call
        [record,
         { level := .warn
           message := "status mapper reload rejected, keeping current rules"
           fields := [("error", .text error.message)] }]
  | silent {call : Call} (no_rules : call.rules? = none)
      (no_snapshot : ∀ snapshot, call ≠ .replace snapshot) :
      Reports call []

variable {call : Call} {records : List LogRecord}

/-- A call that puts a snapshot in force says so once, and no other does. -/
theorem Call.Reports.count_info (h : call.Reports records) :
    records.countP (·.level = .info)
      = if call.installs?.isSome then 1 else 0 := by
  cases h with
  | replaced => rfl
  | reloaded brings built told =>
      rw [Call.installs?_of_rules brings, built]
      simp [told.level_ne_info, Except.toOption]
  | rejected brings failed told =>
      rw [Call.installs?_of_rules brings, failed]
      simp [told.level_ne_info, Except.toOption]
  | silent no_rules no_snapshot =>
      cases call with
      | replace snapshot => exact absurd rfl (no_snapshot snapshot)
      | reload directives => cases no_rules
      | reloadFrom rules => cases no_rules
      | _ => rfl

-- ================================================================ a step

theorem reports_reloadFrom (holder : Holder) {rules : Ruleset}
    (h : call.rules? = some rules) :
    call.Reports (holder.reloadFrom rules).records := by
  obtain ⟨record, hrecords, htold⟩ := rules.records_build
  rw [reloadFrom, Logged.records_bind, hrecords]
  cases hbuild : rules.build.value with
  | ok snapshot =>
      rw [hbuild] at htold
      exact .reloaded h hbuild htold
  | error error =>
      rw [hbuild] at htold
      exact .rejected h hbuild htold

/-- What a call leaves in the log does not depend on what is in force. -/
theorem reports_step (holder : Holder) (call : Call) :
    call.Reports (holder.step call).records := by
  cases call with
  | replace snapshot => exact .replaced
  | reload directives =>
      rw [step, reload, Logged.records_bind_of_silent _ fun _ => rfl]
      exact holder.reports_reloadFrom rfl
  | reloadFrom rules =>
      rw [step, Logged.records_bind_of_silent _ fun _ => rfl]
      exact holder.reports_reloadFrom rfl
  | _ => exact .silent rfl nofun

-- ================================================================= a run

theorem events_run_cons (holder : Holder) (call : Call) (calls : List Call) :
    (holder.run (call :: calls)).events
      = (holder.step call).events
        ++ ((holder.step call).value.2.run calls).events := by
  rw [run, Logged.events_bind, Logged.events_bind]
  exact congrArg _ (List.append_nil _)

/-- The log of a run of some calls and then of more. -/
theorem events_run_append (holder : Holder) (calls more : List Call) :
    (holder.run (calls ++ more)).events
      = (holder.run calls).events
        ++ ((holder.run calls).value.2.run more).events := by
  induction calls generalizing holder with
  | nil => rfl
  | cons call calls ih =>
      rw [List.cons_append, events_run_cons, events_run_cons, ih,
        List.append_assoc]
      rfl

/-- Any build leaves one record, and this tells what came of it; what it counts
is what was written to the rules, and the built-in defaults. The log of a run
holds for each call the records of this call, one of which is of level
`info` if and only if the call puts a snapshot in force. -/
theorem run_reports (initial : Holder) :
    (∀ rules : Ruleset, ∃ record, rules.build.records = [record]
        ∧ rules.Reports rules.build.value record)
      ∧ (∀ calls,
          (Ruleset.afterCalls calls).WrittenBy (Ruleset.history calls))
      ∧ ∀ before call after held, (initial.run before).value.2 = held →
          (initial.run (before ++ call :: after)).records
              = (initial.run before).records ++ (held.step call).records
                ++ ((held.step call).value.2.run after).records
            ∧ call.Reports (held.step call).records
            ∧ (held.step call).value.2.current
                = call.installs?.getD held.current
            ∧ (held.step call).records.countP (·.level = .info)
                = if call.installs?.isSome then 1 else 0 := by
  refine ⟨Ruleset.records_build, fun calls => ?_,
    fun before call after held hheld => ?_⟩
  · rw [Ruleset.afterCalls_eq_applyAll]
    exact Ruleset.writtenBy_applyAll _
  · have hreports := held.reports_step call
    refine ⟨?_, hreports, by rw [value_step], hreports.count_info⟩
    unfold Logged.records
    rw [events_run_append, hheld, events_run_cons, List.map_append,
      List.map_append, List.append_assoc]

example :
    (Holder.builtIn.reload [.addPrefix .timeout "*" (.http 503)]).records.map
        (·.level)
      = [.warn, .warn] := by
  decide +kernel

end Holder

end FaultStatus
