/-
What a build tells the log. Compiling is silent as long as it goes well, and
tells of the rule that it fails at, once and as it fails
(`Logged.TellsFailure`). One rule does (`PatternTree.tellsFailure_addRule`),
and steps one after the other do if each of them does, be they steps along a
tree or codes side by side, so that a whole family does
(`RuleTable.tellsFailure_compile`). Of two families the second is not begun
if the first fails, and the tables are counted when both are there: a build
leaves one event (`Ruleset.events_build`).
-/
import FaultStatus.Proofs.Compile.Tables

namespace FaultStatus

/-- The event of the rule that a compilation failed at. -/
def BuildError.event (error : BuildError) : Event :=
  .ruleRejected error.family error.code error.pattern error.cause

namespace Logged

variable {α β σ : Type}

/-- The log holds the event of the failure, if the computation fails, and
nothing else. -/
def TellsFailure (x : ExceptT BuildError Logged α) : Prop :=
  x.run.events = match x.run.value with
    | .ok _ => []
    | .error error => [error.event]

theorem tellsFailure_pure (a : α) :
    TellsFailure (pure a : ExceptT BuildError Logged α) := rfl

/-- What has failed is not gone on with, and what has not failed has told
nothing yet. -/
theorem TellsFailure.bind {x : ExceptT BuildError Logged α}
    {f : α → ExceptT BuildError Logged β} (hx : TellsFailure x)
    (hf : ∀ a, TellsFailure (f a)) : TellsFailure (x >>= f) := by
  unfold TellsFailure at *
  rw [events_run_bind, value_run_bind, hx]
  cases x.run.value with
  | error error => rfl
  | ok a => exact hf a

theorem tellsFailure_foldlM {f : σ → α → ExceptT BuildError Logged σ}
    (hf : ∀ s a, TellsFailure (f s a)) (l : List α) (s : σ) :
    TellsFailure (l.foldlM f s) := by
  induction l generalizing s with
  | nil => exact tellsFailure_pure s
  | cons a l ih =>
    rw [List.foldlM_cons]
    exact (hf s a).bind ih

theorem tellsFailure_mapM {f : α → ExceptT BuildError Logged β}
    (hf : ∀ a, TellsFailure (f a)) (l : List α) :
    TellsFailure (l.mapM f) := by
  induction l with
  | nil => exact tellsFailure_pure []
  | cons a l ih =>
    rw [List.mapM_cons]
    refine (hf a).bind fun b => ih.bind fun bs => ?_
    exact tellsFailure_pure (b :: bs)

end Logged

-- ================================================================ a family

open Logged (TellsFailure)

variable {V : Type}

theorem PatternTree.tellsFailure_addRule (family : Family) (code : Code)
    (tree : PatternTree V) (rule : PrefixRule V) :
    TellsFailure (addRule family code tree rule) := by
  unfold addRule
  cases hparse : Pattern.parse (Reason.normalize rule.pattern) with
  | error cause =>
    rw [insert_of_parse_error hparse]
    rfl
  | ok pattern =>
    rw [insert_of_parse_ok hparse]
    rfl

theorem PatternTree.tellsFailure_ofRules (family : Family) (code : Code)
    (rules : List (PrefixRule V)) :
    TellsFailure (ofRules family code rules) :=
  Logged.tellsFailure_foldlM (tellsFailure_addRule family code) rules empty

theorem RuleTable.tellsFailure_compileCode (family : Family)
    (entry : Code × List (PrefixRule V)) :
    TellsFailure (compileCode family entry) :=
  (PatternTree.tellsFailure_ofRules family entry.1 entry.2).bind
    fun tree => Logged.tellsFailure_pure (entry.1, tree)

theorem RuleTable.tellsFailure_compile (family : Family)
    (rules : RuleTable V) : TellsFailure (rules.compile family) := by
  rw [compile_eq_mapM]
  refine (Logged.tellsFailure_mapM (tellsFailure_compileCode family) _).bind
    fun trees => ?_
  exact Logged.tellsFailure_pure (rules.tableOf trees)

-- =========================================================== both families

/-- A build tells what is in its tables or which rule was refused, and
nothing besides. -/
theorem Ruleset.events_build (rules : Ruleset) :
    rules.build.events = match rules.build.value with
      | .ok snapshot => [.built snapshot.http.counts snapshot.grpc.counts]
      | .error error => [error.event] := by
  have hhttp := rules.http.tellsFailure_compile .http
  have hgrpc := rules.grpc.tellsFailure_compile .grpc
  unfold TellsFailure at hhttp hgrpc
  rw [value_build]
  unfold build
  rw [Logged.events_run_bind, hhttp]
  cases (rules.http.compile .http).run.value with
  | error error => rfl
  | ok http =>
    dsimp only
    rw [List.nil_append, Logged.events_run_bind, hgrpc]
    cases (rules.grpc.compile .grpc).run.value with
    | error error => rfl
    | ok grpc => rfl

end FaultStatus
