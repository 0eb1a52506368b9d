/-
Runs of a holder: any calls, one after the other, with what each of them
answers. What a call puts in force does not depend on what was in force
before (`Call.installs?`), so the snapshot in force after a run is the last
one that was put there, or the one at its begin (`inForce`). Every answer is
that of the snapshot in force at the call (`Call.answerAt`), a call that
fails to put rules in force might as well not have been made, and rules that
are put in force answer as if there had never been others (`run_answers`).

A step says all of this about one call (`value_step`). A run then has to
carry a snapshot only, and that runs can be cut anywhere (`value_run_append`)
does the rest. Others may put a snapshot in force while a question is asked;
that changes nothing, as a question looks at the holder only once
(`run_query`).
-/
import FaultStatus.Holder

namespace FaultStatus

namespace Holder

-- ================================================================= calls

/-- What a call answers. -/
inductive Answer where
  | snapshot (snapshot : Snapshot)
  | outcome (outcome : Except BuildError Unit)
  | http (status : HttpStatus)
  | grpc (status : GrpcStatus)
  | both (status : Status)
  | text (text : String)

/-- What a holder can be asked. -/
inductive Question where
  | load
  | httpStatus (code : Code) (reason : Reason)
  | grpcStatus (code : Code) (reason : Reason)
  | status (code : Code) (reason : Reason)
  | explain (code : Code) (reason : Reason)

/-- How the holder is asked. -/
def Question.query : Question → Query Holder Answer
  | load => return .snapshot (← Holder.load)
  | httpStatus code reason =>
    return .http (← StatusSource.httpStatus code reason)
  | grpcStatus code reason =>
    return .grpc (← StatusSource.grpcStatus code reason)
  | status code reason => return .both (← StatusSource.status code reason)
  | explain code reason => return .text (← StatusSource.explain code reason)

/-- A call on a holder. -/
inductive Call where
  | ask (question : Question)
  | replace (snapshot : Snapshot)
  | reload (directives : List Directive)
  | reloadFrom (rules : Ruleset)

/-- Makes a call, with no other one in between. -/
def step (holder : Holder) : Call → Logged (Answer × Holder)
  | .ask question => return (question.query.ask holder, holder)
  | .replace snapshot => do
    let (previous, next) ← holder.replace snapshot
    return (.snapshot previous, next)
  | .reload directives => do
    let (outcome, next) ← holder.reload directives
    return (.outcome outcome, next)
  | .reloadFrom rules => do
    let (outcome, next) ← holder.reloadFrom rules
    return (.outcome outcome, next)

/-- Makes calls from first to last; yields their answers and the holder
after them. -/
def run (holder : Holder) : List Call → Logged (List Answer × Holder)
  | [] => return ([], holder)
  | call :: calls => do
    let (answer, next) ← holder.step call
    let (answers, last) ← next.run calls
    return (answer :: answers, last)

-- ====================================================== what a call owes

/-- What a question is answered while a snapshot is in force; the two statuses
of a pair are both of this snapshot. -/
def Question.answerAt (current : Snapshot) : Question → Answer
  | load => .snapshot current
  | httpStatus code reason => .http (current.httpStatus code reason)
  | grpcStatus code reason => .grpc (current.grpcStatus code reason)
  | status code reason =>
    .both
      { http := current.httpStatus code reason
        grpc := current.grpcStatus code reason }
  | explain code reason => .text (current.explanation code reason).render

namespace Call

/-- What comes of building the rules that a call brings, if it brings any. -/
def built? : Call → Option (Except BuildError Snapshot)
  | .reload directives => some (Snapshot.ofDirectives directives).value
  | .reloadFrom rules => some rules.build.value
  | _ => none

/-- The snapshot that a call puts in force, if it does so. -/
def installs? : Call → Option Snapshot
  | .replace snapshot => some snapshot
  | call => call.built?.bind Except.toOption

/-- What a call answers while a snapshot is in force. -/
def answerAt (current : Snapshot) : Call → Answer
  | .ask question => question.answerAt current
  | .replace _ => .snapshot current
  | .reload directives =>
    .outcome ((Snapshot.ofDirectives directives).value.map fun _ => ())
  | .reloadFrom rules => .outcome (rules.build.value.map fun _ => ())

theorem answerAt_of_built {call : Call} {built : Except BuildError Snapshot}
    (h : call.built? = some built) (current : Snapshot) :
    call.answerAt current = .outcome (built.map fun _ => ()) := by
  cases call with
  | reload directives =>
    cases h
    rfl
  | reloadFrom rules =>
    cases h
    rfl
  | _ => cases h

theorem installs?_of_built {call : Call} {built : Except BuildError Snapshot}
    (h : call.built? = some built) : call.installs? = built.toOption := by
  cases call with
  | reload directives =>
    cases h
    rfl
  | reloadFrom rules =>
    cases h
    rfl
  | _ => cases h

end Call

/-- The snapshot in force after calls: the last that was put there, or the
initial one. -/
def inForce (initial : Snapshot) (calls : List Call) : Snapshot :=
  (calls.filterMap Call.installs?).getLast?.getD initial

theorem inForce_cons (initial : Snapshot) (call : Call)
    (calls : List Call) :
    inForce initial (call :: calls)
      = inForce (call.installs?.getD initial) calls := by
  unfold inForce
  rw [List.filterMap_cons]
  cases call.installs? with
  | none => rfl
  | some snapshot =>
    dsimp only
    rw [List.getLast?_cons]
    rfl

theorem inForce_append (initial : Snapshot) (calls more : List Call) :
    inForce initial (calls ++ more)
      = inForce (inForce initial calls) more := by
  induction calls generalizing initial with
  | nil => rfl
  | cons call calls ih =>
    rw [List.cons_append, inForce_cons, inForce_cons, ih]

theorem inForce_of_none {calls : List Call}
    (h : ∀ call ∈ calls, call.installs? = none) (initial : Snapshot) :
    inForce initial calls = initial := by
  unfold inForce
  rw [List.filterMap_eq_nil_iff.2 h]
  rfl

-- ================================================================ a step

/-- A question looks at the holder once and is answered by what it finds
there, whatever is in force before and after. -/
theorem run_query (question : Question) (holders : Nat → Holder) :
    question.query.run holders
      = question.answerAt (holders 0).current := by
  cases question <;> rfl

/-- With a look for each status they need not be of one snapshot. -/
example (code : Code) (reason : Reason) (holders : Nat → Holder) :
    Query.run (do
        let http ← StatusSource.httpStatus code reason
        let grpc ← StatusSource.grpcStatus code reason
        return ({ http, grpc } : Status)) holders
      = { http := (holders 0).current.httpStatus code reason
          grpc := (holders 1).current.grpcStatus code reason } :=
  rfl

/-- Rules that are built are put in force, and others change nothing. -/
theorem value_reloadFrom (holder : Holder) (rules : Ruleset) :
    (holder.reloadFrom rules).value
      = (rules.build.value.map fun _ => (),
        { current := rules.build.value.toOption.getD holder.current }) := by
  rw [reloadFrom, Logged.value_bind]
  cases rules.build.value with
  | ok snapshot => rfl
  | error error => rfl

theorem value_step (holder : Holder) (call : Call) :
    (holder.step call).value
      = (call.answerAt holder.current,
        { current := call.installs?.getD holder.current }) := by
  cases call with
  | ask question =>
    exact congrArg (·, holder) (run_query question fun _ => holder)
  | replace snapshot => rfl
  | reload directives =>
    exact congrArg (fun result => (Answer.outcome result.1, result.2))
      (holder.value_reloadFrom (Ruleset.initial.applyAll directives))
  | reloadFrom rules =>
    exact congrArg (fun result => (Answer.outcome result.1, result.2))
      (holder.value_reloadFrom rules)

-- ================================================================= a run

theorem value_run_cons (holder : Holder) (call : Call) (calls : List Call) :
    (holder.run (call :: calls)).value
      = (call.answerAt holder.current ::
          ((mk (call.installs?.getD holder.current)).run calls).value.1,
        ((mk (call.installs?.getD holder.current)).run calls).value.2) := by
  show ((holder.step call).value.1 ::
      ((holder.step call).value.2.run calls).value.1,
    ((holder.step call).value.2.run calls).value.2) = _
  rw [value_step]

/-- A run of some calls and then of more. -/
theorem value_run_append (holder : Holder) (calls more : List Call) :
    (holder.run (calls ++ more)).value
      = ((holder.run calls).value.1
          ++ ((holder.run calls).value.2.run more).value.1,
        ((holder.run calls).value.2.run more).value.2) := by
  induction calls generalizing holder with
  | nil => rfl
  | cons call calls ih =>
    rw [List.cons_append, value_run_cons, value_run_cons, ih]
    rfl

theorem current_run (holder : Holder) (calls : List Call) :
    (holder.run calls).value.2.current = inForce holder.current calls := by
  induction calls generalizing holder with
  | nil => rfl
  | cons call calls ih =>
    rw [value_run_cons, inForce_cons, ih]

theorem length_run (holder : Holder) (calls : List Call) :
    (holder.run calls).value.1.length = calls.length := by
  induction calls generalizing holder with
  | nil => rfl
  | cons call calls ih =>
    rw [value_run_cons, List.length_cons, List.length_cons, ih]

/-- The answer to a call is owed by the snapshot in force after the calls
before it. -/
theorem getElem?_run (holder : Holder) (before : List Call) (call : Call)
    (after : List Call) :
    (holder.run (before ++ call :: after)).value.1[before.length]?
      = some (call.answerAt (inForce holder.current before)) := by
  have hlength := length_run holder before
  rw [value_run_append, value_run_cons, current_run,
    List.getElem?_append_right (Nat.le_of_eq hlength), hlength,
    Nat.sub_self, List.getElem?_cons_zero]

/-- A call that brings rules that cannot be built answers with the error of
building them, and the run goes on as it would without the call. -/
theorem value_run_of_error (holder : Holder) (before after : List Call)
    {call : Call} {error : BuildError}
    (h : call.built? = some (.error error)) :
    (holder.run (before ++ call :: after)).value
      = ((holder.run (before ++ after)).value.1.take before.length
          ++ .outcome (.error error)
            :: (holder.run (before ++ after)).value.1.drop before.length,
        (holder.run (before ++ after)).value.2) := by
  have hlength := length_run holder before
  rw [value_run_append, value_run_append, value_run_cons,
    Call.answerAt_of_built h, Call.installs?_of_built h,
    List.take_left' hlength, List.drop_left' hlength]
  rfl

/-- The holder as it is after so many calls of a run. -/
def heldAfter (initial : Holder) (calls : List Call) (n : Nat) : Holder :=
  (initial.run (calls.take n)).value.2

/-- A question that is asked amid the calls of a run, its looks made after any
numbers of them, is answered by the snapshot in force at the first look. -/
theorem run_query_heldAfter (initial : Holder) (calls : List Call)
    (question : Question) (numbers : Nat → Nat) :
    question.query.run (fun look => initial.heldAfter calls (numbers look))
      = question.answerAt
          (inForce initial.current (calls.take (numbers 0))) := by
  rw [run_query, heldAfter, current_run]

/-- What runs of a holder answer, and questions that are asked amid them,
whatever was in force at their begin. -/
theorem run_answers (initial : Holder) (calls : List Call) :
    (initial.run calls).value.2.current = inForce initial.current calls
      ∧ (initial.run calls).value.1.length = calls.length
      ∧ (∀ before call after, calls = before ++ call :: after →
          (initial.run calls).value.1[before.length]?
            = some (call.answerAt (inForce initial.current before)))
      ∧ (∀ before call after error, calls = before ++ call :: after →
          call.built? = some (.error error) →
          (initial.run calls).value
            = ((initial.run (before ++ after)).value.1.take before.length
                ++ .outcome (.error error) ::
                  (initial.run (before ++ after)).value.1.drop before.length,
              (initial.run (before ++ after)).value.2))
      ∧ (∀ before directives snapshot between call after,
          calls = before ++ .reload directives :: (between ++ call :: after) →
          (Snapshot.ofDirectives directives).value = .ok snapshot →
          (∀ c ∈ between, c.installs? = none) →
          (initial.run calls).value.1[before.length + 1 + between.length]?
            = some (call.answerAt snapshot))
      ∧ ∀ (question : Question) (numbers : Nat → Nat),
          question.query.run
              (fun look => initial.heldAfter calls (numbers look))
            = question.answerAt
                (inForce initial.current (calls.take (numbers 0))) := by
  refine ⟨current_run initial calls, length_run initial calls, ?_, ?_, ?_,
    run_query_heldAfter initial calls⟩
  · intro before call after hcalls
    rw [hcalls]
    exact getElem?_run initial before call after
  · intro before call after error hcalls herror
    rw [hcalls]
    exact value_run_of_error initial before after herror
  · intro before directives snapshot between call after hcalls hbuilt hnone
    have hinstalls : (Call.reload directives).installs? = some snapshot := by
      rw [Call.installs?_of_built rfl, hbuilt]
      rfl
    have hforce : inForce initial.current
        (before ++ .reload directives :: between) = snapshot := by
      rw [inForce_append, inForce_cons, hinstalls, Option.getD_some,
        inForce_of_none hnone]
    have hanswer := getElem?_run initial
      (before ++ .reload directives :: between) call after
    rw [hforce, List.append_assoc, List.cons_append, ← hcalls,
      List.length_append, List.length_cons] at hanswer
    rw [← hanswer]
    congr 1
    omega

end Holder

end FaultStatus
