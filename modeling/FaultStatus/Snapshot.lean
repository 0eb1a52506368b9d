/-
Snapshots: compiled rules, which no longer change and answer every code
and reason. In each family the first of four tiers that has a status gives
it: the override of the code, the most specific of the code's patterns
that matches the reason, the default of the code, the fallback. There is a
short way to the status alone and a way that also tells the tier.

What holds a snapshot may exchange it while it is asked. So a question to it
is not a function of one state, but says when it looks at the state
(`Query`).
-/
import FaultStatus.Directive
import FaultStatus.Explanation
import FaultStatus.PatternTree

namespace FaultStatus

/-- The compiled rules of one family. -/
structure ResolutionTable (V : Type) where
  /-- The statuses of codes whatever their reason. -/
  overrides : CodeMap V
  /-- The patterns of each code that has any. -/
  trees : CodeMap (PatternTree V)
  /-- The statuses of codes whose reason no pattern matches. -/
  defaults : CodeMap V
  /-- The status of codes that have none. -/
  fallback : V

namespace ResolutionTable

variable {V : Type}

/-- The table of built-in defaults and a fallback alone. -/
def seeded (table : List (Code × V)) (fallback : V) :
    ResolutionTable V where
  overrides := {}
  trees := {}
  defaults := .ofList table
  fallback := fallback

/-- The status of a code with a reason. -/
def resolve (table : ResolutionTable V) (code : Code) (reason : Reason) :
    V :=
  match table.overrides[code]? with
  | some value => value
  | none =>
    match table.trees[code]?.bind (·.lookup reason.text) with
    | some value => value
    | none => table.defaults.getD code table.fallback

/-- The status of a code with a reason, and the tier that it comes
from. -/
def explain (table : ResolutionTable V) (code : Code) (reason : Reason) :
    Resolution V :=
  match table.overrides[code]? with
  | some value => { value, source := .override }
  | none =>
    match table.trees[code]?.bind (·.lookupWithPattern reason.text) with
    | some (value, pattern) => { value, source := .prefixHit pattern }
    | none =>
      match table.defaults[code]? with
      | some value => { value, source := .default }
      | none => { value := table.fallback, source := .fallback }

/-- The number of patterns of all codes together. -/
def prefixCount (table : ResolutionTable V) : Nat :=
  table.trees.foldl (fun n _ tree => n + tree.size) 0

end ResolutionTable

/-- The compiled rules of both families. -/
abbrev Snapshot := PerFamily ResolutionTable

namespace Snapshot

/-- The snapshot of the built-in tables alone. -/
def builtIn : Snapshot where
  http := .seeded Defaults.http Defaults.httpFallback
  grpc := .seeded Defaults.grpc Defaults.grpcFallback

/-- The status of HTTP for a code and a reason. -/
def httpStatus (snapshot : Snapshot) (code : Code) (reason : Reason) :
    HttpStatus :=
  snapshot.http.resolve code reason

/-- The status of gRPC for a code and a reason. -/
def grpcStatus (snapshot : Snapshot) (code : Code) (reason : Reason) :
    GrpcStatus :=
  snapshot.grpc.resolve code reason

/-- Both statuses for a code and a reason. -/
def status (snapshot : Snapshot) (code : Code) (reason : Reason) :
    Status where
  http := snapshot.httpStatus code reason
  grpc := snapshot.grpcStatus code reason

/-- Both statuses for a code and a reason, with the tiers that they come
from. -/
def explanation (snapshot : Snapshot) (code : Code) (reason : Reason) :
    Explanation where
  code := code
  reason := reason
  answers :=
    { http := snapshot.http.explain code reason
      grpc := snapshot.grpc.explain code reason }

end Snapshot

-- =============================================================== questions

/-- A question to something that has a state. It looks at the state as often
as it has to, and goes on by what it finds. Between two looks the state may
have become another. -/
inductive Query (σ α : Type) where
  /-- Nothing more is looked at. -/
  | answer (a : α)
  /-- The state is looked at. -/
  | look (next : σ → Query σ α)

namespace Query

variable {σ α β : Type}

/-- A question that depends on the answer to another. -/
def andThen (f : α → Query σ β) : Query σ α → Query σ β
  | answer a => f a
  | look next => look fun state => (next state).andThen f

instance : Monad (Query σ) where
  pure := answer
  bind query f := query.andThen f

/-- The state at one look. -/
def state : Query σ σ := look answer

/-- The answer, given the states that are found at the looks, the first one
first. -/
def run : Query σ α → (Nat → σ) → α
  | answer a, _ => a
  | look next, states => (next (states 0)).run fun n => states (n + 1)

/-- The answer while the state stays as it is. -/
def ask (query : Query σ α) (state : σ) : α := query.run fun _ => state

end Query

-- ====================================================== what answers failures

/-- Anything that answers failures, be it a fixed snapshot or one that is
exchanged from time to time. -/
class StatusSource (σ : Type) where
  /-- The status of HTTP for a code and a reason. -/
  httpStatus : Code → Reason → Query σ HttpStatus
  /-- The status of gRPC for a code and a reason. -/
  grpcStatus : Code → Reason → Query σ GrpcStatus
  /-- Both statuses for a code and a reason. Unless a source has a way of its
  own, it is asked for one after the other. -/
  status : Code → Reason → Query σ Status := fun code reason => do
    return {
      http := ← httpStatus code reason
      grpc := ← grpcStatus code reason }
  /-- The written explanation of both statuses. -/
  explain : Code → Reason → Query σ String

/-- A snapshot stays as it is, however often it is looked at. -/
instance : StatusSource Snapshot where
  httpStatus code reason := return (← Query.state).httpStatus code reason
  grpcStatus code reason := return (← Query.state).grpcStatus code reason
  explain code reason :=
    return ((← Query.state).explanation code reason).render

end FaultStatus
