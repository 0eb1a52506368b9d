/-
The two families of statuses that a failure is answered in, HTTP and gRPC,
and data that comes once per family. The families never mix: a rule, a
table or an answer belongs to one of them, and whatever holds of one holds
of the other with its own kind of status. `PerFamily` says this once.
-/
import FaultStatus.GrpcStatus

namespace FaultStatus

/-- A status code of HTTP: any number of 16 bits. -/
abbrev HttpStatus := UInt16

/-- A family of statuses. -/
inductive Family where
  /-- Statuses of HTTP. -/
  | http
  /-- Statuses of gRPC. -/
  | grpc
  deriving DecidableEq, Repr

namespace Family

/-- The statuses of a family. -/
@[reducible] def Value : Family → Type
  | http => HttpStatus
  | grpc => GrpcStatus

/-- The short name of a family in diagnostics and configuration. -/
def label : Family → String
  | http => "http"
  | grpc => "grpc"

/-- The family's name as its users write it. -/
def display : Family → String
  | http => "HTTP"
  | grpc => "gRPC"

end Family

-- =========================================================== once a family

/-- Something that each family has one of, of a type that depends on the
statuses of the family. -/
structure PerFamily (β : Type → Type) where
  /-- What HTTP has. -/
  http : β HttpStatus
  /-- What gRPC has. -/
  grpc : β GrpcStatus

namespace PerFamily

variable {β : Type → Type}

/-- What the given family has. -/
def get (p : PerFamily β) : (family : Family) → β family.Value
  | .http => p.http
  | .grpc => p.grpc

/-- Changes what the given family has and leaves the other as it is. -/
def modify (p : PerFamily β) :
    (family : Family) → (β family.Value → β family.Value) → PerFamily β
  | .http, f => { p with http := f p.http }
  | .grpc, f => { p with grpc := f p.grpc }

@[simp] theorem get_modify_self (p : PerFamily β) (family : Family)
    (f : β family.Value → β family.Value) :
    (p.modify family f).get family = f (p.get family) := by
  cases family <;> rfl

theorem get_modify_of_ne (p : PerFamily β) {family other : Family}
    (f : β family.Value → β family.Value) (h : other ≠ family) :
    (p.modify family f).get other = p.get other := by
  match family, other with
  | .http, .http | .grpc, .grpc => exact absurd rfl h
  | .http, .grpc | .grpc, .http => rfl

end PerFamily

-- ================================================================ statuses

/-- A status together with the family that it belongs to. -/
inductive StatusValue where
  /-- A status of HTTP. -/
  | http (status : HttpStatus)
  /-- A status of gRPC. -/
  | grpc (status : GrpcStatus)
  deriving DecidableEq, Repr

namespace StatusValue

/-- The family that the status belongs to. -/
def family : StatusValue → Family
  | http _ => .http
  | grpc _ => .grpc

/-- The status itself. -/
def value : (status : StatusValue) → status.family.Value
  | http status => status
  | grpc status => status

end StatusValue

/-- The answer to a failure in both families. -/
structure Status where
  /-- The status of HTTP. -/
  http : HttpStatus
  /-- The status of gRPC. -/
  grpc : GrpcStatus
  deriving DecidableEq, Repr

end FaultStatus
