/-
The seventeen status codes of gRPC, with their numbers and their canonical
names.
-/
namespace FaultStatus

/-- A status code of gRPC. -/
inductive GrpcStatus where
  /-- Not an error. -/
  | ok
  /-- The operation was cancelled, as a rule by its caller. -/
  | canceled
  /-- An error that nothing more is known about. -/
  | unknown
  /-- The client gave an argument that is invalid in any state. -/
  | invalidArgument
  /-- The time for the operation ran out before it was complete. -/
  | deadlineExceeded
  /-- A requested entity was not found. -/
  | notFound
  /-- The entity to be created exists already. -/
  | alreadyExists
  /-- The caller may not do this. -/
  | permissionDenied
  /-- A resource is used up. -/
  | resourceExhausted
  /-- The system is not in the state that the operation needs. -/
  | failedPrecondition
  /-- The operation was aborted, as a rule for a conflict with another. -/
  | aborted
  /-- The operation went beyond the valid range. -/
  | outOfRange
  /-- The operation is not supported. -/
  | unimplemented
  /-- An invariant of the system is broken. -/
  | internal
  /-- The service cannot be reached at the moment. -/
  | unavailable
  /-- Data is lost beyond recovery. -/
  | dataLoss
  /-- The request has no valid credentials. -/
  | unauthenticated
  deriving DecidableEq, Repr

namespace GrpcStatus

/-- Every status, in the order of their numbers. -/
def all : List GrpcStatus :=
  [ok, canceled, unknown, invalidArgument, deadlineExceeded, notFound,
   alreadyExists, permissionDenied, resourceExhausted, failedPrecondition,
   aborted, outOfRange, unimplemented, internal, unavailable, dataLoss,
   unauthenticated]

/-- The number that stands for the status on the wire. -/
def number : GrpcStatus → Nat
  | ok => 0
  | canceled => 1
  | unknown => 2
  | invalidArgument => 3
  | deadlineExceeded => 4
  | notFound => 5
  | alreadyExists => 6
  | permissionDenied => 7
  | resourceExhausted => 8
  | failedPrecondition => 9
  | aborted => 10
  | outOfRange => 11
  | unimplemented => 12
  | internal => 13
  | unavailable => 14
  | dataLoss => 15
  | unauthenticated => 16

/-- The status with a given number. -/
def ofNumber? (n : Int) : Option GrpcStatus :=
  all.find? fun status => (status.number : Int) = n

/-- The canonical name, in capitals. -/
def name : GrpcStatus → String
  | ok => "OK"
  | canceled => "CANCELLED"
  | unknown => "UNKNOWN"
  | invalidArgument => "INVALID_ARGUMENT"
  | deadlineExceeded => "DEADLINE_EXCEEDED"
  | notFound => "NOT_FOUND"
  | alreadyExists => "ALREADY_EXISTS"
  | permissionDenied => "PERMISSION_DENIED"
  | resourceExhausted => "RESOURCE_EXHAUSTED"
  | failedPrecondition => "FAILED_PRECONDITION"
  | aborted => "ABORTED"
  | outOfRange => "OUT_OF_RANGE"
  | unimplemented => "UNIMPLEMENTED"
  | internal => "INTERNAL"
  | unavailable => "UNAVAILABLE"
  | dataLoss => "DATA_LOSS"
  | unauthenticated => "UNAUTHENTICATED"

/-- The status with a given canonical name; the spelling of the cancelled
status with a single L is understood too. -/
def ofName? (s : String) : Option GrpcStatus :=
  if s = "CANCELED" then some canceled
  else all.find? fun status => status.name = s

/-- The name and the number, as in `UNAVAILABLE(14)`. -/
def display (status : GrpcStatus) : String :=
  status.name ++ "(" ++ toString status.number ++ ")"

/-- The name in words written together, as in `DeadlineExceeded`. -/
def inspect : GrpcStatus → String
  | ok => "Ok"
  | canceled => "Canceled"
  | unknown => "Unknown"
  | invalidArgument => "InvalidArgument"
  | deadlineExceeded => "DeadlineExceeded"
  | notFound => "NotFound"
  | alreadyExists => "AlreadyExists"
  | permissionDenied => "PermissionDenied"
  | resourceExhausted => "ResourceExhausted"
  | failedPrecondition => "FailedPrecondition"
  | aborted => "Aborted"
  | outOfRange => "OutOfRange"
  | unimplemented => "Unimplemented"
  | internal => "Internal"
  | unavailable => "Unavailable"
  | dataLoss => "DataLoss"
  | unauthenticated => "Unauthenticated"

/-- Statuses are ordered by their numbers. -/
instance : Ord GrpcStatus := ⟨compareOn number⟩

end GrpcStatus

end FaultStatus
