/-
The built-in tables: which status a well-known code has when no rule says
otherwise, and which status answers a code that nothing is known about.
Both tables cover the same codes. gRPC has no status of its own for some
of them, so that a thing that is gone, for one, is answered as not found.
-/
import FaultStatus.Code.WellKnown
import FaultStatus.Family

namespace FaultStatus.Defaults

/-- The version of the tables; any change to them is a new one. -/
def version : Nat := 1

/-- The statuses of HTTP. -/
def http : List (Code × HttpStatus) :=
  [(.internal, 500), (.unavailable, 503), (.notReady, 503), (.draining, 503),
   (.overloaded, 503), (.dependencyFailed, 502), (.timeout, 504),
   (.canceled, 408), (.invalid, 400), (.missing, 400), (.unsupported, 400),
   (.expired, 400), (.deprecationRejected, 400), (.tooEarly, 425),
   (.notFound, 404), (.gone, 410), (.alreadyExists, 409), (.conflict, 409),
   (.staleVersion, 409), (.preconditionFailed, 412), (.unauthenticated, 401),
   (.invalidCredentials, 401), (.tokenInvalid, 401), (.tokenExpired, 401),
   (.tokenRevoked, 401), (.sessionExpired, 401), (.permissionDenied, 403),
   (.throttled, 429), (.rateLimited, 429), (.quotaExceeded, 429)]

/-- The statuses of gRPC. -/
def grpc : List (Code × GrpcStatus) :=
  [(.internal, .internal), (.invalid, .invalidArgument),
   (.missing, .invalidArgument), (.unsupported, .invalidArgument),
   (.preconditionFailed, .failedPrecondition),
   (.dependencyFailed, .failedPrecondition), (.expired, .failedPrecondition),
   (.tooEarly, .failedPrecondition), (.notFound, .notFound),
   (.gone, .notFound), (.deprecationRejected, .failedPrecondition),
   (.alreadyExists, .alreadyExists), (.conflict, .aborted),
   (.staleVersion, .aborted), (.unauthenticated, .unauthenticated),
   (.invalidCredentials, .unauthenticated), (.tokenInvalid, .unauthenticated),
   (.tokenExpired, .unauthenticated), (.tokenRevoked, .unauthenticated),
   (.sessionExpired, .unauthenticated),
   (.permissionDenied, .permissionDenied), (.unavailable, .unavailable),
   (.notReady, .unavailable), (.draining, .unavailable),
   (.overloaded, .unavailable), (.timeout, .deadlineExceeded),
   (.canceled, .canceled), (.throttled, .resourceExhausted),
   (.rateLimited, .resourceExhausted), (.quotaExceeded, .resourceExhausted)]

/-- The status of HTTP for a code without any. -/
def httpFallback : HttpStatus := 500

/-- The status of gRPC for a code without any. -/
def grpcFallback : GrpcStatus := .internal

end FaultStatus.Defaults
