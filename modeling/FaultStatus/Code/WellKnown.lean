/-
The well-known codes: the categories that the built-in tables of
`Defaults` give a status to.
-/
import FaultStatus.Code

namespace FaultStatus.Code

-- ============================================================== general

/-- A failure inside the component that nothing more is known about. -/
def internal : Code := ⟨"internal"⟩

/-- An input breaks a rule of form or of meaning. -/
def invalid : Code := ⟨"invalid"⟩

/-- A value that has to be there is absent. -/
def missing : Code := ⟨"missing"⟩

/-- The operation or the option is not supported. -/
def unsupported : Code := ⟨"unsupported"⟩

-- ============================================================ operation

/-- Something that the operation needs cannot be reached at the moment. -/
def unavailable : Code := ⟨"unavailable"⟩

/-- The time for the operation ran out. -/
def timeout : Code := ⟨"timeout"⟩

/-- The caller gave the operation up. -/
def canceled : Code := ⟨"canceled"⟩

/-- Something that the operation needs answered with a failure. -/
def dependencyFailed : Code := ⟨"dependency_failed"⟩

/-- The component runs, but does not serve yet. -/
def notReady : Code := ⟨"not_ready"⟩

/-- The component is going out of service and takes no new work. -/
def draining : Code := ⟨"draining"⟩

/-- The queues or the workers are full. -/
def overloaded : Code := ⟨"overloaded"⟩

/-- The caller is asked to slow down. -/
def throttled : Code := ⟨"throttled"⟩

-- ============================================================= resource

/-- There is no such entity. -/
def notFound : Code := ⟨"not_found"⟩

/-- An entity of the same identity is there already. -/
def alreadyExists : Code := ⟨"already_exists"⟩

/-- The request conflicts with the state of the entity. -/
def conflict : Code := ⟨"conflict"⟩

/-- A condition that the request states does not hold. -/
def preconditionFailed : Code := ⟨"precondition_failed"⟩

/-- The entity existed once and will not come back. -/
def gone : Code := ⟨"gone"⟩

/-- The client sent a version that is no longer the current one. -/
def staleVersion : Code := ⟨"stale_version"⟩

/-- The request uses a feature that is withdrawn. -/
def deprecationRejected : Code := ⟨"deprecation_rejected"⟩

-- ====================================================== authentication

/-- It is not known who asks. -/
def unauthenticated : Code := ⟨"unauthenticated"⟩

/-- The credentials given do not hold. -/
def invalidCredentials : Code := ⟨"invalid_credentials"⟩

/-- It is known who asks, and that they may not. -/
def permissionDenied : Code := ⟨"permission_denied"⟩

/-- The token is malformed or fails its checks. -/
def tokenInvalid : Code := ⟨"token_invalid"⟩

/-- The token is past its lifetime. -/
def tokenExpired : Code := ⟨"token_expired"⟩

/-- The token was withdrawn. -/
def tokenRevoked : Code := ⟨"token_revoked"⟩

/-- The session is past its lifetime. -/
def sessionExpired : Code := ⟨"session_expired"⟩

-- ========================================================= time, quota

/-- An object of limited lifetime is past it. -/
def expired : Code := ⟨"expired"⟩

/-- The request came before the time at which it is allowed. -/
def tooEarly : Code := ⟨"too_early"⟩

/-- There were too many requests in too short a time. -/
def rateLimited : Code := ⟨"rate_limited"⟩

/-- The quota is used up. -/
def quotaExceeded : Code := ⟨"quota_exceeded"⟩

end FaultStatus.Code
