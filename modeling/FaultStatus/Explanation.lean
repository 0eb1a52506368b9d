/-
Explanations: which rule gave a status. An answer comes from one of four
tiers, and if it comes from a pattern, the explanation names the pattern.
The written form has three lines and no line end after the last; as every
text in it is quoted, no text can pass for another part of it.
-/
import FaultStatus.Code
import FaultStatus.Reason
import FaultStatus.Family

namespace FaultStatus

/-- The tier that a status comes from. -/
inductive Source where
  /-- The override of the code. -/
  | override
  /-- The most specific pattern of the code that matches the reason. -/
  | prefixHit (pattern : String)
  /-- The default of the code. -/
  | default
  /-- The fallback of the family. -/
  | fallback
  deriving DecidableEq, Repr

namespace Source

/-- The name of the tier. -/
def label : Source → String
  | override => "override"
  | prefixHit _ => "prefix"
  | default => "default"
  | fallback => "fallback"

/-- The pattern that gave the status, if one did. -/
def pattern? : Source → Option String
  | prefixHit pattern => some pattern
  | _ => none

end Source

/-- A status and where it comes from. -/
structure Resolution (V : Type) where
  /-- The status. -/
  value : V
  /-- The tier that it comes from. -/
  source : Source
  deriving DecidableEq, Repr

/-- The written form of a family's part of an explanation, given how its
statuses are written. -/
def Resolution.render {V : Type} (family : Family) (display : V → String)
    (resolution : Resolution V) : String :=
  let pattern := match resolution.source.pattern? with
    | none => ""
    | some pattern => " pattern=" ++ Text.quote pattern
  family.label ++ ": source=" ++ resolution.source.label ++ pattern
    ++ " -> " ++ display resolution.value

/-- The answers to a code and a reason in both families, with where they
come from. -/
structure Explanation where
  /-- The code that was asked about. -/
  code : Code
  /-- The reason that was asked about. -/
  reason : Reason
  /-- The answers. -/
  answers : PerFamily Resolution

/-- The written form of an explanation. -/
def Explanation.render (explanation : Explanation) : String :=
  "code=" ++ Text.quote explanation.code.text
    ++ " reason=" ++ Text.quote explanation.reason.text ++ "\n"
    ++ explanation.answers.http.render .http (toString ·.toNat) ++ "\n"
    ++ explanation.answers.grpc.render .grpc GrpcStatus.display

end FaultStatus
