/-
The JSON forms of codes, reasons, statuses and directives. Each thing has
one form in which it is written and a few more that are read: a name may
stand as the key of an object that carries nothing, a record as an array of
its values, and the keys of a record come in any order among keys that mean
nothing to it.
-/
import FaultStatus.Directive
import FaultStatus.Json.Strict
import FaultStatus.Reason

namespace FaultStatus

/-- Things with a JSON form. -/
class JsonForm (α : Type) where
  /-- The value that a thing is written as. -/
  toJson : α → Json
  /-- The thing that a value stands for. -/
  ofJson? : Json → Option α
  /-- How the text of a value is read. -/
  readValue? : String → Option Json := Json.read?

namespace JsonForm

variable {α : Type} [JsonForm α]

/-- The text of a thing. -/
def write (x : α) : String := (toJson x).render

/-- The thing that a text stands for. -/
def read? (text : String) : Option α := do
  ofJson? (← readValue? α text)

end JsonForm

-- ======================================================= codes and reasons

/-- A code is written as its text and read in any spelling. -/
instance : JsonForm Code where
  toJson code := .text code.text
  ofJson? value := do (Code.parse (← value.text?)).toOption

/-- A reason is written as its text and read in any spelling. -/
instance : JsonForm Reason where
  toJson reason := .text reason.text
  ofJson? value := do (Reason.parse (← value.text?)).toOption

-- =================================================================== names

/-- Where a value stands. -/
inductive Json.Place where
  /-- By itself or in a record. -/
  | outside
  /-- In a directive. -/
  | inDirective
  deriving DecidableEq, Repr

/-- Whether a value carries nothing: `null` does not, nor does an empty
object in a directive. -/
def Json.Place.isNothing (place : Json.Place) : Json → Bool
  | .null => true
  | .object [] => place = .inDirective
  | _ => false

/-- The name that a value gives, as a string or as the single key of an
object that carries nothing. -/
def Json.Place.name? (place : Json.Place) : Json → Option String
  | .string text? => text?
  | .object [(key, payload)] =>
    if place.isNothing payload then key else none
  | _ => none

/-- The status of gRPC that a value names. -/
def GrpcStatus.ofJson? (place : Json.Place) (value : Json) :
    Option GrpcStatus := do
  GrpcStatus.ofName? (← place.name? value)

/-- A status of gRPC is written as its canonical name. -/
instance : JsonForm GrpcStatus where
  toJson status := .text status.name
  ofJson? := GrpcStatus.ofJson? .outside

/-- The family with a given label. -/
def Family.ofLabel? (s : String) : Option Family :=
  [http, grpc].find? fun family => family.label = s

/-- A family is written as its label. -/
instance : JsonForm Family where
  toJson family := .text family.label
  ofJson? value := do Family.ofLabel? (← Json.Place.outside.name? value)

-- ================================================================ statuses

/-- The status of HTTP that a value stands for: a natural number of 16
bits. -/
def HttpStatus.ofJson? (value : Json) : Option HttpStatus := do
  let n ← value.nat?
  if n < UInt16.size then some (.ofNat n) else none

/-- The value of a status of HTTP. -/
def HttpStatus.toJson (status : HttpStatus) : Json := .nat status.toNat

/-- The status that an object with its family as the only key stands
for. -/
def StatusValue.ofJson? (place : Json.Place) : Json → Option StatusValue
  | .object [(some key, value)] => do
    match ← Family.ofLabel? key with
    | .http => return .http (← HttpStatus.ofJson? value)
    | .grpc => return .grpc (← GrpcStatus.ofJson? place value)
  | _ => none

/-- A status with its family is written as an object of one key. -/
instance : JsonForm StatusValue where
  toJson
    | .http status => .record [("http", HttpStatus.toJson status)]
    | .grpc status => .record [("grpc", JsonForm.toJson status)]
  ofJson? := StatusValue.ofJson? .outside

/-- The pair of statuses that two values stand for. -/
def Status.ofPair? (http grpc : Json) : Option Status := do
  let http ← HttpStatus.ofJson? http
  let grpc ← GrpcStatus.ofJson? .outside grpc
  return { http, grpc }

/-- The pair of statuses is written as an object. Every key of the object
has to be a text, be it one that means something or not. -/
instance : JsonForm Status where
  toJson status := .record
    [("http", HttpStatus.toJson status.http),
     ("grpc", JsonForm.toJson status.grpc)]
  ofJson?
    | .object fields => do
      if fields.all (·.1.isSome) then
        Status.ofPair? (← Json.sole? "http" fields)
          (← Json.sole? "grpc" fields)
      else none
    | .array [http, grpc] => Status.ofPair? http grpc
    | _ => none

-- ============================================================== directives

namespace Directive

/-- What a directive does. -/
inductive Kind where
  /-- It sets a default. -/
  | setDefault
  /-- It sets an override. -/
  | setOverride
  /-- It adds a pattern. -/
  | addPrefix
  /-- It sets the fallback. -/
  | setFallback
  deriving DecidableEq, Repr

/-- The name of a kind. -/
def Kind.name : Kind → String
  | setDefault => "set_default"
  | setOverride => "set_override"
  | addPrefix => "add_prefix"
  | setFallback => "set_fallback"

/-- The kind with a given name. -/
def Kind.ofName? (s : String) : Option Kind :=
  [setDefault, setOverride, addPrefix, setFallback].find? fun kind =>
    kind.name = s

/-- The fields of a directive of a kind, in the order in which they are
written. -/
def Kind.fields : Kind → List String
  | setDefault | setOverride => ["code", "status"]
  | addPrefix => ["code", "pattern", "status"]
  | setFallback => ["status"]

/-- The directive of a kind with the given fields. A field that the kind
does not have is not looked at. -/
def ofFields? (kind : Kind) (fields : List (Option String × Json)) :
    Option Directive := do
  let code : Option Code := do
    JsonForm.ofJson? (← Json.sole? "code" fields)
  let status : Option StatusValue := do
    StatusValue.ofJson? .inDirective (← Json.sole? "status" fields)
  match kind with
  | .setDefault => return .setDefault (← code) (← status)
  | .setOverride => return .setOverride (← code) (← status)
  | .addPrefix =>
    let pattern ← Json.sole? "pattern" fields
    return .addPrefix (← code) (← pattern.text?) (← status)
  | .setFallback => return .setFallback (← status)

/-- The directive that a value stands for: an object that names the kind
and has its fields, or an array of the kind and the values of its fields in
order. -/
def ofJson? : Json → Option Directive
  | .object fields => do
    let op ← Json.sole? "op" fields
    ofFields? (← Kind.ofName? (← op.text?)) fields
  | .array (op :: values) => do
    let kind ← Kind.ofName? (← op.text?)
    if values.length = kind.fields.length then
      ofFields? kind ((kind.fields.map some).zip values)
    else none
  | _ => none

/-- The value that a directive is written as. -/
def toJson : Directive → Json
  | setDefault code status => .record
    [("op", .text Kind.setDefault.name), ("code", JsonForm.toJson code),
     ("status", JsonForm.toJson status)]
  | setOverride code status => .record
    [("op", .text Kind.setOverride.name), ("code", JsonForm.toJson code),
     ("status", JsonForm.toJson status)]
  | addPrefix code pattern status => .record
    [("op", .text Kind.addPrefix.name), ("code", JsonForm.toJson code),
     ("pattern", .text pattern), ("status", JsonForm.toJson status)]
  | setFallback status => .record
    [("op", .text Kind.setFallback.name),
     ("status", JsonForm.toJson status)]

end Directive

/-- A directive is written as an object and taken in as a whole. -/
instance : JsonForm Directive where
  toJson := Directive.toJson
  ofJson? := Directive.ofJson?
  readValue? := Json.readStrict?

/-- A list of directives is written as an array and taken in as a
whole. -/
instance : JsonForm (List Directive) where
  toJson directives := .array (directives.map Directive.toJson)
  ofJson?
    | .array values => values.mapM Directive.ofJson?
    | _ => none
  readValue? := Json.readStrict?

end FaultStatus
