/-
Reasons: the optional path that refines a code, such as
`storage.pg.connect_timeout`. A reason is canonical when it is empty, or
has 3 to 128 bytes and consists of one to four segments between
separators.
-/
import FaultStatus.Segment
import FaultStatus.Text.Blank
import FaultStatus.Text.Lowercase
import FaultStatus.Text.Quoted

namespace FaultStatus

/-- The refinement of a code. `Reason.mk` takes any text as it is;
`Reason.parse` yields canonical reasons only. -/
structure Reason where
  /-- The text of the reason. -/
  text : String
  deriving DecidableEq, Repr

/-- Reasons are ordered by their texts, character by character; this is
also the order of their UTF-8 bytes. -/
instance : Ord Reason := ⟨compareOn Reason.text⟩

/-- Why a text is no reason. -/
inductive ReasonError where
  /-- The spelling has this many bytes, too few or too many. -/
  | invalidLength (length : Nat)
  /-- The spelling is no path of segments. -/
  | invalidFormat (text : String)
  deriving DecidableEq, Repr

namespace Reason

/-- The least number of bytes of a canonical reason that is not empty. -/
def minLength : Nat := 3

/-- The greatest number of bytes of a canonical reason. -/
def maxLength : Nat := 128

/-- The greatest number of segments of a canonical reason. -/
def maxSegments : Nat := 4

/-- The reason that refines nothing. -/
def empty : Reason := ⟨""⟩

/-- The spelling of one character of a reason: a slash separates segments
as a full stop does, and an underscore stands for a dash. -/
def normalizeMark (c : Char) : Char :=
  if c = '/' then separator else if c = '-' then '_' else c

/-- A text in the spelling of reasons: without blanks around it, in small
letters, with full stops for slashes and underscores for dashes. The
result need not be a reason. -/
def normalizeChars (cs : List Char) : List Char :=
  (Text.lower (Text.trim cs)).map normalizeMark

/-- A text in the spelling of reasons. The patterns of rules are brought
into it too. -/
def normalize (s : String) : String :=
  String.ofList (normalizeChars s.toList)

/-- Whether a text is a canonical reason as it stands. A wrong length is
reported before a wrong form. -/
def validate (s : String) : Except ReasonError Unit :=
  if s = "" then .ok ()
  else if s.utf8ByteSize < minLength ∨ maxLength < s.utf8ByteSize then
    .error (.invalidLength s.utf8ByteSize)
  else if (pieces s).length ≤ maxSegments
      ∧ (pieces s).all (isSegment ·.toList) then .ok ()
  else .error (.invalidFormat s)

/-- The reason that a text spells; a blank text spells the empty one. -/
def parse (s : String) : Except ReasonError Reason := do
  validate (normalize s)
  return ⟨normalize s⟩

/-- Whether the reason refines nothing. -/
def isEmpty (reason : Reason) : Bool := reason.text.isEmpty

/-- The pieces of the reason that hold any character. -/
def segments (reason : Reason) : List String :=
  (pieces reason.text).filter (!·.isEmpty)

/-- The number of bytes of the reason's text. -/
def length (reason : Reason) : Nat := reason.text.utf8ByteSize

/-- The reason's text set in a field. -/
def display (reason : Reason) (field : Text.Field := {}) : String :=
  field.set reason.text

/-- The reason as a diagnostic shows it, its text in quotes. -/
def inspect (reason : Reason) : String :=
  "Reason(" ++ Text.quote reason.text ++ ")"

end Reason

/-- The wording of the error. -/
def ReasonError.message : ReasonError → String
  | .invalidLength length =>
    "invalid reason length " ++ toString length ++ " (must be "
      ++ toString Reason.minLength ++ "-" ++ toString Reason.maxLength ++ ")"
  | .invalidFormat text => "invalid reason format " ++ Text.quote text

end FaultStatus
