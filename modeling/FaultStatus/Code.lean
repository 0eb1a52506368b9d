/-
Codes: the coarse category of a failure, such as `unavailable`. A code is
canonical when it has 3 to 64 bytes and is a single segment. `Code.parse`
brings a text into canonical spelling first, so that `Not-Found` names the
code `not_found`.
-/
import FaultStatus.Segment
import FaultStatus.Text.Blank
import FaultStatus.Text.Lowercase
import FaultStatus.Text.Quoted

namespace FaultStatus

/-- The category of a failure. `Code.mk` takes any text as it is;
`Code.parse` yields canonical codes only. -/
structure Code where
  /-- The text of the code. -/
  text : String
  deriving DecidableEq, Repr

/-- Codes are ordered by their texts, character by character; this is also
the order of their UTF-8 bytes. -/
instance : Ord Code := ⟨compareOn Code.text⟩

instance : Std.TransOrd Code where
  eq_swap := Std.OrientedOrd.eq_swap (α := String)
  isLE_trans := Std.TransOrd.isLE_trans (α := String)

instance : Std.LawfulEqOrd Code where
  compare_self := Std.compare_self (α := String)
  eq_of_compare {a b} h := by
    cases a; cases b
    exact congrArg Code.mk (Std.LawfulEqOrd.eq_of_compare (α := String) h)

/-- Why a text is no code. -/
inductive CodeError where
  /-- The spelling has this many bytes, too few or too many. -/
  | invalidLength (length : Nat)
  /-- The spelling is no segment. -/
  | invalidFormat (text : String)
  deriving DecidableEq, Repr

namespace Code

/-- The least number of bytes of a canonical code. -/
def minLength : Nat := 3

/-- The greatest number of bytes of a canonical code. -/
def maxLength : Nat := 64

/-- A text in the spelling of codes: without blanks around it, in small
letters, with underscores for dashes. The result need not be a code. -/
def normalizeChars (cs : List Char) : List Char :=
  (Text.lower (Text.trim cs)).map fun c => if c = '-' then '_' else c

/-- A text in the spelling of codes. -/
def normalize (s : String) : String :=
  String.ofList (normalizeChars s.toList)

/-- Whether a text is a canonical code as it stands. A wrong length is
reported before a wrong form. -/
def validate (s : String) : Except CodeError Unit :=
  if s.utf8ByteSize < minLength ∨ maxLength < s.utf8ByteSize then
    .error (.invalidLength s.utf8ByteSize)
  else if isSegment s.toList then .ok ()
  else .error (.invalidFormat s)

/-- The code that a text spells. -/
def parse (s : String) : Except CodeError Code := do
  validate (normalize s)
  return ⟨normalize s⟩

/-- The number of bytes of the code's text. -/
def length (code : Code) : Nat := code.text.utf8ByteSize

/-- The code's text set in a field. -/
def display (code : Code) (field : Text.Field := {}) : String :=
  field.set code.text

/-- The code as a diagnostic shows it, its text in quotes. -/
def inspect (code : Code) : String := "Code(" ++ Text.quote code.text ++ ")"

end Code

/-- The wording of the error. -/
def CodeError.message : CodeError → String
  | .invalidLength length =>
    "invalid code length " ++ toString length ++ " (must be "
      ++ toString Code.minLength ++ "-" ++ toString Code.maxLength ++ ")"
  | .invalidFormat text => "invalid code format " ++ Text.quote text

end FaultStatus
