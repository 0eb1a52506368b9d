/-
Patterns: what the left side of a rule says about reasons. A pattern is a
row of pieces, each a segment or the wildcard `*`, and matches a path whose
leading segments fit its pieces one by one. A pattern of wildcards only
would catch every reason and is refused.
-/
import FaultStatus.Segment
import FaultStatus.Text.Quoted

namespace FaultStatus

/-- The text of the piece that any segment fits. -/
def wildcardText : String := "*"

/-- One place of a pattern. -/
inductive Piece where
  /-- Fits this segment only. -/
  | literal (segment : String)
  /-- Fits every segment, but never none and never several. -/
  | wildcard
  deriving DecidableEq, Repr

/-- Why a text is no pattern. -/
inductive PatternError where
  /-- There is no text. -/
  | empty
  /-- A separator stands at an end, or next to another. -/
  | emptySegment
  /-- A piece is neither the wildcard nor a segment. -/
  | invalidSegment (segment : String)
  /-- Every piece is the wildcard. -/
  | allWildcard
  deriving DecidableEq, Repr

/-- The wording of the error. -/
def PatternError.message : PatternError → String
  | .empty => "empty prefix"
  | .emptySegment => "empty segment"
  | .invalidSegment segment => "invalid segment " ++ Text.quote segment
  | .allWildcard => "prefix cannot consist of '*' only"

namespace Piece

/-- The piece that a text stands for. -/
def parse (text : String) : Except PatternError Piece :=
  if text = "" then .error .emptySegment
  else if text = wildcardText then .ok .wildcard
  else if isSegment text.toList then .ok (.literal text)
  else .error (.invalidSegment text)

/-- The text that stands for the piece. -/
def text : Piece → String
  | literal segment => segment
  | wildcard => wildcardText

/-- Whether a segment of a path fits the piece. -/
def admits : Piece → String → Bool
  | literal segment, s => segment == s
  | wildcard, _ => true

/-- Whether each segment of a path fits the piece at its place, the path
having at least as many segments as there are pieces. -/
def admitAll : List Piece → List String → Bool
  | [], _ => true
  | _ :: _, [] => false
  | piece :: pieces, s :: segments =>
    piece.admits s && admitAll pieces segments

end Piece

/-- A row of pieces. -/
structure Pattern where
  /-- The pieces from left to right. -/
  pieces : List Piece
  deriving DecidableEq, Repr

namespace Pattern

/-- The pattern that a text stands for. The leftmost piece at fault decides
the error; only when all are sound does it matter whether one of them is a
segment. -/
def parse (text : String) : Except PatternError Pattern := do
  if text = "" then throw .empty
  let row ← (FaultStatus.pieces text).mapM Piece.parse
  if row.all (· = .wildcard) then throw .allWildcard
  return ⟨row⟩

/-- The text that stands for the pattern. -/
def text (pattern : Pattern) : String :=
  joinPieces (pattern.pieces.map Piece.text)

/-- The number of segments that the pattern fits. -/
def depth (pattern : Pattern) : Nat := pattern.pieces.length

/-- Whether the pattern fits the leading ones of these segments. -/
def admits (pattern : Pattern) (segments : List String) : Bool :=
  Piece.admitAll pattern.pieces segments

end Pattern

end FaultStatus
