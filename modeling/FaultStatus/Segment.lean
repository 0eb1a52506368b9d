/-
Segments: the words that reasons and patterns are made of, and the pieces
into which a dotted text falls. Whether a piece is a segment is a question
about that piece alone.

A path is any text; a look-up wants its longest run of well-formed segments
from the start, and reads it off the path's UTF-8 bytes without splitting
the path first. Each segment is a span of byte offsets; a span is never
empty and ends within the bytes, which is why the scan ends.
-/
namespace FaultStatus

-- ================================================================= pieces

/-- The character between two pieces of a dotted text. -/
def separator : Char := '.'

/-- A character that may follow the first one of a segment. -/
def isSegmentTail (c : Char) : Bool :=
  c.isLower || c.isDigit || c == '_'

/-- A small letter, then small letters, digits and underscores, all of
them ASCII. -/
def isSegment : List Char → Bool
  | [] => false
  | c :: rest => c.isLower && rest.all isSegmentTail

/-- The pieces between the separators of a text. There is always one more
piece than there are separators, so the empty text has one, itself
empty. -/
def pieces (text : String) : List String :=
  (text.toList.splitOn separator).map String.ofList

/-- The dotted text with the given pieces. -/
def joinPieces (ps : List String) : String :=
  String.intercalate (String.singleton separator) ps

-- ================================================================= bytes

/-- A byte that may begin a segment. -/
def isHeadByte (b : UInt8) : Bool := 'a'.toUInt8 ≤ b && b ≤ 'z'.toUInt8

/-- A byte that may follow the first one of a segment. -/
def isTailByte (b : UInt8) : Bool :=
  isHeadByte b || ('0'.toUInt8 ≤ b && b ≤ '9'.toUInt8) || b == '_'.toUInt8

/-- Where a segment ends whose bytes before `i` are already read: at the
next separator or at the end of the bytes. There is no such place if
another byte comes first that a segment cannot hold. -/
def tailEnd? (bytes : ByteArray) (i : Nat) : Option Nat :=
  if h : i < bytes.size then
    if bytes[i] == separator.toUInt8 then some i
    else if isTailByte bytes[i] then tailEnd? bytes (i + 1)
    else none
  else some i
termination_by bytes.size - i

/-- Where the segment that starts at byte `start` ends, if one does. -/
def segmentEnd? (bytes : ByteArray) (start : Nat) : Option Nat :=
  if h : start < bytes.size then
    if isHeadByte bytes[start] then tailEnd? bytes (start + 1) else none
  else none

theorem tailEnd?_bounds {bytes : ByteArray} {i stop : Nat}
    (hi : i ≤ bytes.size) (h : tailEnd? bytes i = some stop) :
    i ≤ stop ∧ stop ≤ bytes.size := by
  fun_induction tailEnd? bytes i with
  | case1 i hlt hsep =>
    cases h
    exact ⟨Nat.le_refl _, hi⟩
  | case2 i hlt hsep htail ih =>
    have := ih hlt h
    omega
  | case3 => cases h
  | case4 i hge =>
    cases h
    exact ⟨Nat.le_refl _, hi⟩

/-- A segment holds at least one byte and ends within the bytes. -/
theorem segmentEnd?_bounds {bytes : ByteArray} {start stop : Nat}
    (h : segmentEnd? bytes start = some stop) :
    start < stop ∧ stop ≤ bytes.size := by
  unfold segmentEnd? at h
  split at h
  next hlt =>
    split at h
    · have := tailEnd?_bounds hlt h
      omega
    · cases h
  next => cases h

-- ================================================================= spans

/-- A stretch of a path, by the offsets of its first byte and of the byte
after its last. -/
structure Span where
  /-- The offset of the first byte. -/
  start : Nat
  /-- The offset after the last byte. -/
  stop : Nat
  deriving DecidableEq, Repr

/-- Where the segment after one that ends at `stop` would start: beyond
the separator, if there is one. -/
def nextStart (bytes : ByteArray) (stop : Nat) : Nat :=
  if stop < bytes.size then stop + 1 else stop

/-- The consecutive segments from byte `start` on, up to the first piece
that is none. -/
def spansFrom (bytes : ByteArray) (start : Nat) : List Span :=
  match _h : segmentEnd? bytes start with
  | none => []
  | some stop => ⟨start, stop⟩ :: spansFrom bytes (nextStart bytes stop)
termination_by bytes.size - start
decreasing_by
  have := segmentEnd?_bounds _h
  unfold nextStart
  split <;> omega

/-- The part of the path that a span covers. -/
def Span.text (path : String) (span : Span) : String :=
  String.Pos.Raw.extract path ⟨span.start⟩ ⟨span.stop⟩

/-- The longest run of well-formed segments at the start of a path. -/
def leadingSegments (path : String) : List String :=
  (spansFrom path.toByteArray 0).map (·.text path)

end FaultStatus
