/-
Sets of code points, and the blanks around a text: which characters are
blank, the text without those at its ends, and the text set in a field, that
is cut to a greatest length and filled up with spaces to a least one, both
counted in characters.
-/
namespace FaultStatus.Text

-- ================================================================= ranges

-- Every character class of the text layer is written down as an ascending
-- list of closed ranges of code points.

/-- Whether `n` lies in one of the ranges. The ranges ascend, so the search
stops at the first one that begins beyond `n`. -/
def covers : List (Nat × Nat) → Nat → Bool
  | [], _ => false
  | (first, last) :: rest, n => first ≤ n && (n ≤ last || covers rest n)

-- ================================================================= blanks

/-- The code points with the Unicode property White_Space. The zero-width
space, the byte order mark and the separators U+001C to U+001F do not have
it. -/
def blankRanges : List (Nat × Nat) :=
  [(0x9, 0xd), (0x20, 0x20), (0x85, 0x85), (0xa0, 0xa0), (0x1680, 0x1680),
   (0x2000, 0x200a), (0x2028, 0x2029), (0x202f, 0x202f), (0x205f, 0x205f),
   (0x3000, 0x3000)]

/-- A character that `trim` removes from the ends of a text. -/
def isBlank (c : Char) : Bool := covers blankRanges c.toNat

/-- The text without the blank characters at its two ends. -/
def trim (cs : List Char) : List Char :=
  ((cs.dropWhile isBlank).reverse.dropWhile isBlank).reverse

-- ================================================================= fields

/-- Where a text stands in a field that is wider than the text. -/
inductive Alignment where
  /-- At the left end of the field. -/
  | left
  /-- At the right end of the field. -/
  | right
  /-- In the middle; an odd space goes to the right. -/
  | center
  deriving DecidableEq, Repr

/-- The shape of a field. -/
structure Field where
  /-- The least number of characters. -/
  width : Nat := 0
  /-- The greatest number of characters of the text itself, if limited. -/
  precision : Option Nat := none
  /-- The place of the text among the spaces. -/
  alignment : Alignment := .left
  deriving DecidableEq, Repr

/-- The number of spaces before the text when `gap` of them are needed. -/
def Alignment.spacesBefore (gap : Nat) : Alignment → Nat
  | .left => 0
  | .right => gap
  | .center => gap / 2

/-- The characters set in a field: first cut, then filled up. -/
def Field.setChars (field : Field) (cs : List Char) : List Char :=
  let shown := match field.precision with
    | none => cs
    | some limit => cs.take limit
  let gap := field.width - shown.length
  let before := field.alignment.spacesBefore gap
  List.replicate before ' ' ++ shown ++ List.replicate (gap - before) ' '

/-- The text set in a field. -/
def Field.set (field : Field) (s : String) : String :=
  String.ofList (field.setChars s.toList)

end FaultStatus.Text
