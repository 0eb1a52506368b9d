/-
Strict reading. A value of which some parts are passed over unseen may hold
anything in them that has the form of JSON. Where a value is taken in as a
whole before its parts are looked at, each part has to stand for something:
a string for a text and a numeral for a number of double precision, and the
nesting has a limit.
-/
import FaultStatus.Json.Text

namespace FaultStatus

-- ============================================================== magnitude

namespace Numeral

/-- Appends digits to a number for as long as it fits into 64 bits; the
number and the digits left over. -/
def absorb (n : Nat) : List Char → Nat × List Char
  | [] => (n, [])
  | c :: rest =>
    let m := 10 * n + (c.toNat - '0'.toNat)
    if m < UInt64.size then absorb m rest else (n, c :: rest)

/-- The natural number nearest to `n` among those of 53 binary digits and
trailing zeros; of two that are equally near the one whose digits are
even. -/
def toDouble (n : Nat) : Nat :=
  let shift := n.log2 - 52
  let unit := 1 <<< shift
  let digits := n / unit
  let excess := 2 * (n % unit)
  if unit < excess ∨ (excess = unit ∧ digits % 2 = 1) then
    (digits + 1) * unit
  else digits * unit

/-- The least number that is rounded beyond the greatest double. -/
def doubleOverflow : Nat := 1 <<< 1024 - 1 <<< 970

/-- Whether a numeral is too great for double precision. Its value is
taken to be the number of its leading digits, as many as fit into 64 bits,
times a power of ten, both of them rounded. -/
def overflows (n : Numeral) : Bool :=
  let (head, wholeLeft) := absorb 0 n.whole
  let (digits, fractionLeft) := absorb head n.fraction
  let power : Int := n.exponent.getD 0 + wholeLeft.length
    + fractionLeft.length - n.fraction.length
  digits ≠ 0 && 0 ≤ power && (308 < power ||
    doubleOverflow ≤ toDouble digits * toDouble (Nat.pow 10 power.toNat))

end Numeral

-- ================================================================= reading

namespace Json

/-- Whether a token stands for something. -/
def Token.isSound : Token → Bool
  | string text? => text?.isSome
  | number n => !n.overflows
  | _ => true

/-- Whether no more than `limit` arrays and objects are ever open at once,
`depth` of them being so before the first token. -/
def nestsWithin (limit depth : Nat) : List Token → Bool
  | [] => true
  | .openArray :: rest | .openObject :: rest =>
    depth < limit && nestsWithin limit (depth + 1) rest
  | .closeArray :: rest | .closeObject :: rest =>
    nestsWithin limit (depth - 1) rest
  | _ :: rest => nestsWithin limit depth rest

/-- The greatest depth of nesting in strict reading. -/
def maxNesting : Nat := 127

/-- The value of a text all of whose parts stand for something. -/
def readStrict? (text : String) : Option Json := do
  let row ← lex text.toList
  if row.all Token.isSound && nestsWithin maxNesting 0 row then
    ofTokens? row
  else none

end Json

end FaultStatus
