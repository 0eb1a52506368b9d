/-
JSON values as they stand in a text. Nothing of the text is lost that a
reader of configuration may ask for: an object keeps the order and the
repetitions of its keys, and a numeral keeps its parts, so that 503, 503.0
and 5.03e2 remain three different things.
-/
namespace FaultStatus

/-- A number as it is written. -/
structure Numeral where
  /-- Whether a minus sign comes first. -/
  negative : Bool := false
  /-- The digits before the point. -/
  whole : List Char
  /-- The digits after the point; none if there is no point. -/
  fraction : List Char := []
  /-- The power of ten, if one is given. -/
  exponent : Option Int := none
  deriving DecidableEq, Repr

namespace Numeral

/-- The number that a row of decimal digits stands for. -/
def ofDigits (digits : List Char) : Nat := Nat.ofDigitChars 10 digits 0

/-- The numeral of a natural number. -/
def ofNat (n : Nat) : Numeral where
  whole := Nat.toDigits 10 n

/-- The numeral of an integer. -/
def ofInt (n : Int) : Numeral where
  negative := n < 0
  whole := Nat.toDigits 10 n.natAbs

/-- The natural number that a numeral of digits alone stands for. A sign,
a point or a power makes it something else, even where the value would be
the same. -/
def toNat? (n : Numeral) : Option Nat :=
  if n.negative = false ∧ n.fraction = [] ∧ n.exponent = none then
    some (ofDigits n.whole)
  else none

/-- The integer that a numeral without point and power stands for. -/
def toInt? (n : Numeral) : Option Int :=
  if n.fraction = [] ∧ n.exponent = none then
    some (if n.negative then -(ofDigits n.whole : Int) else ofDigits n.whole)
  else none

end Numeral

/-- A JSON value. A string is `none` where it holds half of a surrogate
pair: it is well-formed, but there is no text that it stands for. -/
inductive Json where
  /-- The value `null`. -/
  | null
  /-- A truth value. -/
  | bool (b : Bool)
  /-- A number. -/
  | number (n : Numeral)
  /-- A string. -/
  | string (text? : Option String)
  /-- An array. -/
  | array (items : List Json)
  /-- An object, its keys and their values in the order of the text. -/
  | object (fields : List (Option String × Json))
  deriving Repr

namespace Json

/-- The string of a text. -/
def text (s : String) : Json := string (some s)

/-- The number of a natural number. -/
def nat (n : Nat) : Json := number (.ofNat n)

/-- The object with the given keys and values. -/
def record (fields : List (String × Json)) : Json :=
  object (fields.map fun (key, value) => (some key, value))

/-- The text that a value stands for, if it is a string that does. -/
def text? : Json → Option String
  | string text? => text?
  | _ => none

/-- The natural number that a value stands for. -/
def nat? : Json → Option Nat
  | number n => n.toNat?
  | _ => none

/-- The value of a key that stands in a row of fields exactly once. -/
def sole? (key : String) (fields : List (Option String × Json)) :
    Option Json :=
  match fields.filter (·.1 = some key) with
  | [(_, value)] => some value
  | _ => none

end Json

end FaultStatus
