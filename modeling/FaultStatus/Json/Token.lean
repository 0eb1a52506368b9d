/-
The tokens of a JSON text: brackets, marks, words, numerals and strings.
`Token.chars` writes one token, `Token.next?` reads one, and `lex` reads a
whole text, in which blanks may stand between the tokens.
-/
import FaultStatus.Json.Value

namespace FaultStatus.Json

/-- A token of a JSON text. -/
inductive Token where
  /-- The bracket that opens an array. -/
  | openArray
  /-- The bracket that closes an array. -/
  | closeArray
  /-- The brace that opens an object. -/
  | openObject
  /-- The brace that closes an object. -/
  | closeObject
  /-- The mark between two items or fields. -/
  | comma
  /-- The mark between a key and its value. -/
  | colon
  /-- The word `null`. -/
  | null
  /-- One of the words `true` and `false`. -/
  | bool (b : Bool)
  /-- A numeral. -/
  | number (n : Numeral)
  /-- A string. -/
  | string (text? : Option String)
  deriving DecidableEq, Repr

-- ================================================================ strings

/-- One character or escape inside a string. -/
inductive Item where
  /-- A character, be it written as itself or by a short escape. -/
  | char (c : Char)
  /-- A unit of UTF-16, written by its number. -/
  | unit (n : Nat)
  deriving DecidableEq, Repr

/-- The value of a hexadecimal digit. -/
def hexDigit? (c : Char) : Option Nat :=
  if c.isDigit then some (c.toNat - '0'.toNat)
  else if 'a' ≤ c ∧ c ≤ 'f' then some (c.toNat - 'a'.toNat + 10)
  else if 'A' ≤ c ∧ c ≤ 'F' then some (c.toNat - 'A'.toNat + 10)
  else none

/-- The number that four hexadecimal digits stand for. -/
def hexUnit? (a b c d : Char) : Option Nat := do
  let a ← hexDigit? a
  let b ← hexDigit? b
  let c ← hexDigit? c
  let d ← hexDigit? d
  return ((a * 16 + b) * 16 + c) * 16 + d

/-- The character that a short escape stands for. -/
def shortEscape? : Char → Option Char
  | '"' => some '"'
  | '\\' => some '\\'
  | '/' => some '/'
  | 'b' => some '\x08'
  | 'f' => some '\x0c'
  | 'n' => some '\n'
  | 'r' => some '\r'
  | 't' => some '\t'
  | _ => none

/-- Reads the inside of a string and the quote after it. Control
characters have to be escaped. -/
def readItems : List Char → Option (List Item × List Char)
  | [] => none
  | '"' :: rest => some ([], rest)
  | '\\' :: 'u' :: a :: b :: c :: d :: rest => do
    let n ← hexUnit? a b c d
    let (items, rest) ← readItems rest
    return (.unit n :: items, rest)
  | '\\' :: c :: rest => do
    let c ← shortEscape? c
    let (items, rest) ← readItems rest
    return (.char c :: items, rest)
  | c :: rest =>
    if c.toNat < 0x20 then none
    else do
      let (items, rest) ← readItems rest
      return (.char c :: items, rest)

/-- The first unit of a surrogate pair. -/
def isHighSurrogate (n : Nat) : Bool := 0xd800 ≤ n && n < 0xdc00

/-- The second unit of a surrogate pair. -/
def isLowSurrogate (n : Nat) : Bool := 0xdc00 ≤ n && n < 0xe000

/-- The character that a surrogate pair stands for. -/
def pairedChar (high low : Nat) : Char :=
  Char.ofNat (0x10000 + (high - 0xd800) * 0x400 + (low - 0xdc00))

/-- The text of a string; none if one unit of a surrogate pair stands
without the other. A first unit that has just been read is `pending`. -/
def joinItems (pending : Option Nat) : List Item → Option (List Char)
  | [] => if pending.isSome then none else some []
  | .char c :: rest =>
    if pending.isSome then none else (joinItems none rest).map (c :: ·)
  | .unit n :: rest =>
    match pending with
    | some high =>
      if isLowSurrogate n then
        (joinItems none rest).map (pairedChar high n :: ·)
      else none
    | none =>
      if isHighSurrogate n then joinItems (some n) rest
      else if isLowSurrogate n then none
      else (joinItems none rest).map (Char.ofNat n :: ·)

/-- The written form of a character inside a string. -/
def escapeChar (c : Char) : List Char :=
  if c = '"' then ['\\', '"']
  else if c = '\\' then ['\\', '\\']
  else if c = '\x08' then ['\\', 'b']
  else if c = '\x0c' then ['\\', 'f']
  else if c = '\n' then ['\\', 'n']
  else if c = '\r' then ['\\', 'r']
  else if c = '\t' then ['\\', 't']
  else if c.toNat < 0x20 then
    ['\\', 'u', '0', '0', Nat.digitChar (c.toNat / 16),
      Nat.digitChar (c.toNat % 16)]
  else [c]

/-- The inside of a string. Half of a surrogate pair stands for every
string without a text. -/
def escapeText : Option String → List Char
  | some s => s.toList.flatMap escapeChar
  | none => ['\\', 'u', 'd', '8', '0', '0']

-- =============================================================== numerals

/-- The written form of a numeral. -/
def numeralChars (n : Numeral) : List Char :=
  (if n.negative then ['-'] else []) ++ n.whole
    ++ (if n.fraction = [] then [] else '.' :: n.fraction)
    ++ (match n.exponent with
        | none => []
        | some e => 'e' :: (toString e).toList)

/-- Reads a row of at least one decimal digit. -/
def readDigits? (cs : List Char) : Option (List Char × List Char) :=
  match cs.takeWhile Char.isDigit with
  | [] => none
  | c :: digits => some (c :: digits, cs.dropWhile Char.isDigit)

/-- Reads the digits after a point, if there is one. -/
def readFraction? : List Char → Option (List Char × List Char)
  | '.' :: rest => readDigits? rest
  | cs => some ([], cs)

/-- Reads a sign, if there is one: whether it is a minus. -/
def readSign : List Char → Bool × List Char
  | '-' :: rest => (true, rest)
  | '+' :: rest => (false, rest)
  | cs => (false, cs)

/-- Reads the power of ten after its mark. -/
def readPower? (cs : List Char) : Option (Int × List Char) := do
  let (digits, rest) ← readDigits? (readSign cs).2
  let n : Int := Numeral.ofDigits digits
  return (if (readSign cs).1 then -n else n, rest)

/-- Reads a power of ten, if there is one. -/
def readExponent? : List Char → Option (Option Int × List Char)
  | [] => some (none, [])
  | c :: rest =>
    if c = 'e' ∨ c = 'E' then
      (readPower? rest).map fun (e, rest) => (some e, rest)
    else some (none, c :: rest)

/-- Reads a minus, if there is one. -/
def readMinus : List Char → Bool × List Char
  | '-' :: rest => (true, rest)
  | cs => (false, cs)

/-- Reads the digits before the point. None follows a leading zero. -/
def readWhole? (cs : List Char) : Option (List Char × List Char) :=
  (readDigits? cs).filter fun (whole, _) =>
    whole = ['0'] ∨ whole.head? ≠ some '0'

/-- Reads a numeral. -/
def readNumeral? (cs : List Char) : Option (Numeral × List Char) := do
  let (whole, afterWhole) ← readWhole? (readMinus cs).2
  let (fraction, afterFraction) ← readFraction? afterWhole
  let (exponent, rest) ← readExponent? afterFraction
  let negative := (readMinus cs).1
  return ({ negative, whole, fraction, exponent }, rest)

-- ================================================================= tokens

/-- The written form of a token. -/
def Token.chars : Token → List Char
  | openArray => ['[']
  | closeArray => [']']
  | openObject => ['\x7b']
  | closeObject => ['\x7d']
  | comma => [',']
  | colon => [':']
  | null => ['n', 'u', 'l', 'l']
  | bool true => ['t', 'r', 'u', 'e']
  | bool false => ['f', 'a', 'l', 's', 'e']
  | number n => numeralChars n
  | string text? => '"' :: (escapeText text? ++ ['"'])

/-- Reads one token. -/
def Token.next? : List Char → Option (Token × List Char)
  | '[' :: rest => some (openArray, rest)
  | ']' :: rest => some (closeArray, rest)
  | '\x7b' :: rest => some (openObject, rest)
  | '\x7d' :: rest => some (closeObject, rest)
  | ',' :: rest => some (comma, rest)
  | ':' :: rest => some (colon, rest)
  | 'n' :: 'u' :: 'l' :: 'l' :: rest => some (null, rest)
  | 't' :: 'r' :: 'u' :: 'e' :: rest => some (bool true, rest)
  | 'f' :: 'a' :: 'l' :: 's' :: 'e' :: rest => some (bool false, rest)
  | '"' :: rest => do
    let (items, rest) ← readItems rest
    return (string ((joinItems none items).map String.ofList), rest)
  | cs => (readNumeral? cs).map fun (n, rest) => (number n, rest)

end FaultStatus.Json
