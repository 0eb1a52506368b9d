/-
The text of a JSON value. In one direction `tokens` are the tokens of a
value, which `render` writes down without blanks; in the other `ofTokens?`
is the value that the tokens of a text make up. Values may be nested to
any depth, so `ofTokens?` keeps what is still open on a stack of its own.
-/
import FaultStatus.Json.Tokens

namespace FaultStatus.Json

-- ================================================================ writing

mutual

/-- The tokens of a value. -/
def tokens : Json → List Token
  | null => [.null]
  | bool b => [.bool b]
  | number n => [.number n]
  | string text? => [.string text?]
  | array items => .openArray :: (itemTokens items ++ [.closeArray])
  | object fields => .openObject :: (fieldTokens fields ++ [.closeObject])

/-- The tokens between the brackets of an array. -/
def itemTokens : List Json → List Token
  | [] => []
  | [item] => tokens item
  | item :: rest => tokens item ++ .comma :: itemTokens rest

/-- The tokens between the braces of an object. -/
def fieldTokens : List (Option String × Json) → List Token
  | [] => []
  | [(key, value)] => .string key :: .colon :: tokens value
  | (key, value) :: rest =>
    .string key :: .colon :: (tokens value ++ .comma :: fieldTokens rest)

end

-- ================================================================ reading

/-- An array or object that is still open, as far as it is read. -/
inductive Frame where
  /-- An array with these items, the last one first. -/
  | array (items : List Json)
  /-- An object with these fields, the last one first, and the key of the
  value that comes next. -/
  | object (fields : List (Option String × Json)) (key : Option String)

/-- What has to come next while a value is read. The frames are those that
are open around this place, the innermost one first. -/
inductive Reading where
  /-- A value. -/
  | atValue (frames : List Frame)
  /-- The first item of an array or the end of the array. -/
  | atFirstItem (frames : List Frame)
  /-- The first key of an object or the end of the object. -/
  | atFirstKey (frames : List Frame)
  /-- A key after these fields, the last one first. -/
  | atKey (fields : List (Option String × Json)) (frames : List Frame)
  /-- The colon after a key. -/
  | atColon (fields : List (Option String × Json)) (key : Option String)
      (frames : List Frame)
  /-- Whatever may follow a complete value. -/
  | after (value : Json) (frames : List Frame)

/-- Takes in a token where a value starts. -/
def Reading.start (frames : List Frame) : Token → Option Reading
  | .null => some (.after .null frames)
  | .bool b => some (.after (.bool b) frames)
  | .number n => some (.after (.number n) frames)
  | .string text? => some (.after (.string text?) frames)
  | .openArray => some (.atFirstItem frames)
  | .openObject => some (.atFirstKey frames)
  | _ => none

/-- Takes in one more token; none if it may not come here. -/
def Reading.step : Reading → Token → Option Reading
  | .atValue frames, token => start frames token
  | .atFirstItem frames, .closeArray => some (.after (.array []) frames)
  | .atFirstItem frames, token => start (.array [] :: frames) token
  | .atFirstKey frames, .closeObject => some (.after (.object []) frames)
  | .atFirstKey frames, .string key => some (.atColon [] key frames)
  | .atKey fields frames, .string key => some (.atColon fields key frames)
  | .atColon fields key frames, .colon =>
    some (.atValue (.object fields key :: frames))
  | .after item (.array items :: frames), .comma =>
    some (.atValue (.array (item :: items) :: frames))
  | .after item (.array items :: frames), .closeArray =>
    some (.after (.array (item :: items).reverse) frames)
  | .after value (.object fields key :: frames), .comma =>
    some (.atKey ((key, value) :: fields) frames)
  | .after value (.object fields key :: frames), .closeObject =>
    some (.after (.object ((key, value) :: fields).reverse) frames)
  | _, _ => none

/-- The value that has been read, if it is complete. -/
def Reading.finish : Reading → Option Json
  | .after value [] => some value
  | _ => none

/-- The value that tokens make up. -/
def ofTokens? (row : List Token) : Option Json := do
  (← row.foldlM Reading.step (.atValue [])).finish

-- =================================================================== texts

/-- The text of a value, without blanks between its tokens. -/
def render (value : Json) : String :=
  String.ofList (value.tokens.flatMap Token.chars)

/-- The value of a text. -/
def read? (text : String) : Option Json := do
  ofTokens? (← lex text.toList)

end FaultStatus.Json
