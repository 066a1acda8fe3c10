import Express.Json.Token

/-!
# JSON values

* `Value` is a JSON value. The members of an object keep their order and may repeat a key.
* `Value.tokens` are the tokens of a value, `Value.text` is its text without blanks.
* `Value.ofTokens?` reads tokens from left to right. `Stage` says what may come next, and the
  frames are the arrays and objects that are still open, innermost first.
* `Value.ofText?` reads a text that holds one value and nothing else.
-/

set_option autoImplicit false

namespace Express.Json

/-- A JSON value. A number is kept as it is written. -/
inductive Value where
  | null
  | bool (value : Bool)
  | number (lexeme : List Char)
  | string (body : List Piece)
  | array (items : List Value)
  | object (members : List (List Piece × Value))

namespace Value

/-- The value that is a string. -/
def ofString (s : String) : Value := .string (Piece.ofString s)

/-- The string that a value is, if it is one and stands for characters. -/
def asString? : Value → Option String
  | .string body => (Piece.decode? body).map String.ofList
  | _ => none

/-! ## Writing -/

mutual

/-- The tokens of a value. -/
def tokens : Value → List Token
  | .null => [.null]
  | .bool value => [.bool value]
  | .number lexeme => [.number lexeme]
  | .string body => [.string body]
  | .array [] => [.leftBracket, .rightBracket]
  | .array (item :: rest) => .leftBracket :: tokens item ++ furtherItems rest
  | .object [] => [.leftBrace, .rightBrace]
  | .object ((key, value) :: rest) =>
    .leftBrace :: .string key :: .colon :: tokens value ++ furtherMembers rest

/-- The tokens of the items behind the first one, and of the end of the array. -/
def furtherItems : List Value → List Token
  | [] => [.rightBracket]
  | item :: rest => .comma :: tokens item ++ furtherItems rest

/-- The tokens of the members behind the first one, and of the end of the object. -/
def furtherMembers : List (List Piece × Value) → List Token
  | [] => [.rightBrace]
  | (key, value) :: rest =>
    .comma :: .string key :: .colon :: tokens value ++ furtherMembers rest

end

/-- The text of a value, without blanks. -/
def text (v : Value) : String := String.ofList (v.tokens.flatMap Token.text)

/-! ## Reading -/

/-- An array or object that is being read: what it holds so far, last first, and the key of the
member that is being read. -/
inductive Frame where
  | array (done : List Value)
  | object (done : List (List Piece × Value)) (key : List Piece)

/-- What a reader waits for. -/
inductive Stage where
  /-- A value. -/
  | value
  /-- The first item of an array, or its end. -/
  | firstItem
  /-- The first key of an object, or its end. -/
  | firstKey
  /-- A further key of the object that holds these members, last first. -/
  | key (done : List (List Piece × Value))
  /-- The colon behind a key. -/
  | colon (done : List (List Piece × Value)) (key : List Piece)
  /-- What may follow a value: a comma, the end of what holds it, or nothing. -/
  | after (value : Value)

/-- The first token of a value. -/
def start (frames : List Frame) : Token → Option (Stage × List Frame)
  | .null => some (.after .null, frames)
  | .bool value => some (.after (.bool value), frames)
  | .number lexeme => some (.after (.number lexeme), frames)
  | .string body => some (.after (.string body), frames)
  | .leftBracket => some (.firstItem, frames)
  | .leftBrace => some (.firstKey, frames)
  | _ => none

/-- One token. -/
def step : Stage × List Frame → Token → Option (Stage × List Frame)
  | (.value, frames), token => start frames token
  | (.firstItem, frames), .rightBracket => some (.after (.array []), frames)
  | (.firstItem, frames), token => start (.array [] :: frames) token
  | (.firstKey, frames), .rightBrace => some (.after (.object []), frames)
  | (.firstKey, frames), .string key => some (.colon [] key, frames)
  | (.key done, frames), .string key => some (.colon done key, frames)
  | (.colon done key, frames), .colon => some (.value, .object done key :: frames)
  | (.after value, .array done :: frames), .comma =>
    some (.value, .array (value :: done) :: frames)
  | (.after value, .array done :: frames), .rightBracket =>
    some (.after (.array (value :: done).reverse), frames)
  | (.after value, .object done key :: frames), .comma =>
    some (.key ((key, value) :: done), frames)
  | (.after value, .object done key :: frames), .rightBrace =>
    some (.after (.object ((key, value) :: done).reverse), frames)
  | _, _ => none

/-- The value that a reader has read when nothing is left open. -/
def finished? : Stage × List Frame → Option Value
  | (.after value, []) => some value
  | _ => none

/-- The value with these tokens. -/
def ofTokens? (tokens : List Token) : Option Value := do
  finished? (← tokens.foldlM step (.value, []))

/-- The value in a text. -/
def ofText? (text : String) : Option Value := do
  ofTokens? (← Token.ofText? text.toList)

end Value

end Express.Json
