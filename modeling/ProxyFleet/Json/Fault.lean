/-!
# What can be wrong with the text of a document

Faults with the place where they are noticed: just before or just behind the next character.
-/

namespace ProxyFleet

/-- A reason why a text is no document. -/
inductive JsonFault
  /-- The text ends where a value is due. -/
  | endInValue
  | endInList
  | endInObject
  | endInString
  /-- No value begins here. -/
  | noValue
  /-- A word that begins like a value is none. -/
  | badWord
  | noColon
  /-- An item of a list is followed by something else. -/
  | noListSeparator
  /-- An entry of an object is followed by something else. -/
  | noObjectSeparator
  /-- A comma is not followed by a further item. -/
  | trailingComma
  /-- The value is followed by something else. -/
  | trailingCharacters
  | keyNotString
  /-- A number is not well formed. -/
  | badNumber
  /-- A number is beyond all doubles. -/
  | outOfRange
  /-- A backslash is followed by no escape. -/
  | badEscape
  /-- Half of a pair of code units stands alone. -/
  | loneSurrogate
  /-- The second half of a pair of code units does not follow. -/
  | unpairedSurrogate
  /-- A control character stands in a string. -/
  | controlCharacter
  | tooDeep
deriving DecidableEq, Repr

def JsonFault.describe : JsonFault → String
  | endInValue => "EOF while parsing a value"
  | endInList => "EOF while parsing a list"
  | endInObject => "EOF while parsing an object"
  | endInString => "EOF while parsing a string"
  | noValue => "expected value"
  | badWord => "expected ident"
  | noColon => "expected `:`"
  | noListSeparator => "expected `,` or `]`"
  | noObjectSeparator => "expected `,` or `\x7d`"
  | trailingComma => "trailing comma"
  | trailingCharacters => "trailing characters"
  | keyNotString => "key must be a string"
  | badNumber => "invalid number"
  | outOfRange => "number out of range"
  | badEscape => "invalid escape"
  | loneSurrogate => "lone leading surrogate in hex escape"
  | unpairedSurrogate => "unexpected end of hex escape"
  | controlCharacter => "control character (\\u0000-\\u001F) found while parsing a string"
  | tooDeep => "recursion limit exceeded"

structure JsonError where
  fault : JsonFault
  /-- The characters that were not yet taken. -/
  rest : List Char
  /-- Whether the first of them is the cause, so that the place is behind its first byte. -/
  ahead : Bool

namespace JsonError

/-- The line, counted from one, and the number of bytes before the place in its line. -/
def position : Nat × Nat → List Char → Nat × Nat
  | place, [] => place
  | (line, column), c :: rest =>
    position (if c = '\n' then (line + 1, 0) else (line, column + c.utf8Size)) rest

def message (text : String) (e : JsonError) : String :=
  let all := text.toList
  let before := all.take (all.length - e.rest.length)
  let start := position (1, 0) before
  let (line, column) :=
    match e.ahead, e.rest with
    | true, c :: _ => if c = '\n' then (start.1 + 1, 0) else (start.1, start.2 + 1)
    | _, _ => start
  e.fault.describe ++ " at line " ++ toString line ++ " column " ++ toString column

end JsonError

end ProxyFleet
