import ProxyFleet.Toml.Span

/-!
# Faults in configuration documents

What can be wrong with the text of a configuration document, and how the fault is shown together
with its line.
-/

namespace ProxyFleet

/-- What is wrong with the text of a configuration document. -/
inductive TomlFault
  /-- A key should stand here. -/
  | key
  /-- A key has no value. -/
  | keyEnd
  /-- A value should stand here. -/
  | value
  /-- Something stands behind a value on its line. -/
  | lineEnd
  /-- A comment or a line does not end well. -/
  | lineBreak
  /-- A text in quotes does not end well. -/
  | basicString
  /-- A text in single quotes does not end well. -/
  | literalString
  /-- A text in threefold quotes does not end well. -/
  | longBasicString
  /-- A text in threefold single quotes does not end well. -/
  | longLiteralString
  /-- A backslash stands before a wrong character. -/
  | escape
  /-- A code of four digits is wrong. -/
  | shortCode
  /-- A code of eight digits is wrong. -/
  | longCode
  /-- A list does not end well. -/
  | array
  /-- A table in braces does not end well. -/
  | inlineTable
  /-- The name of a table does not end well. -/
  | header
  /-- The name of a table in a series does not end well. -/
  | seriesHeader
  /-- Something stands behind the name of a table. -/
  | headerEnd
  /-- A digit is missing. -/
  | digit (what : String)
  /-- A truth value or a special number is misspelt. -/
  | word
  /-- A number does not fit. -/
  | tooLarge
  /-- A date or a time is misspelt. -/
  | moment
  /-- A day, an hour or the like does not exist. -/
  | outOfRange
  /-- Lists and tables are nested too deeply. -/
  | tooDeep
  /-- A key stands twice in a table, which is named by its path if it is known. -/
  | duplicate (key : String) (table : Option (List String))
  /-- A key leads through a value of a kind that is no table. -/
  | notTable (path : List String) (kind : String)
deriving DecidableEq, Repr

namespace TomlFault

def describe : TomlFault → String
  | key => "invalid key"
  | keyEnd => "expected `.`, `=`"
  | value => "invalid string\nexpected `\"`, `'`"
  | lineEnd => "expected newline, `#`"
  | lineBreak => ""
  | basicString => "invalid basic string"
  | literalString => "invalid literal string"
  | longBasicString => "invalid multiline basic string"
  | longLiteralString => "invalid multiline literal string"
  | escape => "invalid escape sequence\nexpected `b`, `f`, `n`, `r`, `t`, `u`, `U`, `\\`, `\"`"
  | shortCode => "invalid unicode 4-digit hex code"
  | longCode => "invalid unicode 8-digit hex code"
  | array => "invalid array\nexpected `]`"
  | inlineTable => "invalid inline table\nexpected `\x7d`"
  | header => "invalid table header\nexpected `.`, `]`"
  | seriesHeader => "invalid table header\nexpected `.`, `]]`"
  | headerEnd => "invalid table header\nexpected newline, `#`"
  | digit what => "invalid " ++ what ++ "\nexpected digit"
  | word => "invalid string\nexpected `\"`, `'`"
  | tooLarge => "number too large to fit in target type"
  | moment => "invalid date-time"
  | outOfRange => "value is out of range"
  | tooDeep => "recursion limit exceeded"
  | duplicate name none => "duplicate key `" ++ name ++ "`"
  | duplicate name (some []) => "duplicate key `" ++ name ++ "` in document root"
  | duplicate name (some table) =>
    "duplicate key `" ++ name ++ "` in table `" ++ ".".intercalate table ++ "`"
  | notTable path kind =>
    "dotted key `" ++ ".".intercalate path ++ "` attempted to extend non-table type (" ++ kind ++ ")"

end TomlFault

structure TomlError where
  fault : TomlFault
  /-- The characters from the place on. -/
  rest : List Char

namespace TomlError

/-- The fault in words, below the line where it was noticed. -/
def message (text : String) (e : TomlError) : String :=
  (Span.ofPlace e.rest).complaint text e.fault.describe

end TomlError

end ProxyFleet
