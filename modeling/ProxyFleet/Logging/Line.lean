import ProxyFleet.Logging.Message

/-!
# Log messages on lines

A log message takes one line: an object with its level, its fields and its target, or the same for
people to read.
-/

namespace ProxyFleet

namespace LogMessage

def hexDigit (n : Nat) : Char := "0123456789abcdef".toList.getD n '0'

/-- A character as it stands in quotes. -/
def escape (c : Char) : List Char :=
  if c = '"' then ['\\', '"']
  else if c = '\\' then ['\\', '\\']
  else if c = '\n' then ['\\', 'n']
  else if c < ' ' then ['\\', 'u', '0', '0', hexDigit (c.toNat / 16), hexDigit (c.toNat % 16)]
  else [c]

def quote (text : String) : String := "\"" ++ .ofList (text.toList.flatMap escape) ++ "\""

/-- The value of a field. -/
def valueText : LogValue → String
  | .text value => quote value
  | .number value => toString value
  | .flag value => if value then "true" else "false"

/-- Entries of an object in braces. -/
def braced (entries : List (String × String)) : String :=
  "\x7b" ++ ",".intercalate (entries.map fun (key, value) ↦ quote key ++ ":" ++ value) ++ "\x7d"

def toObject (m : LogMessage) : String :=
  braced [
    ("level", quote m.level.word),
    ("fields", braced (("message", quote m.text) :: m.fields.map fun (key, v) ↦ (key, valueText v))),
    ("target", quote m.target)]

/-- The message for people to read. -/
def toPlain (m : LogMessage) : String :=
  m.level.word ++ " " ++ m.target ++ ": " ++ m.text
    ++ String.join (m.fields.map fun (key, v) ↦ " " ++ key ++ "=" ++ valueText v)

def toLine (json : Bool) (m : LogMessage) : String := if json then m.toObject else m.toPlain

end LogMessage

end ProxyFleet
