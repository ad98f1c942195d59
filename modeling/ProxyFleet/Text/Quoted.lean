import ProxyFleet.Text.Printable

/-!
# Quoted texts

A text as it is shown within a sentence: in quotes, and with every character that could not be seen
there written by an escape.
-/

namespace ProxyFleet.Text

/-- The code of a character in braces, behind a backslash and a letter. -/
def codeEscape (c : Char) : List Char :=
  ['\\', 'u', '{'] ++ Nat.toDigits 16 c.toNat ++ ['}']

def quotedChar (c : Char) : List Char :=
  match c with
  | '\x00' => ['\\', '0']
  | '\t' => ['\\', 't']
  | '\n' => ['\\', 'n']
  | '\r' => ['\\', 'r']
  | '"' => ['\\', '"']
  | '\\' => ['\\', '\\']
  | c => if isPrintable c then [c] else codeEscape c

def quoted (text : String) : String :=
  .ofList ('"' :: text.toList.flatMap quotedChar ++ ['"'])

end ProxyFleet.Text
