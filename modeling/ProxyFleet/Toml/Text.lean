import ProxyFleet.Toml.Fault

/-!
# Blanks, texts and keys of configuration documents

A text stands in quotes, single or threefold. In quotes a backslash begins an escape, in single
quotes it is a character as any other. A text in threefold quotes may go over lines and may have one
or two quotes in a row, also at its end. A key is a text in quotes or a word, and points join keys.
-/

namespace ProxyFleet.Toml

/-- What a reader takes off the front, and what it leaves. -/
abbrev Read (α : Type) := List Char → Except TomlError (α × List Char)

def fail {α : Type} (fault : TomlFault) (rest : List Char) : Except TomlError α :=
  .error ⟨fault, rest⟩

/-! ## Blanks -/

/-- Whether a character is a blank within a line. -/
def isSpace (c : Char) : Bool := c == ' ' || c == '\t'

/-- The characters behind the blanks at the front. -/
def skipSpace : List Char → List Char
  | [] => []
  | c :: rest => if isSpace c then skipSpace rest else c :: rest

def isComment (c : Char) : Bool := c == '\t' || (' ' ≤ c && c != '\x7f')

/-- The characters behind a comment, if there is one. -/
def skipComment : List Char → List Char
  | '#' :: rest => rest.dropWhile isComment
  | rest => rest

/-- The characters behind a line break, if there is one. -/
def lineBreak? : List Char → Option (List Char)
  | '\n' :: rest => some rest
  | '\r' :: '\n' :: rest => some rest
  | _ => none

/-- The characters behind the rest of a line: blanks, a comment and a line break, which the end of
the document stands in for. -/
def endLine (fault : TomlFault) (input : List Char) : Except TomlError (List Char) :=
  match skipSpace input with
  | '#' :: rest =>
    match skipComment ('#' :: rest) with
    | [] => .ok []
    | rest =>
      match lineBreak? rest with
      | some rest => .ok rest
      | none => fail fault rest
  | [] => .ok []
  | rest =>
    match lineBreak? rest with
    | some rest => .ok rest
    | none => fail fault rest

/-- The characters behind blanks and line breaks, of at most so many characters. -/
def skipLines : Nat → List Char → List Char
  | 0, rest => rest
  | steps + 1, input =>
    match lineBreak? (skipSpace input) with
    | some rest => skipLines steps rest
    | none => skipSpace input

/-- The characters behind blanks, line breaks and comments, of at most so many characters. A comment
has to end with its line. -/
def skipAll : Nat → List Char → List Char
  | 0, rest => rest
  | steps + 1, input =>
    let here := skipSpace input
    match lineBreak? (skipComment here) with
    | some rest => skipAll steps rest
    | none => here

/-! ## Escapes -/

def hexDigit? (c : Char) : Option Nat :=
  if '0' ≤ c ∧ c ≤ '9' then some (c.toNat - '0'.toNat)
  else if 'a' ≤ c ∧ c ≤ 'f' then some (c.toNat - 'a'.toNat + 10)
  else if 'A' ≤ c ∧ c ≤ 'F' then some (c.toNat - 'A'.toNat + 10)
  else none

/-- Takes the character with a code of so many hexadecimal digits. -/
def readCode (count : Nat) (fault : TomlFault) : Read Char := fun input ↦
  let digits := (input.take count).filterMap hexDigit?
  let code := digits.foldl (fun n d ↦ n * 16 + d) 0
  if h : digits.length = count ∧ code.isValidChar then .ok (.ofNatAux code h.2, input.drop count)
  else fail fault input

/-- Takes the character that an escape stands for, behind its backslash. -/
def readEscape : Read Char
  | [] => fail .basicString []
  | c :: rest =>
    match c with
    | 'b' => .ok ('\x08', rest)
    | 't' => .ok ('\t', rest)
    | 'n' => .ok ('\n', rest)
    | 'f' => .ok ('\x0c', rest)
    | 'r' => .ok ('\r', rest)
    | '"' => .ok ('"', rest)
    | '\\' => .ok ('\\', rest)
    | 'u' => readCode 4 .shortCode rest
    | 'U' => readCode 8 .longCode rest
    | _ => fail .escape rest

/-! ## Texts -/

/-- Whether a character may stand for itself in a text on one line. -/
def isPlain (c : Char) : Bool := isComment c

/-- Takes the characters of a text in quotes up to the closing one, of at most so many characters.
-/
def readBasic : Nat → Read (List Char)
  | 0, rest => fail .basicString rest
  | _ + 1, [] => fail .basicString []
  | steps + 1, c :: rest =>
    if c = '"' then .ok ([], rest)
    else if c = '\\' then do
      let (char, rest) ← readEscape rest
      let (chars, rest) ← readBasic steps rest
      .ok (char :: chars, rest)
    else if isPlain c then do
      let (chars, rest) ← readBasic steps rest
      .ok (c :: chars, rest)
    else fail .basicString (c :: rest)

/-- Takes the characters of a text in single quotes up to the closing one. -/
def readLiteral : Read (List Char)
  | [] => fail .literalString []
  | c :: rest =>
    if c = '\'' then .ok ([], rest)
    else if isPlain c then do
      let (chars, rest) ← readLiteral rest
      .ok (c :: chars, rest)
    else fail .literalString (c :: rest)

/-- Takes the characters of a text in threefold quotes up to the closing ones, of at most so many
characters. Of three to five quotes in a row the last three close the text. -/
def readLong (quote : Char) (fault : TomlFault) : Nat → Read (List Char)
  | 0, rest => fail fault rest
  | _ + 1, [] => fail fault []
  | steps + 1, c :: rest =>
    if c = quote then
      let count := ((c :: rest).takeWhile (· = quote)).length
      if count < 3 then do
        let (chars, rest) ← readLong quote fault steps ((c :: rest).drop count)
        .ok (List.replicate count quote ++ chars, rest)
      else .ok (List.replicate (min count 5 - 3) quote, (c :: rest).drop (min count 5))
    else
      match lineBreak? (c :: rest) with
      | some rest => do
        let (chars, rest) ← readLong quote fault steps rest
        .ok ('\n' :: chars, rest)
      | none =>
        if c = '\\' ∧ quote = '"' then
          match lineBreak? (skipSpace rest) with
          | some rest => readLong quote fault steps (skipLines steps rest)
          | none => do
            let (char, rest) ← readEscape rest
            let (chars, rest) ← readLong quote fault steps rest
            .ok (char :: chars, rest)
        else if isPlain c then do
          let (chars, rest) ← readLong quote fault steps rest
          .ok (c :: chars, rest)
        else fail fault (c :: rest)

/-- The characters behind a line break at the front, which does not belong to a text. -/
def skipFirstBreak (input : List Char) : List Char := (lineBreak? input).getD input

/-- Takes a text in any of the four kinds of quotes. -/
def readText : Read String := fun input ↦ do
  let (chars, rest) ←
    match input with
    | '"' :: '"' :: '"' :: rest =>
      readLong '"' .longBasicString (rest.length + 1) (skipFirstBreak rest)
    | '\'' :: '\'' :: '\'' :: rest =>
      readLong '\'' .longLiteralString (rest.length + 1) (skipFirstBreak rest)
    | '"' :: rest => readBasic (rest.length + 1) rest
    | '\'' :: rest => readLiteral rest
    | rest => fail .value rest
  .ok (.ofList chars, rest)

/-! ## Keys -/

def isWord (c : Char) : Bool :=
  ('A' ≤ c && c ≤ 'Z') || ('a' ≤ c && c ≤ 'z') || ('0' ≤ c && c ≤ '9') || c == '-' || c == '_'

/-- Takes a key without points. -/
def readSimpleKey : Read String := fun input ↦
  match input with
  | '"' :: rest => (readBasic (rest.length + 1) rest).map fun (chars, rest) ↦ (.ofList chars, rest)
  | '\'' :: rest => (readLiteral rest).map fun (chars, rest) ↦ (.ofList chars, rest)
  | rest =>
    match rest.takeWhile isWord with
    | [] => fail .key rest
    | word => .ok (.ofList word, rest.dropWhile isWord)

/-- A key without points, and where it stands. -/
structure Key where
  name : String
  /-- Where it stands. -/
  span : Span

/-- Takes the keys that points join to one, at most so many. A point that no key follows stays. -/
def readKeys : Nat → Read (List Key)
  | 0, input => fail .key input
  | steps + 1, input => do
    let start := skipSpace input
    let (name, behind) ← readSimpleKey start
    let key : Key := ⟨name, ⟨start, behind⟩⟩
    match skipSpace behind with
    | '.' :: rest =>
      match readKeys steps rest with
      | .ok (keys, rest) => .ok (key :: keys, rest)
      | .error e => if e.fault = .key then .ok ([key], '.' :: rest) else .error e
    | rest => .ok ([key], rest)

/-- The number of levels that may not be reached. -/
def levels : Nat := 80

/-- A key with points: the keys that lead to the last one, and the last one. -/
structure KeyPath where
  /-- The keys that lead to the last one. -/
  path : List Key
  last : Key

/-- The names of some keys. -/
def names (path : List Key) : List String := path.map (·.name)

/-- Takes a key, blanks around it included. -/
def readKey : Read KeyPath := fun input ↦ do
  let (keys, rest) ← readKeys (input.length + 1) input
  match keys.getLast? with
  | none => fail .key input
  | some last =>
    if levels ≤ keys.length then fail .tooDeep input else .ok (⟨keys.dropLast, last⟩, rest)

end ProxyFleet.Toml
