/-!
# Stretches of documents

A place in a document is given by the characters from it on, and a stretch by two places. A
complaint about a stretch shows the line where it begins and underlines it as far as that line goes.
-/

namespace ProxyFleet

/-- A stretch of a document. -/
structure Span where
  /-- The characters from its first one on. -/
  start : List Char
  /-- The characters behind it. -/
  behind : List Char

namespace Span

/-- The stretch of the one character at a place, or of none at the end. -/
def ofPlace (place : List Char) : Span := ⟨place, place.drop 1⟩

/-- From one stretch up to the end of another. -/
def upTo (first last : Span) : Span := ⟨first.start, last.behind⟩

def byteSize (chars : List Char) : Nat := (String.ofList chars).utf8ByteSize

def size (s : Span) : Nat := byteSize s.start - byteSize s.behind

/-! ## Lines -/

def lines (text : List Char) : List (List Char) :=
  text.foldr
    (fun c lines ↦
      match c, lines with
      | '\n', lines => [] :: lines
      | c, line :: lines => (c :: line) :: lines
      | c, [] => [[c]])
    [[]]

/-- The number of the last line of a text, counted from zero, and what it has. -/
def lastLine (text : List Char) : Nat × List Char :=
  match (lines text).reverse with
  | line :: before => (before.length, line)
  | [] => (0, [])

/-- The line and the column where a stretch begins, counted from zero. A column is the number of
characters before it, or of bytes if the stretch begins with a character of several bytes. The end
of a text lies behind its last character, also if that ends a line. -/
def position (text : List Char) (s : Span) : Nat × Nat :=
  match s.start with
  | c :: _ =>
    let (number, before) := lastLine (text.take (text.length - s.start.length))
    (number, if c.utf8Size = 1 then before.length else byteSize before)
  | [] =>
    if text.isEmpty then (0, 0)
    else
      let (number, before) := lastLine text.dropLast
      (number, before.length + 1)

/-- So many times a character. -/
def times (count : Nat) (c : Char) : String := .ofList (List.replicate count c)

/-- A description below the line where a stretch begins. -/
def complaint (s : Span) (text description : String) : String :=
  let (line, column) := s.position text.toList
  let content := (lines text.toList).getD line []
  let number := toString (line + 1)
  let margin := times (number.length + 1) ' ' ++ "|"
  let width := max 1 (min s.size (byteSize content - column))
  "TOML parse error at line " ++ number ++ ", column " ++ toString (column + 1) ++ "\n"
    ++ margin ++ "\n"
    ++ number ++ " | " ++ .ofList content ++ "\n"
    ++ margin ++ times (column + 1) ' ' ++ times width '^' ++ "\n"
    ++ description ++ "\n"

end Span

end ProxyFleet
