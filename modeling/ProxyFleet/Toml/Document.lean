import ProxyFleet.Toml.Reader

/-!
# Reading configuration documents

A document is a sequence of lines: entries, headers of tables and of series of tables, comments and
empty lines. An entry belongs to the table whose header came last.
-/

namespace ProxyFleet.Toml

/-- A document of which some lines were read. -/
structure Draft where
  root : OpenTable TomlTree := { origin := .header }
  /-- The path of the table to which entries belong. -/
  current : List Key := []

namespace Draft

/-- The document with a table that a path leads to changed. -/
def change (d : Draft) (path : List Key) (change : TomlTree.Change) : Except TomlFault Draft :=
  (TomlTree.changeAt .nested change [] path d.root).map fun root ↦ { d with root := root }

/-- Adds a value to the table whose header came last, which then goes up to that value. -/
def addEntry (d : Draft) (key : KeyPath) (value : Toml) (span : Span) : Except TomlFault Draft :=
  d.change d.current fun t ↦
    TomlTree.insert (some (names d.current)) key value span
      { t with span := t.span.map (·.upTo span) }

def beginTable (d : Draft) (key : KeyPath) (header : Span) : Except TomlFault Draft :=
  (d.change key.path (TomlTree.beginTable key header)).map fun d ↦
    { d with current := key.path ++ [key.last] }

def beginSeries (d : Draft) (key : KeyPath) (header : Span) : Except TomlFault Draft :=
  (d.change key.path (TomlTree.beginSeries key header)).map fun d ↦
    { d with current := key.path ++ [key.last] }

end Draft

/-- The result of a change, or its fault at a place. -/
def noted (start : List Char) : Except TomlFault Draft → Except TomlError Draft
  | .error fault => fail fault start
  | .ok d => .ok d

structure Header where
  /-- The key in the brackets. -/
  key : KeyPath
  /-- From the first bracket up to the last one. -/
  span : Span

/-- Takes a header, of so many brackets on either side, and the end of its line. -/
def readHeader (brackets : Nat) (fault : TomlFault) : Read Header := fun input ↦ do
  let (key, rest) ← readKey (input.drop brackets)
  if (List.replicate brackets ']').isPrefixOf rest then
    let behind := rest.drop brackets
    let rest ← endLine .headerEnd behind
    .ok (⟨key, ⟨input, behind⟩⟩, rest)
  else fail fault rest

/-- Takes a line: an entry, a header, a comment or nothing. -/
def readLine (d : Draft) : Read Draft := fun input ↦
  match input with
  | '#' :: _ => (endLine .lineBreak input).map fun rest ↦ (d, rest)
  | '\n' :: rest => .ok (d, rest)
  | '\r' :: '\n' :: rest => .ok (d, rest)
  | '\r' :: _ => fail .lineBreak input
  | '[' :: '[' :: _ => do
    let (header, rest) ← readHeader 2 .seriesHeader input
    let d ← noted input (d.beginSeries header.key header.span)
    .ok (d, rest)
  | '[' :: _ => do
    let (header, rest) ← readHeader 1 .header input
    let d ← noted input (d.beginTable header.key header.span)
    .ok (d, rest)
  | _ => do
    let (key, rest) ← readKey input
    match rest with
    | '=' :: rest =>
      let start := skipSpace rest
      let (value, behind) ← readValue (3 * input.length) (levels - 1) start
      let rest ← endLine .lineEnd behind
      let d ← noted input (d.addEntry key value ⟨start, behind⟩)
      .ok (d, rest)
    | rest => fail .keyEnd rest

/-- Takes lines up to the end, at most so many. -/
def readLines : Nat → Draft → List Char → Except TomlError Draft
  | 0, d, _ => .ok d
  | steps + 1, d, input =>
    match skipSpace input with
    | [] => .ok d
    | input => do
      let (d, rest) ← readLine d input
      readLines steps d rest

/-- The mark of byte order, which may stand in front of a document. -/
def byteOrderMark : Char := '\ufeff'

/-- The characters behind a mark of byte order. -/
def withoutMark : List Char → List Char
  | c :: rest => if c = byteOrderMark then rest else c :: rest
  | [] => []

/-- Reads a document: its outermost table. -/
def parse (text : String) : Except TomlError Toml :=
  let input := withoutMark text.toList
  (readLines (input.length + 1) {} input).map fun d ↦ .table (TomlTree.toEntries d.root.entries)

end ProxyFleet.Toml
