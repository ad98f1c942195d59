import ProxyFleet.Toml.Moment
import ProxyFleet.Toml.Tree

/-!
# Values of configuration documents

The reader takes a value off the front of a list of characters. Lists may go over lines, tables in
braces may not.
-/

namespace ProxyFleet.Toml

/-- Takes the rest of a word of which the first character is known. -/
def readWord (word : List Char) (value : Toml) : Read Toml := fun input ↦
  if word.isPrefixOf input then .ok (value, input.drop word.length) else fail .word input

/-- The fault of a list whose next item is none. -/
def itemFault (e : TomlError) : TomlError := if e.fault = .value then { e with fault := .array } else e

structure BracedEntry where
  key : KeyPath
  value : Toml
  /-- Where the value stands. -/
  span : Span

/-- The table of some entries in braces. -/
def ofBraced (entries : List BracedEntry) : Except TomlFault Toml :=
  (entries.foldlM (fun t e ↦ TomlTree.insert none e.key e.value e.span t) ⟨.header, none, []⟩).map
    fun t ↦ .table (TomlTree.toEntries t.entries)

/-- Takes the closing brace of a table with some entries, which stand behind a place. -/
def endBraces (start : List Char) (entries : List BracedEntry) : Read Toml := fun input ↦
  match ofBraced entries, input with
  | .error fault, _ => fail fault start
  | .ok value, '}' :: rest => .ok (value, rest)
  | .ok _, rest => fail .inlineTable rest

mutual

/-- Takes a value. The first argument bounds the steps, the second the levels that may be entered.
-/
def readValue : Nat → Nat → Read Toml
  | 0, _, input => fail .tooDeep input
  | steps + 1, depth, input =>
    match input with
    | [] => fail .value []
    | c :: rest =>
      match c with
      | '"' => (readText input).map fun (s, rest) ↦ (.string s, rest)
      | '\'' => (readText input).map fun (s, rest) ↦ (.string s, rest)
      | '[' =>
        match depth with
        | 0 => fail .tooDeep input
        | depth + 1 => (readItems steps depth rest).map fun (items, rest) ↦ (.array items, rest)
      | '{' =>
        match depth with
        | 0 => fail .tooDeep input
        | depth + 1 =>
          match readEntries steps depth rest with
          | .error e => .error e
          | .ok (entries, behind) => endBraces rest entries behind
      | 't' => readWord "true".toList (.bool true) input
      | 'f' => readWord "false".toList (.bool false) input
      | 'i' => readWord "inf".toList (.float .infinity) input
      | 'n' => readWord "nan".toList (.float .nan) input
      | c =>
        if c = '+' ∨ c = '-' ∨ c.isDigit then readNumberOrMoment input else fail .value input

/-- Takes the items of a list and its closing bracket. -/
def readItems : Nat → Nat → Read (List (Placed Toml))
  | 0, _, input => fail .tooDeep input
  | steps + 1, depth, input =>
    match skipAll steps input with
    | ']' :: rest => .ok ([], rest)
    | input =>
      match readValue steps depth input with
      | .error e => .error (itemFault e)
      | .ok (value, rest) =>
        let item : Placed Toml := ⟨value, ⟨none, some ⟨input, rest⟩⟩⟩
        match skipAll steps rest with
        | ',' :: rest => (readItems steps depth rest).map fun (items, rest) ↦ (item :: items, rest)
        | ']' :: rest => .ok ([item], rest)
        | rest => fail .array rest

/-- Takes entries up to the place where a closing brace should stand. A comma that no key follows
stays. -/
def readEntries : Nat → Nat → Read (List BracedEntry)
  | 0, _, input => fail .tooDeep input
  | steps + 1, depth, input =>
    match readKey input with
    | .error e => if e.fault = .key then .ok ([], skipSpace input) else .error e
    | .ok (key, '=' :: rest) => do
      let start := skipSpace rest
      let (value, rest) ← readValue steps depth start
      let entry : BracedEntry := ⟨key, value, ⟨start, rest⟩⟩
      match skipSpace rest with
      | ',' :: rest =>
        match readEntries steps depth rest with
        | .error e => .error e
        | .ok ([], _) => .ok ([entry], ',' :: rest)
        | .ok (entries, rest) => .ok (entry :: entries, rest)
      | rest => .ok ([entry], rest)
    | .ok (_, rest) => fail .keyEnd rest

end

end ProxyFleet.Toml
