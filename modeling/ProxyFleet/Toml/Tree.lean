import ProxyFleet.NameMap
import ProxyFleet.Toml.Text
import ProxyFleet.Toml.Value

/-!
# Tables in the making

A document fills tables entry by entry, and a table can come up in three ways: by its own header, by
the header of a table inside it, or by a key with points. Only a table that did not come up by a
header of its own may get one later, and only tables of keys with points grow by such keys. Along a
path a series of tables stands for its newest table.
-/

namespace ProxyFleet

/-- How a table came up. -/
inductive TableOrigin
  /-- By its own header, or in braces. -/
  | header
  /-- By the header of a table inside it. -/
  | nested
  /-- By a key with points. -/
  | dotted
deriving DecidableEq, Repr

/-- A table in the making. -/
structure OpenTable (τ : Type) where
  /-- How it came up. -/
  origin : TableOrigin
  /-- From its header up to its last value, or from brace to brace. -/
  span : Option Span := none
  /-- What it has, in the order in which the keys came up. -/
  entries : List (String × τ) := []

/-- What stands under a key of a table in the making. -/
inductive TomlTree
  /-- A value that is complete. -/
  | leaf (value : Placed Toml)
  /-- A table, under a key that stands somewhere. -/
  | table (key : Span) (table : OpenTable TomlTree)
  /-- A series of tables, the newest one first. -/
  | series (key : Span) (newest : OpenTable TomlTree) (older : List (OpenTable TomlTree))

namespace TomlTree

/-- The entries of a table. -/
abbrev Entries := List (String × TomlTree)

/-- A change of a table. -/
abbrev Change := OpenTable TomlTree → Except TomlFault (OpenTable TomlTree)

/-- Files something under a key: in its place if the key is there, or else at the end. -/
def put (key : String) (tree : TomlTree) : Entries → Entries
  | [] => [(key, tree)]
  | (name, t) :: rest => if name = key then (key, tree) :: rest else (name, t) :: put key tree rest

/-- The table with something filed under a key. -/
def file (t : OpenTable TomlTree) (key : String) (tree : TomlTree) : OpenTable TomlTree :=
  { t with entries := put key tree t.entries }

/-- Changes the table that a path leads to. Tables that are missing on the way come up in the given
way; keys with points do not enter tables with a header. -/
def changeAt (way : TableOrigin) (change : Change) (before : List String) : List Toml.Key → Change
  | [], t => change t
  | key :: path, t =>
    let next := changeAt way change (before ++ [key.name]) path
    match t.entries.lookup key.name with
    | none => (next { origin := way }).map fun inner ↦ file t key.name (table key.span inner)
    | some (leaf v) => .error (.notTable (before ++ [key.name]) v.value.kindName)
    | some (series span newest older) =>
      (next newest).map fun inner ↦ file t key.name (series span inner older)
    | some (table span inner) =>
      if way = .dotted ∧ inner.origin = .header then .error (.duplicate key.name (some before))
      else (next inner).map fun inner ↦ file t key.name (table span inner)

/-- Adds a value to a table that keys with points led to, or none did. The owner is named if the key
is there already. -/
def addEntry (owner : Option (List String)) (key : Toml.KeyPath) (value : Toml) (span : Span) :
    Change := fun t ↦
  if (t.origin = .dotted) = key.path.isEmpty then
    .error (.duplicate ((Toml.names key.path).headD key.last.name) none)
  else if (t.entries.lookup key.last.name).isSome then
    .error (.duplicate key.last.name owner)
  else .ok (file t key.last.name (leaf ⟨value, ⟨some key.last.span, some span⟩⟩))

/-- Adds a value under a key with points. -/
def insert (owner : Option (List String)) (key : Toml.KeyPath) (value : Toml) (span : Span) : Change :=
  changeAt .dotted (addEntry owner key value span) [] key.path

/-- Begins a table with its header. A table that came up by the header of a table inside it counts
as new among the others. -/
def beginTable (key : Toml.KeyPath) (header : Span) : Change := fun t ↦
  let name := key.last.name
  match t.entries.lookup name with
  | none => .ok (file t name (table key.last.span ⟨.header, some header, []⟩))
  | some (table _ ⟨.nested, _, entries⟩) =>
    let others := { t with entries := t.entries.filter (·.1 ≠ name) }
    .ok (file others name (table key.last.span ⟨.header, some header, entries⟩))
  | some _ => .error (.duplicate name (some (Toml.names key.path)))

/-- Begins the next table of a series. -/
def beginSeries (key : Toml.KeyPath) (header : Span) : Change := fun t ↦
  let name := key.last.name
  let new : OpenTable TomlTree := ⟨.header, some header, []⟩
  match t.entries.lookup name with
  | none => .ok (file t name (series key.last.span new []))
  | some (series span newest older) => .ok (file t name (series span new (newest :: older)))
  | some _ => .error (.duplicate name (some (Toml.names key.path)))

/-! ## Complete values -/

/-- From the first of some placed values up to the last one. -/
def spanOf (items : List (Placed Toml)) : Option Span := do
  let first ← (← items.head?).place.value
  let last ← (← items.getLast?).place.value
  some (first.upTo last)

mutual

/-- The complete value. -/
def toToml : TomlTree → Placed Toml
  | leaf value => value
  | table key ⟨_, span, entries⟩ => ⟨.table (toEntries entries), ⟨some key, span⟩⟩
  | series key ⟨_, span, entries⟩ older =>
    let tables := (toTables older).reverse ++ [⟨.table (toEntries entries), ⟨none, span⟩⟩]
    ⟨.array tables, ⟨some key, spanOf tables⟩⟩

/-- The complete values under their keys. -/
def toEntries : List (String × TomlTree) → List (String × Placed Toml)
  | [] => []
  | (key, tree) :: rest => (key, toToml tree) :: toEntries rest

/-- The complete tables of a series. -/
def toTables : List (OpenTable TomlTree) → List (Placed Toml)
  | [] => []
  | ⟨_, span, entries⟩ :: rest => ⟨.table (toEntries entries), ⟨none, span⟩⟩ :: toTables rest

end

end TomlTree

end ProxyFleet
