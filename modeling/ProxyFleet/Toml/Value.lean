import ProxyFleet.Number.Double
import ProxyFleet.Toml.Span

/-!
# Configuration documents

The values of a configuration document in the notation of TOML, and where in the document they
stand. Moments are kept as the text that writes them in one way.
-/

namespace ProxyFleet

/-- Where a value stands in a document. -/
structure Place where
  /-- Its key, if it has one. -/
  key : Option Span := none
  /-- The value itself, if it is written as a whole. A table to which only paths lead is not. -/
  value : Option Span := none

namespace Place

/-- The value itself, or else its key. -/
def span? (p : Place) : Option Span := p.value.or p.key

end Place

/-- Something that stands at a place. -/
structure Placed (α : Type) where
  /-- What stands there. -/
  value : α
  /-- Where it stands. -/
  place : Place := {}

/-- A value of a configuration document. -/
inductive Toml
  | string (value : String)
  /-- An integer of 64 bits with a sign. -/
  | integer (value : Int)
  | float (value : Double)
  | bool (value : Bool)
  /-- A date, a time or both. -/
  | moment (text : String)
  | array (items : List (Placed Toml))
  /-- Values under keys, in the order in which the keys came up. -/
  | table (entries : List (String × Placed Toml))

namespace Toml

instance : Inhabited Toml := ⟨.table []⟩

/-- What the kind of a value on one line is called. -/
def kindName : Toml → String
  | string _ => "string"
  | integer _ => "integer"
  | float _ => "float"
  | bool _ => "boolean"
  | moment _ => "datetime"
  | array _ => "array"
  | table _ => "inline table"

end Toml

end ProxyFleet
