import ProxyFleet.NameMap
import ProxyFleet.Number.Double

/-!
# Documents

The values of a JSON document. Numbers keep whether they are integers of 64 bits or doubles, and an
object keeps its entries in order of key.
-/

namespace ProxyFleet

inductive JsonNumber
  /-- An integer of 64 bits, with or without a sign. -/
  | integer (value : Int)
  | double (value : Double)
deriving DecidableEq

/-- The double nearest to the number. -/
def JsonNumber.toDouble : JsonNumber → Double
  | integer value => .ofInt value
  | double value => value

/-- A document or a part of one. -/
inductive Json
  | null
  | bool (value : Bool)
  | number (value : JsonNumber)
  | string (value : String)
  | array (items : List Json)
  | object (entries : List (String × Json))

instance : Inhabited Json := ⟨.null⟩

namespace Json

def int? : Json → Option Int
  | number (.integer value) => some value
  | _ => none

def string? : Json → Option String
  | string value => some value
  | _ => none

def bool? : Json → Option Bool
  | bool value => some value
  | _ => none

def array? : Json → Option (List Json)
  | array items => some items
  | _ => none

def object? : Json → Option (List (String × Json))
  | object entries => some entries
  | _ => none

def find? (value : Json) (key : String) : Option Json :=
  value.object?.bind (·.lookup key)

/-- The object of a list of entries; of two with one key the later counts. -/
def ofEntries (entries : List (String × Json)) : Json :=
  object (NameMap.ofList entries).entries

/-- What kind of value it is, in words. -/
def describe : Json → String
  | null => "null"
  | bool _ => "a boolean"
  | number _ => "a number"
  | string _ => "a string"
  | array _ => "an array"
  | object _ => "an object"

end Json

end ProxyFleet
