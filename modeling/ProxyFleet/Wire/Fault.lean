/-!
# What can be wrong with encoded bytes

The wire types of the protobuf format, the faults that a reader can meet, and `Malformed`, a fault
together with the fields inside which it was met. `Malformed.message` is the one place where these
are put into words.
-/

namespace ProxyFleet.Wire

/-- A sequence of bytes on the wire. -/
abbrev Bytes := List UInt8

/-- How the value after a key is laid out. -/
inductive WireType
  /-- A number in groups of seven bits. -/
  | varint
  | fixed64
  /-- A length and that many bytes. -/
  | delimited
  /-- The fields up to the matching `groupEnd`. -/
  | groupStart
  /-- Nothing: the end of a group. -/
  | groupEnd
  | fixed32
deriving DecidableEq, Repr

namespace WireType

/-- The number that stands for the wire type in a key. -/
def toNat : WireType → Nat
  | varint => 0
  | fixed64 => 1
  | delimited => 2
  | groupStart => 3
  | groupEnd => 4
  | fixed32 => 5

def ofNat? : Nat → Option WireType
  | 0 => some varint
  | 1 => some fixed64
  | 2 => some delimited
  | 3 => some groupStart
  | 4 => some groupEnd
  | 5 => some fixed32
  | _ => none

/-- The name of the wire type in error texts. -/
def label : WireType → String
  | varint => "Varint"
  | fixed64 => "SixtyFourBit"
  | delimited => "LengthDelimited"
  | groupStart => "StartGroup"
  | groupEnd => "EndGroup"
  | fixed32 => "ThirtyTwoBit"

theorem ofNat?_toNat (t : WireType) : ofNat? t.toNat = some t := by cases t <;> rfl

end WireType

/-- A reason why bytes are no message. -/
inductive Fault
  /-- A number that does not end, or that has more than 64 bits. -/
  | badVarint
  /-- A key beyond 32 bits. -/
  | badKey (key : Nat)
  /-- A wire type that does not exist. -/
  | badWireType (number : Nat)
  /-- The field number zero. -/
  | badFieldNumber
  /-- A known field that is laid out in another way. -/
  | mismatch (found expected : WireType)
  /-- Fewer bytes are left than announced. -/
  | underflow
  /-- A text that is not UTF-8. -/
  | badText
  /-- The fields of a message end behind its announced end. -/
  | overrun
  /-- Messages or groups are nested too deeply. -/
  | tooDeep
  /-- The end of a group that was not begun. -/
  | strayGroupEnd
deriving DecidableEq, Repr

def Fault.describe : Fault → String
  | badVarint => "invalid varint"
  | badKey key => "invalid key value: " ++ toString key
  | badWireType number => "invalid wire type value: " ++ toString number
  | badFieldNumber => "invalid tag value: 0"
  | mismatch found expected =>
    "invalid wire type: " ++ found.label ++ " (expected " ++ expected.label ++ ")"
  | underflow => "buffer underflow"
  | badText => "invalid string value: data is not UTF-8 encoded"
  | overrun => "delimited length exceeded"
  | tooDeep => "recursion limit reached"
  | strayGroupEnd => "unexpected end group tag"

/-- A fault and the known fields inside which it was met, the innermost first. -/
structure Malformed where
  fault : Fault
  /-- The enclosing fields as `Message.field`, the innermost first. -/
  path : List String := []
deriving DecidableEq, Repr

namespace Malformed

/-- The same fault, seen from outside one more field. -/
def within (field : String) (m : Malformed) : Malformed := { m with path := m.path ++ [field] }

/-- The fault and its place in words. -/
def message (m : Malformed) : String :=
  m.path.foldl (fun text field ↦ text ++ field ++ ": ") "failed to decode Protobuf message: "
    ++ m.fault.describe

end Malformed

/-- A reader takes a value off the front of the bytes that are left. -/
abbrev Reader (α : Type) := Bytes → Except Malformed (α × Bytes)

/-- The reader that meets a fault. -/
def Fault.raise {α : Type} (f : Fault) : Except Malformed α := .error ⟨f, []⟩

end ProxyFleet.Wire
