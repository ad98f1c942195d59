import ProxyFleet.Wire.Varint

/-!
# Field keys and fields to pass over

A key holds a field number and a wire type. A field that the message type does not have is passed
over whole, groups with all that is in them.
-/

namespace ProxyFleet.Wire

/-- What stands in front of a value: which field it belongs to and how it is laid out. -/
structure Key where
  number : Nat
  /-- The layout of the value. -/
  wireType : WireType
deriving DecidableEq, Repr

namespace Key

/-- Takes a key off the front: first its size is checked, then the wire type, then the number. -/
def read : Reader Key := fun bytes ↦
  match Varint.read bytes with
  | .error e => .error e
  | .ok (key, rest) =>
    if UInt32.size ≤ key then (Fault.badKey key).raise
    else
      match WireType.ofNat? (key % 8) with
      | none => (Fault.badWireType (key % 8)).raise
      | some wireType =>
        if key / 8 = 0 then Fault.badFieldNumber.raise else .ok (⟨key / 8, wireType⟩, rest)

def write (k : Key) : Bytes := Varint.write (k.number * 8 + k.wireType.toNat)

end Key

/-- Drops so many bytes. -/
def skipBytes (count : Nat) (bytes : Bytes) : Except Malformed Bytes :=
  if bytes.length < count then Fault.underflow.raise else .ok (bytes.drop count)

mutual

/-- Passes over the value of one field. The first argument bounds the steps, the second the levels
of groups that may still be entered. -/
def skipField : Nat → Nat → Key → Bytes → Except Malformed Bytes
  | 0, _, _, _ => Fault.tooDeep.raise
  | _ + 1, 0, _, _ => Fault.tooDeep.raise
  | steps + 1, depth + 1, key, bytes =>
    match key.wireType with
    | .varint => (Varint.read bytes).map (·.2)
    | .fixed64 => skipBytes 8 bytes
    | .fixed32 => skipBytes 4 bytes
    | .delimited =>
      match Varint.read bytes with
      | .error e => .error e
      | .ok (length, rest) => skipBytes length rest
    | .groupStart => skipGroup steps depth key.number bytes
    | .groupEnd => Fault.strayGroupEnd.raise

/-- Passes over the fields of a group and its end. -/
def skipGroup : Nat → Nat → Nat → Bytes → Except Malformed Bytes
  | 0, _, _, _ => Fault.tooDeep.raise
  | steps + 1, depth, number, bytes =>
    match Key.read bytes with
    | .error e => .error e
    | .ok (key, rest) =>
      if key.wireType = .groupEnd then
        if key.number = number then .ok rest else Fault.strayGroupEnd.raise
      else
        match skipField steps depth key rest with
        | .error e => .error e
        | .ok rest => skipGroup steps depth number rest

end

/-- Passes over the value of a field of no known number, at a depth of nesting that is left. -/
def skip (depth : Nat) (key : Key) (bytes : Bytes) : Except Malformed Bytes :=
  skipField (2 * bytes.length + 2) depth key bytes

end ProxyFleet.Wire
