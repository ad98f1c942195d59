import ProxyFleet.Number.Double
import ProxyFleet.Wire.Key

/-!
# Message types

A message type is described by its fields, each with a reader that merges one value into a message
and a writer beside it. All messages of a payload share one buffer: a nested message ends when as
many bytes are left as its announced end leaves, so a value inside may run past that end, and the
fault found there comes first.

The members of a oneof are fields that share a label: to put one replaces the others.
-/

namespace ProxyFleet.Wire

/-! ## Values -/

/-- Takes a length and that many bytes off the front. -/
def readDelimited : Reader Bytes := fun bytes ↦
  match Varint.read bytes with
  | .error e => .error e
  | .ok (length, rest) =>
    if rest.length < length then Fault.underflow.raise
    else .ok (rest.take length, rest.drop length)

/-- A length and the bytes. -/
def writeDelimited (value : Bytes) : Bytes := Varint.write value.length ++ value

def textBytes (text : String) : Bytes := text.toByteArray.data.toList

def textOfBytes? (bytes : Bytes) : Option String := String.fromUTF8? ⟨bytes.toArray⟩

/-- Takes a text with its length off the front. -/
def readText : Reader String := fun bytes ↦
  match readDelimited bytes with
  | .error e => .error e
  | .ok (value, rest) =>
    match textOfBytes? value with
    | none => Fault.badText.raise
    | some text => .ok (text, rest)

/-- Takes the low 32 bits of a number off the front. -/
def readWord : Reader UInt32 := fun bytes ↦ (Varint.read bytes).map fun (n, rest) ↦ (.ofNat n, rest)

/-- Takes a truth value off the front: any number but zero is true. -/
def readFlag : Reader Bool := fun bytes ↦ (Varint.read bytes).map fun (n, rest) ↦ (n != 0, rest)

/-- The bytes of an enumeration value: 32 bits with a sign, which the 64 bits on the wire repeat. -/
def writeEnum (value : UInt32) : Bytes :=
  Varint.write (if value.toNat < UInt32.size / 2 then value.toNat
    else value.toNat + (UInt64.size - UInt32.size))

/-- The lowest bytes of a number, the lowest first. -/
def lowBytes : Nat → Nat → Bytes
  | 0, _ => []
  | count + 1, n => .ofNat (n % 256) :: lowBytes count (n / 256)

/-- The number that bytes make, the lowest first. -/
def ofLowBytes : Bytes → Nat
  | [] => 0
  | b :: rest => b.toNat + 256 * ofLowBytes rest

/-- Takes the bits of a double off the front. -/
def readDouble : Reader Double := fun bytes ↦
  if bytes.length < 8 then Fault.underflow.raise
  else .ok (⟨.ofNat (ofLowBytes (bytes.take 8))⟩, bytes.drop 8)

/-- The bits of a double in eight bytes. -/
def writeDouble (value : Double) : Bytes := lowBytes 8 value.bits.toNat

/-! ## Fields and message types -/

structure Field (M : Type) where
  number : Nat
  /-- The name in error texts; the members of a oneof share that of the oneof. -/
  label : String
  /-- Reads a value of the given layout and merges it into the message, with a depth of nesting
  that is left. -/
  merge : Nat → WireType → M → Reader M
  /-- The keys and values that the field has in a message. -/
  write : M → Bytes

/-- A message type: its name, the message without fields, and the fields. -/
structure Schema (M : Type) where
  /-- The name in error texts. -/
  name : String
  /-- The message in which every field is absent. -/
  empty : M
  fields : List (Field M)

namespace Schema

variable {M : Type}

/-- Merges fields into a message until at most `stop` bytes are left. Each field takes at least one
byte, so the number of bytes bounds the number of steps. -/
def mergeFields (S : Schema M) (depth stop : Nat) : Nat → M → Reader M
  | 0, m, bytes => .ok (m, bytes)
  | steps + 1, m, bytes =>
    if bytes.length ≤ stop then .ok (m, bytes)
    else
      match Key.read bytes with
      | .error e => .error e
      | .ok (key, rest) =>
        match S.fields.find? (·.number = key.number) with
        | some field =>
          match field.merge depth key.wireType m rest with
          | .error e => .error (e.within (S.name ++ "." ++ field.label))
          | .ok (m, rest) => S.mergeFields depth stop steps m rest
        | none =>
          match skip depth key rest with
          | .error e => .error e
          | .ok rest => S.mergeFields depth stop steps m rest

/-- Merges the fields of a nested message, with its length in front, into a message. -/
def mergeNested (S : Schema M) (depth : Nat) (m : M) : Reader M := fun bytes ↦
  match depth with
  | 0 => Fault.tooDeep.raise
  | depth + 1 =>
    match Varint.read bytes with
    | .error e => .error e
    | .ok (length, rest) =>
      if rest.length < length then Fault.underflow.raise
      else
        let stop := rest.length - length
        match S.mergeFields depth stop rest.length m rest with
        | .error e => .error e
        | .ok (m, rest) => if rest.length = stop then .ok (m, rest) else Fault.overrun.raise

def maxDepth : Nat := 100

/-- Reads a whole payload as one message. -/
def decode (S : Schema M) (bytes : Bytes) : Except Malformed M :=
  (S.mergeFields maxDepth 0 bytes.length S.empty bytes).map (·.1)

/-- A message type of which no field is known: all that is read of a message is that it is there. -/
def blank (name : String) : Schema Unit := ⟨name, (), []⟩

/-- The bytes of a message: its fields in the order of the type. -/
def encode (S : Schema M) (m : M) : Bytes := S.fields.flatMap (·.write m)

end Schema

/-! ## Kinds of fields -/

namespace Field

variable {M N : Type}

/-- Reads a value if it is laid out as the field demands. -/
def expecting {α : Type} (expected found : WireType) (read : Reader α) : Reader α := fun bytes ↦
  if found = expected then read bytes else (Fault.mismatch found expected).raise

/-- A value that replaces what is there. -/
def replacing {α : Type} (number : Nat) (label : String) (wireType : WireType) (read : Reader α)
    (put : α → M → M) (write : M → Bytes) : Field M where
  number := number
  label := label
  merge _ found m bytes := (expecting wireType found read bytes).map fun (v, rest) ↦ (put v m, rest)
  write := write

/-- The key and the value of a field. -/
def keyed (number : Nat) (wireType : WireType) (value : Bytes) : Bytes :=
  Key.write ⟨number, wireType⟩ ++ value

/-- The key and the value of a text field. -/
def keyedText (number : Nat) (text : String) : Bytes :=
  keyed number .delimited (writeDelimited (textBytes text))

/-- A text, which is not written when it is empty. -/
def text (number : Nat) (label : String) (get : M → String) (put : String → M → M) : Field M :=
  replacing number label .delimited readText put fun m ↦
    if get m = "" then [] else keyedText number (get m)

def bytes (number : Nat) (label : String) (get : M → Bytes) (put : Bytes → M → M) : Field M :=
  replacing number label .delimited readDelimited put fun m ↦
    if get m = [] then [] else keyed number .delimited (writeDelimited (get m))

/-- A number of 32 bits without a sign, which is not written when it is zero. -/
def word (number : Nat) (label : String) (get : M → UInt32) (put : UInt32 → M → M) : Field M :=
  replacing number label .varint readWord put fun m ↦
    if get m = 0 then [] else keyed number .varint (Varint.write (get m).toNat)

/-- A value of an enumeration, which is not written when it is zero. -/
def enum (number : Nat) (label : String) (get : M → UInt32) (put : UInt32 → M → M) : Field M :=
  replacing number label .varint readWord put fun m ↦
    if get m = 0 then [] else keyed number .varint (writeEnum (get m))

/-- A truth value, which is not written when it is false. -/
def flag (number : Nat) (label : String) (get : M → Bool) (put : Bool → M → M) : Field M :=
  replacing number label .varint readFlag put fun m ↦
    if get m then keyed number .varint (Varint.write 1) else []

/-- A double, which is not written when all its bits are zero; zero with a sign is. -/
def double (number : Nat) (label : String) (get : M → Double) (put : Double → M → M) : Field M :=
  replacing number label .fixed64 readDouble put fun m ↦
    if get m = .zero then [] else keyed number .fixed64 (writeDouble (get m))

/-- A member of a oneof that is no message: when it is chosen it is written, whatever it is. -/
def chosen {α : Type} (number : Nat) (label : String) (wireType : WireType) (read : Reader α)
    (write : α → Bytes) (get : M → Option α) (put : α → M → M) : Field M :=
  replacing number label wireType read put fun m ↦
    match get m with
    | none => []
    | some value => keyed number wireType (write value)

/-- A text that is a member of a oneof. -/
def chosenText (number : Nat) (label : String) (get : M → Option String) (put : String → M → M) :
    Field M :=
  chosen number label .delimited readText (fun text ↦ writeDelimited (textBytes text)) get put

/-- Bytes that are a member of a oneof. -/
def chosenBytes (number : Nat) (label : String) (get : M → Option Bytes) (put : Bytes → M → M) :
    Field M := chosen number label .delimited readDelimited writeDelimited get put

/-- A value of an enumeration that is a member of a oneof. -/
def chosenEnum (number : Nat) (label : String) (get : M → Option UInt32) (put : UInt32 → M → M) :
    Field M := chosen number label .varint readWord writeEnum get put

/-- Any number of texts, in the order in which they come. -/
def texts (number : Nat) (label : String) (get : M → List String) (put : List String → M → M) :
    Field M :=
  replacing number label .delimited readText (fun v m ↦ put (get m ++ [v]) m) fun m ↦
    (get m).flatMap (keyedText number)

/-- The key and the value of a field that holds a message. -/
def keyedMessage (number : Nat) (S : Schema N) (n : N) : Bytes :=
  keyed number .delimited (writeDelimited (S.encode n))

/-- A message, alone or as a member of a oneof: a later one is merged into what is there. -/
def message (number : Nat) (label : String) (S : Schema N) (get : M → Option N)
    (put : N → M → M) : Field M where
  number := number
  label := label
  merge depth found m bytes :=
    (expecting .delimited found (S.mergeNested depth ((get m).getD S.empty)) bytes).map
      fun (n, rest) ↦ (put n m, rest)
  write m :=
    match get m with
    | none => []
    | some n => keyedMessage number S n

/-- Any number of messages, in the order in which they come. -/
def messages (number : Nat) (label : String) (S : Schema N) (get : M → List N)
    (put : List N → M → M) : Field M where
  number := number
  label := label
  merge depth found m bytes :=
    (expecting .delimited found (S.mergeNested depth S.empty) bytes).map
      fun (n, rest) ↦ (put (get m ++ [n]) m, rest)
  write m := (get m).flatMap (keyedMessage number S)

end Field

end ProxyFleet.Wire
