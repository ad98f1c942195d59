/-!
# Addresses of the network

An address of version 4 or 6 is a number of 32 or 128 bits. Its text is that of the usual
notation: four decimal numbers, or eight groups of hexadecimal digits of which the first longest run
of at least two zeros is left out. The reader takes what the printer writes and the other common
spellings.
-/

namespace ProxyFleet

/-- An address of the network. -/
inductive IpAddress
  | v4 (value : BitVec 32)
  | v6 (value : BitVec 128)
deriving DecidableEq

namespace IpAddress

/-- The number so many further on, if its bits hold it. -/
def offsetBits? {width : Nat} (n : Nat) (value : BitVec width) : Option (BitVec width) :=
  let sum := BitVec.ofNat width (value.toNat + n)
  if sum.toNat = value.toNat + n then some sum else none

/-- The address so many further on, if there is one of the same version. -/
def offset? (n : Nat) : IpAddress → Option IpAddress
  | v4 value => (offsetBits? n value).map v4
  | v6 value => (offsetBits? n value).map v6

/-! ## Numbers and their parts -/

def parts (base : Nat) : Nat → Nat → List Nat
  | 0, _ => []
  | count + 1, n => parts base count (n / base) ++ [n % base]

def ofParts (base : Nat) (ps : List Nat) : Nat := ps.foldl (fun n p ↦ n * base + p) 0

/-- The address of version 4 with some bytes. -/
def ofBytes (bytes : List Nat) : IpAddress := v4 (.ofNat 32 (ofParts 256 bytes))

/-- The address of version 6 with some groups. -/
def ofGroups (groups : List Nat) : IpAddress := v6 (.ofNat 128 (ofParts 65536 groups))

/-! ## Printing -/

/-- Four decimal numbers. -/
def dotted (n : Nat) : String := ".".intercalate ((parts 256 4 n).map toString)

/-- Groups of hexadecimal digits. -/
def colonized (groups : List Nat) : String :=
  ":".intercalate (groups.map fun g ↦ .ofList (Nat.toDigits 16 g))

/-- The number of zeros at the front. -/
def leadingZeros : List Nat → Nat
  | 0 :: rest => leadingZeros rest + 1
  | _ => 0

/-- Where the first longest run of zeros begins, and how long it is. -/
def longestZeros : List Nat → Nat × Nat
  | [] => (0, 0)
  | g :: rest =>
    let here := leadingZeros (g :: rest)
    let (start, length) := longestZeros rest
    if length ≤ here then (0, here) else (start + 1, length)

/-- The groups with the first longest run of at least two zeros left out. -/
def compressed (groups : List Nat) : String :=
  let (start, length) := longestZeros groups
  if 1 < length then
    colonized (groups.take start) ++ "::" ++ colonized (groups.drop (start + length))
  else colonized groups

/-- The text of an address. One of version 6 that stands for one of version 4 shows the latter. -/
def text : IpAddress → String
  | v4 value => dotted value.toNat
  | v6 value =>
    if value.toNat / UInt32.size = 0xffff then "::ffff:" ++ dotted (value.toNat % UInt32.size)
    else compressed (parts 65536 8 value.toNat)

/-! ## Reading -/

def digit? (base : Nat) (c : Char) : Option Nat :=
  let value :=
    if '0' ≤ c ∧ c ≤ '9' then c.toNat - '0'.toNat
    else if 'a' ≤ c ∧ c ≤ 'f' then c.toNat - 'a'.toNat + 10
    else if 'A' ≤ c ∧ c ≤ 'F' then c.toNat - 'A'.toNat + 10
    else 16
  if value < base then some value else none

def takeDigits (base : Nat) : List Char → List Nat × List Char
  | [] => ([], [])
  | c :: rest =>
    match digit? base c with
    | some d =>
      let (ds, rest) := takeDigits base rest
      (d :: ds, rest)
    | none => ([], c :: rest)

/-- Takes a byte in decimal digits: at most three, and no zero in front of others. -/
def readByte (input : List Char) : Option (Nat × List Char) :=
  let (digits, rest) := takeDigits 10 input
  let value := ofParts 10 digits
  if digits = [] ∨ 3 < digits.length ∨ (digits.head? = some 0 ∧ 1 < digits.length) ∨ 255 < value then
    none
  else some (value, rest)

/-- Takes a group in hexadecimal digits: at most four. -/
def readGroup (input : List Char) : Option (Nat × List Char) :=
  let (digits, rest) := takeDigits 16 input
  if digits = [] ∨ 4 < digits.length then none else some (ofParts 16 digits, rest)

/-- Takes a character. -/
def expect (c : Char) : List Char → Option (List Char)
  | [] => none
  | d :: rest => if d = c then some rest else none

/-- Takes four bytes with points between them. -/
def readDotted (input : List Char) : Option (List Nat × List Char) := do
  let (a, rest) ← readByte input
  let (b, rest) ← (expect '.' rest).bind readByte
  let (c, rest) ← (expect '.' rest).bind readByte
  let (d, rest) ← (expect '.' rest).bind readByte
  some ([a, b, c, d], rest)

/-- Takes groups with colons between them, at most so many: the groups, whether the last two came in
the notation of version 4, and the rest. -/
def readGroups : Nat → Bool → List Char → List Nat × Bool × List Char
  | 0, _, input => ([], false, input)
  | left + 1, first, input =>
    match if first then some input else expect ':' input with
    | none => ([], false, input)
    | some next =>
      match if 0 < left then readDotted next else none with
      | some ([a, b, c, d], rest) => ([a * 256 + b, c * 256 + d], true, rest)
      | _ =>
        match readGroup next with
        | none => ([], false, input)
        | some (g, rest) =>
          let (gs, short, rest) := readGroups left false rest
          (g :: gs, short, rest)

/-- Takes an address of version 6. A double colon stands for at least one group of zero. -/
def readColonized (input : List Char) : Option (List Nat × List Char) :=
  let (front, short, rest) := readGroups 8 true input
  if front.length = 8 then some (front, rest)
  else if short then none
  else do
    let rest ← (expect ':' rest).bind (expect ':')
    let (back, _, rest) := readGroups (7 - front.length) true rest
    some (front ++ List.replicate (8 - front.length - back.length) 0 ++ back, rest)

def parse? (text : String) : Option IpAddress :=
  let read :=
    match readDotted text.toList with
    | some (bytes, rest) => some (ofBytes bytes, rest)
    | none => (readColonized text.toList).map fun (groups, rest) ↦ (ofGroups groups, rest)
  match read with
  | some (address, []) => some address
  | _ => none

end IpAddress

end ProxyFleet
