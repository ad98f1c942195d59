import ProxyFleet.Json.Fault
import ProxyFleet.Json.Value

/-!
# Reading documents

The reader takes values off the front of a list of characters. Of two entries of an object with one
key the later counts. Depth of nesting is bounded by an argument.

A number without fraction and exponent is an integer if it fits 64 bits, except for minus zero. Any
other is a double: its leading digits are gathered in a number of 64 bits, which is rounded to a
double and then multiplied or divided by a power of ten; digits beyond are passed over.
-/

namespace ProxyFleet.Json

/-- What a reader takes off the front, and what it leaves. -/
abbrev Read (α : Type) := List Char → Except JsonError (α × List Char)

/-- The fault that is noticed before the next character is taken. -/
def fail {α : Type} (fault : JsonFault) (rest : List Char) : Except JsonError α :=
  .error ⟨fault, rest, false⟩

/-- The fault whose cause is the next character, or that there is none. -/
def failAhead {α : Type} (fault : JsonFault) (rest : List Char) : Except JsonError α :=
  .error ⟨fault, rest, true⟩

/-- The characters behind the white space of documents. -/
def skipSpace : List Char → List Char
  | [] => []
  | c :: rest => if c = ' ' ∨ c = '\n' ∨ c = '\t' ∨ c = '\r' then skipSpace rest else c :: rest

def digit? (c : Char) : Option Nat :=
  if '0' ≤ c ∧ c ≤ '9' then some (c.toNat - '0'.toNat) else none

def hexDigit? (c : Char) : Option Nat :=
  if '0' ≤ c ∧ c ≤ '9' then some (c.toNat - '0'.toNat)
  else if 'a' ≤ c ∧ c ≤ 'f' then some (c.toNat - 'a'.toNat + 10)
  else if 'A' ≤ c ∧ c ≤ 'F' then some (c.toNat - 'A'.toNat + 10)
  else none

/-! ## Words -/

/-- Takes the rest of a word of which the first character is known. -/
def readWord : List Char → List Char → Except JsonError (List Char)
  | [], input => .ok input
  | _ :: _, [] => fail .endInValue []
  | e :: expected, c :: rest => if c = e then readWord expected rest else fail .badWord rest

/-! ## Strings -/

def readHex : Read Nat
  | a :: b :: c :: d :: rest =>
    match hexDigit? a, hexDigit? b, hexDigit? c, hexDigit? d with
    | some a, some b, some c, some d => .ok (((a * 16 + b) * 16 + c) * 16 + d, rest)
    | _, _, _, _ => fail .badEscape rest
  | _ => fail .endInString []

/-- Takes the second half of a pair of code units. -/
def readLowSurrogate (high : Nat) : Read Char
  | [] => fail .endInString []
  | '\\' :: 'u' :: rest => do
    let (low, rest) ← readHex rest
    if 0xdc00 ≤ low ∧ low ≤ 0xdfff then
      .ok (.ofNat (0x10000 + (high - 0xd800) * 0x400 + (low - 0xdc00)), rest)
    else fail .loneSurrogate rest
  | '\\' :: [] => fail .endInString []
  | '\\' :: rest => failAhead .unpairedSurrogate rest
  | rest => failAhead .unpairedSurrogate rest

/-- Takes the character that an escape stands for, behind its backslash. -/
def readEscape : Read Char
  | [] => fail .endInString []
  | c :: rest =>
    match c with
    | '"' => .ok ('"', rest)
    | '\\' => .ok ('\\', rest)
    | '/' => .ok ('/', rest)
    | 'b' => .ok ('\x08', rest)
    | 'f' => .ok ('\x0c', rest)
    | 'n' => .ok ('\n', rest)
    | 'r' => .ok ('\r', rest)
    | 't' => .ok ('\t', rest)
    | 'u' => do
      let (unit, rest) ← readHex rest
      if 0xdc00 ≤ unit ∧ unit ≤ 0xdfff then fail .loneSurrogate rest
      else if 0xd800 ≤ unit ∧ unit ≤ 0xdbff then readLowSurrogate unit rest
      else .ok (.ofNat unit, rest)
    | _ => fail .badEscape rest

/-- Takes the characters of a string up to its closing quote, behind the opening one. The first
argument bounds the number of characters. -/
def readChars : Nat → Read (List Char)
  | 0, rest => fail .endInString rest
  | _ + 1, [] => fail .endInString []
  | steps + 1, c :: rest =>
    if c = '"' then .ok ([], rest)
    else if c = '\\' then do
      let (char, rest) ← readEscape rest
      let (chars, rest) ← readChars steps rest
      .ok (char :: chars, rest)
    else if c < ' ' then fail .controlCharacter rest
    else do
      let (chars, rest) ← readChars steps rest
      .ok (c :: chars, rest)

/-- Takes a string, behind its opening quote. -/
def readString : Read String := fun input ↦ do
  let (chars, rest) ← readChars (input.length + 1) input
  .ok (.ofList chars, rest)

/-! ## Numbers -/

/-- The bound of the leading digits that are gathered. -/
def maxSignificand : Nat := UInt64.size - 1

/-- The bound of the digits of an exponent. -/
def maxExponent : Nat := 0x7fffffff

/-- The power of ten up to which one multiplication or division does. -/
def maxPower : Nat := 308

/-- Divides a double by a power of ten in steps, until it is zero. -/
def divPower : Nat → Double → Nat → Double
  | 0, d, _ => d
  | steps + 1, d, power =>
    if power ≤ maxPower then d.divMagnitude (.ofNat (Nat.pow 10 power))
    else if d = .zero then d
    else divPower steps (d.divMagnitude (.ofNat (Nat.pow 10 maxPower))) (power - maxPower)

/-- The double of gathered digits and a power of ten; nothing if it is beyond all doubles. -/
def scale? (significand : Nat) (exponent : Int) : Option Double :=
  let d := Double.ofNat significand
  if exponent < 0 then some (divPower 5 d exponent.natAbs)
  else if exponent.natAbs ≤ maxPower then
    let product := d.mulMagnitude (.ofNat (Nat.pow 10 exponent.natAbs))
    if product.isFinite then some product else none
  else if significand = 0 then some d
  else none

/-- The double of a sign, gathered digits and a power of ten. -/
def finishDouble (negative : Bool) (significand : Nat) (exponent : Int) : Read JsonNumber := fun rest ↦
  match scale? significand exponent with
  | some d => .ok (.double (d.withSign negative), rest)
  | none => fail .outOfRange rest

/-- The characters behind the decimal digits at the front, and the number of these. -/
def skipDigits : List Char → Nat × List Char
  | [] => (0, [])
  | c :: rest =>
    if (digit? c).isSome then
      let (count, rest) := skipDigits rest
      (count + 1, rest)
    else (0, c :: rest)

/-- Gathers decimal digits as long as the number stays within a bound: the number, how many digits
were taken, and the rest, which begins with a digit only if that one would not fit. -/
def gatherDigits (bound : Nat) : Nat → List Char → Nat × Nat × List Char
  | value, [] => (value, 0, [])
  | value, c :: rest =>
    match digit? c with
    | none => (value, 0, c :: rest)
    | some d =>
      if bound < value * 10 + d then (value, 0, c :: rest)
      else
        let (value, count, rest) := gatherDigits bound (value * 10 + d) rest
        (value, count + 1, rest)

def digitAhead : List Char → Bool
  | c :: _ => (digit? c).isSome
  | [] => false

/-- Takes an exponent, behind its mark, and finishes the number. -/
def readExponent (negative : Bool) (significand : Nat) (exponent : Int) : Read JsonNumber := fun input ↦
  let (down, input) :=
    match input with
    | '+' :: rest => (false, rest)
    | '-' :: rest => (true, rest)
    | rest => (false, rest)
  match input with
  | [] => fail .endInValue []
  | c :: rest =>
    if (digit? c).isNone then fail .badNumber rest
    else
      let (power, _, rest) := gatherDigits maxExponent 0 (c :: rest)
      if digitAhead rest then
        if significand ≠ 0 ∧ ¬ down then fail .outOfRange rest.tail
        else .ok (.double (Double.zero.withSign negative), (skipDigits rest).2)
      else finishDouble negative significand (if down then exponent - power else exponent + power) rest

/-- Finishes a double behind its digits, with or without an exponent. -/
def readTail (negative : Bool) (significand : Nat) (exponent : Int) : Read JsonNumber
  | 'e' :: rest => readExponent negative significand exponent rest
  | 'E' :: rest => readExponent negative significand exponent rest
  | rest => finishDouble negative significand exponent rest

/-- Takes a fraction, behind its point, and finishes the number. -/
def readFraction (negative : Bool) (significand : Nat) (exponent : Int) : Read JsonNumber := fun input ↦
  if digitAhead input then
    let (significand, count, rest) := gatherDigits maxSignificand significand input
    readTail negative significand (exponent - count) (skipDigits rest).2
  else if input.isEmpty then failAhead .endInValue input
  else failAhead .badNumber input

/-- The integer of a sign and digits, or the double if 64 bits do not hold it. -/
def ofInteger (negative : Bool) (significand : Nat) : JsonNumber :=
  if negative then
    if significand = 0 ∨ UInt64.size / 2 < significand then .double (.neg (.ofNat significand))
    else .integer (-significand)
  else .integer significand

/-- Takes a number, behind its sign. -/
def readNumber (negative : Bool) : Read JsonNumber
  | [] => fail .endInValue []
  | c :: rest =>
    if (digit? c).isNone then fail .badNumber rest
    else if c = '0' ∧ digitAhead rest then failAhead .badNumber rest
    else
      let (significand, _, rest) := gatherDigits maxSignificand 0 (c :: rest)
      let (dropped, tail) := skipDigits rest
      match tail with
      | '.' :: rest => readFraction negative significand dropped rest
      | _ =>
        if dropped = 0 ∧ tail.head? ≠ some 'e' ∧ tail.head? ≠ some 'E' then
          .ok (ofInteger negative significand, tail)
        else readTail negative significand dropped tail

/-! ## Values -/

mutual

/-- Takes a value. The first argument bounds the steps, the second the levels that may be entered.
-/
def readValue : Nat → Nat → Read Json
  | 0, _, input => failAhead .tooDeep input
  | steps + 1, depth, input =>
    match skipSpace input with
    | [] => failAhead .endInValue []
    | c :: rest =>
      match c with
      | 'n' => (readWord ['u', 'l', 'l'] rest).map fun rest ↦ (.null, rest)
      | 't' => (readWord ['r', 'u', 'e'] rest).map fun rest ↦ (.bool true, rest)
      | 'f' => (readWord ['a', 'l', 's', 'e'] rest).map fun rest ↦ (.bool false, rest)
      | '-' => (readNumber true rest).map fun (n, rest) ↦ (.number n, rest)
      | '"' => (readString rest).map fun (s, rest) ↦ (.string s, rest)
      | '[' =>
        match depth with
        | 0 => failAhead .tooDeep ('[' :: rest)
        | depth + 1 => (readItems steps depth true rest).map fun (items, rest) ↦ (.array items, rest)
      | '{' =>
        match depth with
        | 0 => failAhead .tooDeep ('{' :: rest)
        | depth + 1 =>
          (readEntries steps depth true rest).map fun (entries, rest) ↦ (ofEntries entries, rest)
      | c =>
        if (digit? c).isSome then (readNumber false (c :: rest)).map fun (n, rest) ↦ (.number n, rest)
        else failAhead .noValue (c :: rest)

/-- Takes the items of a list and its closing bracket; the flag says that none was taken yet. -/
def readItems : Nat → Nat → Bool → Read (List Json)
  | 0, _, _, input => failAhead .tooDeep input
  | steps + 1, depth, first, input =>
    match skipSpace input, first with
    | [], _ => failAhead .endInList []
    | ']' :: rest, _ => .ok ([], rest)
    | ',' :: rest, false =>
      match skipSpace rest with
      | [] => failAhead .endInValue []
      | ']' :: rest => failAhead .trailingComma (']' :: rest)
      | rest => do
        let (item, rest) ← readValue steps depth rest
        let (items, rest) ← readItems steps depth false rest
        .ok (item :: items, rest)
    | rest, true => do
      let (item, rest) ← readValue steps depth rest
      let (items, rest) ← readItems steps depth false rest
      .ok (item :: items, rest)
    | rest, false => failAhead .noListSeparator rest

/-- Takes the entries of an object and its closing brace; the flag says that none was taken yet. -/
def readEntries : Nat → Nat → Bool → Read (List (String × Json))
  | 0, _, _, input => failAhead .tooDeep input
  | steps + 1, depth, first, input =>
    match skipSpace input, first with
    | [], _ => failAhead .endInObject []
    | '}' :: rest, _ => .ok ([], rest)
    | ',' :: rest, false =>
      match skipSpace rest with
      | [] => failAhead .endInValue []
      | '"' :: rest => readEntry steps depth rest
      | '}' :: rest => failAhead .trailingComma ('}' :: rest)
      | rest => failAhead .keyNotString rest
    | '"' :: rest, true => readEntry steps depth rest
    | rest, true => failAhead .keyNotString rest
    | rest, false => failAhead .noObjectSeparator rest

/-- Takes an entry, behind the opening quote of its key, and the entries after it. -/
def readEntry : Nat → Nat → Read (List (String × Json))
  | 0, _, input => failAhead .tooDeep input
  | steps + 1, depth, input => do
    let (key, rest) ← readString input
    match skipSpace rest with
    | ':' :: rest =>
      let (value, rest) ← readValue steps depth rest
      let (entries, rest) ← readEntries steps depth false rest
      .ok ((key, value) :: entries, rest)
    | [] => failAhead .endInObject []
    | rest => failAhead .noColon rest

end

/-- Reads a text as one document whose lists and objects are nested to a bounded depth. -/
def parseTo (depth : Nat) (text : String) : Except JsonError Json := do
  let input := text.toList
  let (value, rest) ← readValue (3 * input.length + 3) depth input
  match skipSpace rest with
  | [] => .ok value
  | rest => failAhead .trailingCharacters rest

def maxDepth : Nat := 127

def parse (text : String) : Except JsonError Json := parseTo maxDepth text

end ProxyFleet.Json
