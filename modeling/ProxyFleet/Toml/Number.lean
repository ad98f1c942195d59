import ProxyFleet.Number.Double
import ProxyFleet.Toml.Text
import ProxyFleet.Toml.Value

/-!
# Numbers of configuration documents

Integers of 64 bits are written in base ten with or without a sign, or in base 16, 8 or 2 without
one. A double has a fraction, an exponent or both. Between two digits an underscore may stand.
-/

namespace ProxyFleet.Toml

def digit? (base : Nat) (c : Char) : Option Nat := (hexDigit? c).filter (· < base)

/-- Takes the digits behind the first one. An underscore must have a digit behind it. -/
def readMoreDigits (base : Nat) (what : String) : Read (List Nat)
  | [] => .ok ([], [])
  | c :: rest =>
    match digit? base c with
    | some d => do
      let (ds, rest) ← readMoreDigits base what rest
      .ok (d :: ds, rest)
    | none =>
      if c = '_' then
        if (rest.head?.bind (digit? base)).isSome then readMoreDigits base what rest
        else fail (.digit what) rest
      else .ok ([], c :: rest)

/-- Takes digits, at least one. -/
def readDigits (base : Nat) (what : String) : Read (List Nat) := fun input ↦
  if (input.head?.bind (digit? base)).isSome then readMoreDigits base what input
  else fail (.digit what) input

/-- The number of some digits. -/
def ofDigits (base : Nat) (digits : List Nat) : Nat := digits.foldl (fun n d ↦ n * base + d) 0

/-- Whether a sign is a minus, and the characters behind it if there is one. -/
def readSign : List Char → Bool × List Char
  | '+' :: rest => (false, rest)
  | '-' :: rest => (true, rest)
  | rest => (false, rest)

def integerName : String := "integer"

def floatName : String := "floating-point number"

/-- Takes the digits of an integer in base ten. A zero at the front stands alone. -/
def readWhole : Read (List Nat) := fun input ↦
  match input with
  | '0' :: rest => .ok ([0], rest)
  | rest => readDigits 10 integerName rest

/-- The integer of 64 bits with a sign that a number is. -/
def integerOf (negative : Bool) (n : Nat) (start : List Char) : Except TomlError Toml :=
  let value : Int := if negative then -n else n
  if Int64.minValue.toInt ≤ value ∧ value ≤ Int64.maxValue.toInt then .ok (.integer value)
  else fail .tooLarge start

/-- Takes an integer in a base other than ten, behind its mark. -/
def readBased (base : Nat) (what : String) (start : List Char) : Read Toml := fun input ↦ do
  let (digits, rest) ← readDigits base what input
  let value ← integerOf false (ofDigits base digits) start
  .ok (value, rest)

def readExponent : Read (Option Int) := fun input ↦
  match input with
  | 'e' :: rest => readMarked rest
  | 'E' :: rest => readMarked rest
  | rest => .ok (none, rest)
where
  /-- Takes an exponent behind its mark. -/
  readMarked : Read (Option Int) := fun input ↦ do
    let (negative, rest) := readSign input
    let (digits, rest) ← readDigits 10 floatName rest
    let power := ofDigits 10 digits
    .ok (some (if negative then -power else power), rest)

/-- Takes the digits of a fraction, if there is one. -/
def readFraction : Read (Option (List Nat)) := fun input ↦
  match input with
  | '.' :: rest => do
    let (digits, rest) ← readDigits 10 floatName rest
    .ok (some digits, rest)
  | rest => .ok (none, rest)

/-- The double of digits before and behind the point and an exponent. Only minus infinity may come
out of numbers beyond all doubles. -/
def floatOf (negative : Bool) (whole fraction : List Nat) (exponent : Int) (start : List Char) :
    Except TomlError Toml :=
  let value :=
    (Double.ofDecimal (ofDigits 10 (whole ++ fraction)) (exponent - fraction.length)).withSign negative
  if value = .infinity then fail (.digit floatName) start else .ok (.float value)

/-- Takes infinity or what is no number, behind a sign. -/
def readSpecial? (negative : Bool) : List Char → Option (Toml × List Char)
  | 'i' :: 'n' :: 'f' :: rest => some (.float (Double.infinity.withSign negative), rest)
  | 'n' :: 'a' :: 'n' :: rest => some (.float (Double.nan.withSign negative), rest)
  | _ => none

def readNumber : Read Toml := fun input ↦
  match input with
  | '0' :: 'x' :: rest => readBased 16 "hexadecimal integer" input rest
  | '0' :: 'o' :: rest => readBased 8 "octal integer" input rest
  | '0' :: 'b' :: rest => readBased 2 "binary integer" input rest
  | _ =>
    let (negative, rest) := readSign input
    match readSpecial? negative rest with
    | some special => .ok special
    | none => do
      let (whole, rest) ← readWhole rest
      let (fraction, rest) ← readFraction rest
      let (exponent, rest) ← readExponent rest
      let value ←
        match fraction, exponent with
        | none, none => integerOf negative (ofDigits 10 whole) input
        | _, _ => floatOf negative whole (fraction.getD []) (exponent.getD 0) input
      .ok (value, rest)

end ProxyFleet.Toml
