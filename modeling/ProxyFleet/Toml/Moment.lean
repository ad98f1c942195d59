import ProxyFleet.Toml.Number

/-!
# Dates and times of configuration documents

A moment is a date, a time of day, or both, and both may come with the distance from universal time.
It is kept as text in one form: the letter between date and time is `T`, a fraction of a second has
at most nine digits and no zeros at its end, and a distance has a sign unless it is `Z`.
-/

namespace ProxyFleet.Toml

/-- A number with zeros in front up to a width. -/
def padded (width n : Nat) : String :=
  let digits := (toString n).toList
  .ofList (List.replicate (width - digits.length) '0' ++ digits)

/-- Takes a number of exactly so many digits, if it lies in a range. -/
def readFixed (count least greatest : Nat) : Read Nat := fun input ↦
  let digits := (input.take count).filterMap (digit? 10)
  if digits.length = count then
    let n := ofDigits 10 digits
    if least ≤ n ∧ n ≤ greatest then .ok (n, input.drop count) else fail .outOfRange input
  else fail .moment input

/-- Takes a character. -/
def readMark (mark : Char) (input : List Char) : Except TomlError (List Char) :=
  match input with
  | c :: rest => if c = mark then .ok rest else fail .moment input
  | [] => fail .moment []

def isLeap (year : Nat) : Bool := year % 4 == 0 && (year % 100 != 0 || year % 400 == 0)

def daysOf (year month : Nat) : Nat :=
  if month = 2 then if isLeap year then 29 else 28
  else if month ∈ [4, 6, 9, 11] then 30
  else 31

def readDate : Read String := fun input ↦ do
  let (year, rest) ← readFixed 4 0 9999 input
  let rest ← readMark '-' rest
  let (month, rest) ← readFixed 2 1 12 rest
  let rest ← readMark '-' rest
  let (day, behind) ← readFixed 2 1 31 rest
  if daysOf year month < day then fail .outOfRange rest
  else .ok (padded 4 year ++ "-" ++ padded 2 month ++ "-" ++ padded 2 day, behind)

/-- The digits without zeros at the end. -/
def withoutLastZeros (digits : List Char) : List Char := (digits.reverse.dropWhile (· = '0')).reverse

/-- Takes the fraction of a second, if there is one. -/
def readSecondFraction (input : List Char) : String × List Char :=
  match input with
  | '.' :: rest =>
    match rest.takeWhile Char.isDigit with
    | [] => ("", input)
    | digits =>
      match withoutLastZeros (digits.take 9) with
      | [] => ("", rest.dropWhile Char.isDigit)
      | kept => ("." ++ .ofList kept, rest.dropWhile Char.isDigit)
  | _ => ("", input)

/-- Takes a time of day. -/
def readTime : Read String := fun input ↦ do
  let (hour, rest) ← readFixed 2 0 23 input
  let rest ← readMark ':' rest
  let (minute, rest) ← readFixed 2 0 59 rest
  let rest ← readMark ':' rest
  let (second, rest) ← readFixed 2 0 60 rest
  let (fraction, rest) := readSecondFraction rest
  .ok (padded 2 hour ++ ":" ++ padded 2 minute ++ ":" ++ padded 2 second ++ fraction, rest)

/-- Takes a distance from universal time, if there is one. -/
def readOffset : Read String := fun input ↦
  match input with
  | 'Z' :: rest => .ok ("Z", rest)
  | 'z' :: rest => .ok ("Z", rest)
  | c :: rest =>
    if c = '+' ∨ c = '-' then do
      let (hour, rest) ← readFixed 2 0 23 rest
      let rest ← readMark ':' rest
      let (minute, rest) ← readFixed 2 0 59 rest
      let sign := if c = '-' ∧ 0 < hour + minute then "-" else "+"
      .ok (sign ++ padded 2 hour ++ ":" ++ padded 2 minute, rest)
    else .ok ("", input)
  | [] => .ok ("", [])

/-- Whether a date begins here: four digits and a dash. -/
def dateAhead (input : List Char) : Bool :=
  (input.take 4).length == 4 && (input.take 4).all Char.isDigit && (input.drop 4).head? == some '-'

/-- Whether a time begins here: two digits and a colon. -/
def timeAhead (input : List Char) : Bool :=
  (input.take 2).length == 2 && (input.take 2).all Char.isDigit && (input.drop 2).head? == some ':'

/-- Takes the time behind a date, if there is one. -/
def readTimeBehind : Read String := fun input ↦
  match input with
  | c :: rest =>
    if (c = 'T' ∨ c = 't' ∨ c = ' ') ∧ timeAhead rest then do
      let (time, rest) ← readTime rest
      let (offset, rest) ← readOffset rest
      .ok ("T" ++ time ++ offset, rest)
    else .ok ("", input)
  | [] => .ok ("", [])

def readMoment : Read Toml := fun input ↦
  if dateAhead input then do
    let (date, rest) ← readDate input
    let (time, rest) ← readTimeBehind rest
    .ok (.moment (date ++ time), rest)
  else do
    let (time, rest) ← readTime input
    .ok (.moment time, rest)

/-- Takes a number or a moment. -/
def readNumberOrMoment : Read Toml := fun input ↦
  if dateAhead input || timeAhead input then readMoment input else readNumber input

end ProxyFleet.Toml
