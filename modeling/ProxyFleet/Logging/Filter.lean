import ProxyFleet.Failure
import ProxyFleet.Text.Alphanumeric
import ProxyFleet.Text.Blank

/-!
# Filters of log messages

A filter is a list of directives with commas between them. A directive has a target, a span with
fields, and a level, of which most may be missing. A message passes if the directive of the longest
target that its own target begins with has at least its level; a filter without directives lets
errors pass. Directives about spans say nothing about messages outside of spans.
-/

namespace ProxyFleet

/-- How important a message is, the most important one first. -/
inductive LogLevel
  /-- Something went wrong. -/
  | error
  /-- Something may go wrong. -/
  | warn
  /-- Something happened. -/
  | info
  /-- A detail. -/
  | debug
  /-- A detail of a detail. -/
  | trace
deriving DecidableEq, Repr

namespace LogLevel

/-- All levels, the most important one first. -/
def all : List LogLevel := [error, warn, info, debug, trace]

def word : LogLevel → String
  | error => "ERROR"
  | warn => "WARN"
  | info => "INFO"
  | debug => "DEBUG"
  | trace => "TRACE"

/-- The number of the level, from one on. -/
def rank : LogLevel → Nat
  | error => 1
  | warn => 2
  | info => 3
  | debug => 4
  | trace => 5

end LogLevel

/-- Why a filter cannot be read. -/
inductive FilterFault
  | directive
  | level
deriving DecidableEq, Repr

def FilterFault.message : FilterFault → String
  | directive => "invalid filter directive"
  | level =>
    "error parsing level filter: expected one of \"off\", \"error\", \"warn\", \"info\", \"debug\", "
      ++ "\"trace\", or a number 0-5"

/-- A part of a filter. -/
structure Directive where
  /-- What the target of a message begins with. -/
  target : Option String
  /-- Whether the directive is about the inside of spans. -/
  spans : Bool
  /-- The number of the least important level that passes; zero lets nothing pass. -/
  rank : Nat
deriving DecidableEq, Repr

namespace Directive

/-! ## Levels -/

/-- The number of the least important level. -/
def maxRank : Nat := LogLevel.trace.rank

/-- The number of a level that is written as a number. -/
def rankOfNumber? (word : List Char) : Option Nat :=
  let digits :=
    match word with
    | '+' :: digits => digits
    | digits => digits
  if digits.isEmpty ∨ ¬ digits.all Char.isDigit then none
  else
    let n := digits.foldl (fun n d ↦ n * 10 + (d.toNat - '0'.toNat)) 0
    if n ≤ maxRank then some n else none

/-- The number of a level that is written as a word, in whatever case. -/
def rankOfWord? (word : List Char) : Option Nat :=
  match String.ofList (word.map Char.toLower) with
  | "off" => some 0
  | "error" => some 1
  | "warn" => some 2
  | "info" => some 3
  | "debug" => some 4
  | "trace" => some 5
  | _ => none

def rank? (word : List Char) : Option Nat := (rankOfNumber? word).or (rankOfWord? word)

/-! ## Reading -/

/-- Whether a character may begin a directive other than one about all targets. -/
def mayBegin (c : Char) : Bool := c == '-' || c == ':' || c == '_' || Text.isAlphanumeric c

/-- Takes a level to the end; without one everything passes. -/
def readLevel (word : List Char) : Except FilterFault Nat :=
  if word.isEmpty then .ok maxRank
  else
    match rank? word with
    | some rank => .ok rank
    | none => .error .level

/-- Reads what follows a target and a span. -/
def readBehindSpan (target : Option String) : List Char → Except FilterFault Directive
  | [] => .ok { target, spans := true, rank := maxRank }
  | '=' :: word => (readLevel word).map fun rank ↦ { target, spans := true, rank }
  | _ :: _ => .error .directive

/-- Reads the fields of a span and what follows. The flag says that a field has begun. -/
def readFields (target : Option String) : Bool → List Char → Except FilterFault Directive
  | _, [] => .error .directive
  | begun, c :: rest =>
    if c = '}' then
      match begun, rest with
      | true, ']' :: rest => readBehindSpan target rest
      | _, _ => .error .directive
    else readFields target true rest

def readSpan (target : Option String) : List Char → Except FilterFault Directive
  | [] => .error .directive
  | c :: rest =>
    if c = ']' then readBehindSpan target rest
    else if c = '{' then readFields target false rest
    else readSpan target rest

/-- Reads a target or a level that stands alone. -/
def readAlone (word : List Char) : Directive :=
  match rank? word with
  | some rank => { target := none, spans := false, rank }
  | none => { target := some (.ofList word), spans := false, rank := maxRank }

/-- Reads a directive without blanks around it. -/
def read (chars : List Char) : Except FilterFault Directive :=
  match chars with
  | [] => .error .directive
  | '[' :: rest => readSpan none rest
  | c :: _ =>
    if ¬ mayBegin c then .error .directive
    else
      let word := chars.takeWhile fun c ↦ c ≠ '=' ∧ c ≠ '['
      match chars.drop word.length with
      | '=' :: level =>
        (readLevel level).map fun rank ↦ { target := some (.ofList word), spans := false, rank }
      | '[' :: rest => readSpan (some (.ofList word)) rest
      | _ => .ok (readAlone word)

end Directive

/-- A filter: its directives in order. -/
structure LogFilter where
  directives : List Directive
deriving DecidableEq, Repr

namespace LogFilter

/-- Reads a filter. Empty parts are passed over. -/
def parse (text : String) : Except FilterFault LogFilter :=
  (((text.splitOn ",").filter (· ≠ "")).mapM fun part ↦ Directive.read (Text.trim part).toList).map
    fun directives ↦ ⟨directives⟩

/-- How long the target of a directive is, if a target begins with it; a directive without one is
shorter than all others. -/
def fit (target : String) (d : Directive) : Option Nat :=
  if d.spans then none
  else
    match d.target with
    | none => some 0
    | some start => if start.toList.isPrefixOf target.toList then some (start.length + 1) else none

/-- The directive that counts for a target: of those with the longest target the last one. -/
def directiveFor (target : String) (directives : List Directive) : Option Directive :=
  directives.foldl
    (fun best d ↦
      match fit target d, best.bind (fit target) with
      | none, _ => best
      | some _, none => some d
      | some n, some m => if m ≤ n then some d else best)
    none

/-- The directives that count: without any, errors pass. -/
def effective (f : LogFilter) : List Directive :=
  if f.directives.isEmpty then [{ target := none, spans := false, rank := LogLevel.error.rank }]
  else f.directives

def passes (f : LogFilter) (level : LogLevel) (target : String) : Bool :=
  match directiveFor target f.effective with
  | some d => level.rank ≤ d.rank
  | none => false

/-- The filter of a level from the settings, unless a text from elsewhere is a filter. -/
def choose (override : Option String) (level : String) : Except Failure LogFilter :=
  match override.bind fun text ↦ (parse text).toOption with
  | some filter => .ok filter
  | none =>
    match parse level with
    | .ok filter => .ok filter
    | .error fault =>
      .error (.config ("Invalid log level '" ++ level ++ "': " ++ fault.message) none)

end LogFilter

end ProxyFleet
