import ProxyFleet.Fleet.Basic
import ProxyFleet.Logging.Line
import ProxyFleet.Settings.Document
import ProxyFleet.Settings.Summary

/-!
# The command line

The program reads its settings, says so, runs a fleet and reports. Whatever it needs of the outside
is given: the environment, the files, the network, and whether it is interrupted. A failure ends it
with a complaint that lists the causes below it.
-/

namespace ProxyFleet.CommandLine

/-! ## Complaints -/

/-- The lines of a text behind the first one moved to the right. -/
def hang (width : Nat) (text : String) : String :=
  ("\n" ++ String.ofList (List.replicate width ' ')).intercalate (text.splitOn "\n")

def numbered (index : Nat) (cause : String) : String :=
  let number := toString index
  .ofList (List.replicate (5 - number.length) ' ') ++ number ++ ": " ++ hang 7 cause

/-- The causes, one below the other; several ones are numbered. -/
def causeLines : List String → List String
  | [] => []
  | [cause] => ["    " ++ hang 4 cause]
  | causes => causes.zipIdx.map fun (cause, index) ↦ numbered index cause

def complaint (top : String) (causes : List String) : String :=
  "Error: " ++ top
    ++ (if causes.isEmpty then "" else "\n\nCaused by:\n" ++ "\n".intercalate (causeLines causes))
    ++ "\n"

def complainOf (e : Failure) : String := complaint e.message e.causes

/-- A complaint about a failure in some activity. -/
def complainIn (activity : String) (e : Failure) : String := complaint activity (e.message :: e.causes)

/-! ## Running -/

structure Outcome where
  exitCode : Nat
  messages : List LogMessage
  json : Bool
  complaint : Option String

def failed (messages : List LogMessage) (json : Bool) (complaint : String) : Outcome :=
  { exitCode := 1, messages, json, complaint := some complaint }

/-- A message of the program itself. -/
def message (level : LogLevel) (text : String) (fields : List (String × LogValue) := []) : LogMessage :=
  { level, target := LogMessage.programTarget, text, fields }

def helloMessage : LogMessage :=
  message .info "Starting ADS load harness"
    [("app_name", .text programName), ("version", .text programVersion)]

/-- The message about an interrupt. -/
def interruptMessage : LogMessage := message .info "Shutdown signal received, stopping sessions"

/-- The message about slots that kept different resources. -/
def differenceMessage : LogMessage :=
  message .warn "Sessions finished with differing resource snapshots"

/-- The messages at the end of a fleet. -/
def lastMessages (r : FleetReport) : List LogMessage :=
  r.toMessage :: if r.consistent = some false then [differenceMessage] else []

/-- Runs a fleet with settings that were read. -/
def runFleet (s : Settings) (filter : LogFilter) (files : Files) (network : Network)
    (interrupted : Bool) : Outcome :=
  let json := s.logging.json
  let first := [helloMessage, s.toMessage]
  match Fleet.new s with
  | .error e => failed (filter.select first) json (complainIn "invalid fleet configuration" e)
  | .ok fleet =>
    match fleet.run (Fleet.attemptInVain files network) with
    | .error e => failed (filter.select (first ++ [fleet.startMessage])) json (complainOf e)
    | .ok run =>
      let messages := first ++ [fleet.startMessage] ++ run.messages
        ++ (if interrupted then [interruptMessage] else []) ++ lastMessages run.report
      { exitCode := 0, messages := filter.select messages, json, complaint := none }

/-- Runs the program. -/
def run (env : Environment) (files : Files) (network : Network) (interrupted : Bool) : Outcome :=
  match Settings.load env files with
  | .error e => failed [] false (complainIn "failed to load configuration" e)
  | .ok s =>
    match LogFilter.choose (env.text? "RUST_LOG") s.logging.level with
    | .error e => failed [] false (complainOf e)
    | .ok filter => runFleet s filter files network interrupted

end ProxyFleet.CommandLine
