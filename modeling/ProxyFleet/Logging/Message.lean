import ProxyFleet.Failure
import ProxyFleet.Logging.Filter

/-!
# Log messages

A log message has a level, a target that says which part of the program it comes from, a text, and
fields.
-/

namespace ProxyFleet

inductive LogValue
  | text (value : String)
  | number (value : Nat)
  | flag (value : Bool)
deriving DecidableEq, Repr

structure LogMessage where
  /-- How important it is. -/
  level : LogLevel
  /-- Which part of the program it comes from. -/
  target : String
  text : String
  fields : List (String × LogValue) := []
deriving DecidableEq, Repr

namespace LogMessage

/-- The part of the program that runs sessions. -/
def fleetTarget : String := "flowplane_adsc::fleet"

/-- The part of the program that cares for logging. -/
def loggingTarget : String := "flowplane_adsc::observability::logging"

/-- The command line. -/
def programTarget : String := "flowplane_adsc"

def failureField (failure : String) : String × LogValue := ("error", .text failure)

end LogMessage

/-- The messages that pass a filter. -/
def LogFilter.select (f : LogFilter) (messages : List LogMessage) : List LogMessage :=
  messages.filter fun m ↦ f.passes m.level m.target

end ProxyFleet
