import ProxyFleet.Failure
import ProxyFleet.ResourceKind

/-!
# Events

What a session tells those who wait: that resources of a kind came in, or that it is closed.
-/

namespace ProxyFleet

/-- Something that happened in a session. -/
inductive Event
  /-- Resources of a kind came in. -/
  | update (kind : ResourceKind)
  /-- The session was closed. -/
  | close
deriving DecidableEq

/-- Reads a kind of resource from its abbreviation or its type URL. -/
def ResourceKind.parse (text : String) : Except Failure ResourceKind :=
  match ofText? text with
  | some kind => .ok kind
  | none => .error (.validation ("Unknown resource type '" ++ text ++ "'") none)

namespace Event

def word : Event → String
  | update kind => kind.shortName
  | close => "close"

/-- Reads an event from its word; a type URL also does. -/
def parse (text : String) : Except Failure Event :=
  if text = "close" then .ok close else (ResourceKind.parse text).map update

end Event

end ProxyFleet
