import ProxyFleet.Logging.Message
import ProxyFleet.Settings.Basic

/-!
# The message with the settings

What is logged of the settings at the start.
-/

namespace ProxyFleet

def Settings.toMessage (s : Settings) : LogMessage where
  level := .info
  target := LogMessage.loggingTarget
  text := "Flowplane ADS harness configuration"
  fields := [
    ("address", .text s.address), ("delta", .flag (s.mode = .incremental)),
    ("store_responses", .flag s.keepsStore), ("sessions", .number s.fleet.sessions),
    ("tls", .flag s.tls.isSome), ("node_type", .text s.identity.role.word),
    ("namespace", .text s.identity.namespaceName)]

end ProxyFleet
