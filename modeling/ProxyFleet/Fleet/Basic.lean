import ProxyFleet.Connection.Dial
import ProxyFleet.Fleet.Report

/-!
# Fleets

A fleet runs many sessions with the same settings, each in a slot of its own. The proxy of a slot
has the number of the slot behind its workload and an address that many further on.
-/

namespace ProxyFleet

/-- A fleet: settings that passed their check. -/
structure Fleet where
  settings : Settings
  /-- They passed. -/
  checked : settings.check = .ok ()

namespace Fleet

/-- The fleet with some settings, which must pass their check. -/
def new (s : Settings) : Except Failure Fleet :=
  match h : s.check with
  | .ok () => .ok ⟨s, h⟩
  | .error e => .error e

def offsetFailure (ip : String) (offset : Nat) : Failure :=
  .validation ("Cannot offset IP '" ++ ip ++ "' by " ++ toString offset) (some "ip")

/-- The address so many further on, as text. -/
def offsetIp (ip : String) (offset : Nat) : Except Failure String :=
  match (IpAddress.parse? ip).bind (·.offset? offset) with
  | some address => .ok address.text
  | none => .error (offsetFailure ip offset)

def slotWorkload (workload : String) (index : Nat) : String := workload ++ "-" ++ toString index

def slotSettings (f : Fleet) (index : Nat) : Except Failure Settings :=
  match offsetIp f.settings.identity.ip index with
  | .error e => .error e
  | .ok ip =>
    .ok { f.settings with
      identity := { f.settings.identity with
        workload := slotWorkload f.settings.identity.workload index
        ip := ip } }

/-- The settings of all slots, or the first failure. -/
def allSlotSettings (f : Fleet) : Except Failure (List Settings) :=
  (List.range f.settings.fleet.sessions).mapM f.slotSettings

def backoff (f : Fleet) : Backoff :=
  .doubling f.settings.fleet.firstDelayMillis f.settings.fleet.maxDelayMillis

/-- What the slots share. -/
def rules (f : Fleet) : SlotRules where
  convergenceSeconds := f.settings.fleet.convergenceSeconds
  keepsStore := f.settings.keepsStore

/-- What comes of a fleet whose slots make the given attempts. -/
structure Run where
  report : FleetReport
  /-- The messages of all slots, slot by slot. -/
  messages : List LogMessage

/-- Runs a fleet. The attempts of a slot depend on its settings. -/
def run (f : Fleet) (attempts : Settings → List Attempt) : Except Failure Run :=
  match f.allSlotSettings with
  | .error e => .error e
  | .ok slots =>
    .ok {
      report :=
        .ofOutcomes .ofMessages f.settings.fleet.sessions
          (slots.map fun s ↦ Slot.outcome f.rules (attempts s))
      messages := slots.flatMap fun s ↦ Slot.messages f.rules (attempts s) }

def startMessage (f : Fleet) : LogMessage where
  level := .info
  target := LogMessage.fleetTarget
  text := "Starting fleet"
  fields := [
    ("sessions", .number f.settings.fleet.sessions), ("address", .text f.settings.address),
    ("delta", .flag (f.settings.mode = .incremental))]

/-- The attempts of a slot before the fleet is cancelled, in a network where nobody answers: one,
which fails. Further ones would fail for the same reason and change nothing. -/
def attemptInVain (files : Files) (network : Network) (s : Settings) : List Attempt :=
  match Dial.connect s files network with
  | .ok () => []
  | .error e => [.failed e]

end Fleet

end ProxyFleet
