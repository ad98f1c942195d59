import ProxyFleet.Failure
import ProxyFleet.Resource.Basic

/-!
# Decoder tables

A decoder table says which type URLs a session understands and how the payloads of each of them are
read. A payload may come in an envelope, which is taken off once.
-/

namespace ProxyFleet

/-- How the payloads of one type URL are decoded. -/
structure Decoder where
  /-- The kind of resource for which the payloads are taken. -/
  kind : ResourceKind
  /-- Whether decoding ends the session to which the payload came, before anything else. -/
  endsSession : Bool := false
  /-- Reads a payload, or says in words why it cannot be read. Whoever registers a decoder may bring
  any reader; without one a payload is read as a resource of the kind. -/
  read : Wire.Bytes → Except String Resource := fun bytes ↦
    (Resource.decode kind bytes).mapError (·.message)

/-- The decoders by type URL; of several for one type URL the first one counts. -/
structure DecoderTable where
  /-- Type URLs and their decoders, the latest first. -/
  decoders : List (String × Decoder)

namespace DecoderTable

def empty : DecoderTable := ⟨[]⟩

/-- The table with a decoder for a type URL, in place of any before. -/
def register (table : DecoderTable) (typeUrl : String) (decoder : Decoder) : DecoderTable :=
  ⟨(typeUrl, decoder) :: table.decoders⟩

/-- The decoders of all kinds of resources, under their own type URLs. -/
def standard : DecoderTable :=
  ResourceKind.all.foldl (fun table k ↦ table.register k.typeUrl { kind := k }) empty

def find? (table : DecoderTable) (typeUrl : String) : Option Decoder :=
  (table.decoders.find? (·.1 == typeUrl)).map (·.2)

def supports (table : DecoderTable) (typeUrl : String) : Bool := (table.find? typeUrl).isSome

/-- The payload inside an envelope; one that is in none is itself. -/
def unwrap (payload : Payload) : Except Failure Payload :=
  if payload.typeUrl = Envelope.typeUrl then
    match Envelope.schema.decode payload.value with
    | .error e => .error (.decode payload.typeUrl e.message)
    | .ok envelope =>
      match envelope.body with
      | none => .error (.decode payload.typeUrl ("resource '" ++ envelope.name ++ "' has no body"))
      | some body => .ok body
  else .ok payload

/-- The decoder of a payload that is in no envelope. -/
def decoderOf (table : DecoderTable) (payload : Payload) : Except Failure Decoder :=
  match table.find? payload.typeUrl with
  | none => .error (.decode payload.typeUrl "no decoder registered")
  | some decoder => .ok decoder

/-- Decodes a payload, in an envelope or not. -/
def decode (table : DecoderTable) (payload : Payload) : Except Failure Resource := do
  let body ← unwrap payload
  let decoder ← table.decoderOf body
  match decoder.read body.value with
  | .error text => .error (.decode body.typeUrl text)
  | .ok resource => .ok resource

/-- Whether decoding the payload ends the session to which it came. -/
def endsSession (table : DecoderTable) (payload : Payload) : Bool :=
  match unwrap payload >>= table.decoderOf with
  | .ok decoder => decoder.endsSession
  | .error _ => false

end DecoderTable

end ProxyFleet
