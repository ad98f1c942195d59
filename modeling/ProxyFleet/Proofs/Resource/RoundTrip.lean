import ProxyFleet.Proofs.Wire.RoundTrip
import ProxyFleet.Resource.DecoderTable

/-!
# Resources that are written and read back

Every message type of a resource reads back what it writes (`Schema.ReadsBack`), and so the standard
decoders read every resource back from a payload of its kind. An envelope keeps the payload inside
it as it is, whatever else it says and whether or not anybody can decode the payload, so a decoder
table makes the same of a payload in an envelope and without one.

Each message type has one lemma. It names a lemma for each of its fields in turn, and what has been
read after the last one is the message. A oneof is followed member by member.
-/

namespace ProxyFleet

open Wire Wire.Field

/-! ## The message types -/

theorem Payload.readsBack : Payload.schema.ReadsBack 0 where
  numbered := by decide
  restores _ _ _ := .cons (restores_text rfl) <| .cons (restores_bytes rfl) <| .nil _

theorem Envelope.readsBack : Envelope.schema.ReadsBack 1 where
  numbered := by decide
  restores := by
    rintro ⟨version, _ | body, name, aliases⟩ depth hdepth <;>
      exact .cons (restores_text rfl) <| .cons (restores_message Payload.readsBack hdepth rfl) <|
        .cons (restores_text rfl) <|
        .cons (restores_texts ⟨rfl, fun _ ↦ rfl, fun _ _ ↦ rfl⟩) <| .nil _

/-! ### Clusters and endpoints -/

theorem EndpointSource.readsBack : EndpointSource.schema.ReadsBack 0 where
  numbered := by decide
  restores _ _ _ := .cons (restores_text rfl) <| .nil _

theorem CustomDiscovery.readsBack : CustomDiscovery.schema.ReadsBack 1 where
  numbered := by decide
  restores := by
    rintro ⟨name, _ | config⟩ depth hdepth <;>
      exact .cons (restores_text rfl) <|
        .cons (restores_message Payload.readsBack hdepth rfl) <| .nil _

theorem Percent.readsBack : Percent.schema.ReadsBack 0 where
  numbered := by decide
  restores _ _ _ := .cons (restores_double rfl) <| .nil _

theorem BalancingSettings.readsBack : BalancingSettings.schema.ReadsBack 1 where
  numbered := by decide
  restores := by
    rintro ⟨_ | threshold⟩ depth hdepth <;>
      exact .cons (restores_message Percent.readsBack hdepth rfl) <| .nil _

theorem Cluster.readsBack : Cluster.schema.ReadsBack 2 where
  numbered := by decide
  restores := by
    rintro ⟨name, _ | source, balancing, statName, _ | way | extension, _ | settings⟩ depth
      hdepth <;>
      have hlevel := Nat.le_of_succ_le hdepth <;>
      exact .cons (restores_text rfl) <| .cons restores_chosenEnum <|
        .cons (restores_message CustomDiscovery.readsBack hdepth rfl) <|
        .cons (restores_message EndpointSource.readsBack hlevel rfl) <|
        .cons (restores_enum rfl) <|
        .cons (restores_message BalancingSettings.readsBack hdepth rfl) <|
        .cons (restores_text rfl) <| .nil _

theorem LocalityEndpoints.readsBack : LocalityEndpoints.schema.ReadsBack 0 where
  numbered := by decide
  restores _ _ _ := .cons (restores_word rfl) <| .nil _

theorem EndpointAssignment.readsBack : EndpointAssignment.schema.ReadsBack 1 where
  numbered := by decide
  restores _ _ hdepth := .cons (restores_text rfl) <|
    .cons (restores_messages LocalityEndpoints.readsBack hdepth
      ⟨rfl, fun _ ↦ rfl, fun _ _ ↦ rfl⟩) <| .nil _

/-! ### Listeners -/

theorem NetworkFilter.readsBack : NetworkFilter.schema.ReadsBack 1 where
  numbered := by decide
  restores := by
    rintro ⟨name, _ | config | _⟩ depth hdepth <;>
      exact .cons (restores_text rfl) <|
        .cons (restores_message Payload.readsBack hdepth rfl) <|
        .cons (restores_message (Schema.readsBack_blank _) hdepth rfl) <| .nil _

theorem TransportSocket.readsBack : TransportSocket.schema.ReadsBack 1 where
  numbered := by decide
  restores := by
    rintro ⟨name, _ | config⟩ depth hdepth <;>
      exact .cons (restores_text rfl) <|
        .cons (restores_message Payload.readsBack hdepth rfl) <| .nil _

theorem FilterChain.readsBack : FilterChain.schema.ReadsBack 2 where
  numbered := by decide
  restores := by
    rintro ⟨filters, _ | socket, name⟩ depth hdepth <;>
      exact .cons (restores_messages NetworkFilter.readsBack hdepth
          ⟨rfl, fun _ ↦ rfl, fun _ _ ↦ rfl⟩) <|
        .cons (restores_message TransportSocket.readsBack hdepth rfl) <|
        .cons (restores_text rfl) <| .nil _

theorem Listener.readsBack : Listener.schema.ReadsBack 3 where
  numbered := by decide
  restores := by
    rintro ⟨name, chains, _ | chain, statName⟩ depth hdepth <;>
      exact .cons (restores_text rfl) <|
        .cons (restores_messages FilterChain.readsBack hdepth
          ⟨rfl, fun _ ↦ rfl, fun _ _ ↦ rfl⟩) <|
        .cons (restores_message FilterChain.readsBack hdepth rfl) <|
        .cons (restores_text rfl) <| .nil _

/-! ### Routes, secrets and extensions -/

theorem VirtualHost.readsBack : VirtualHost.schema.ReadsBack 0 where
  numbered := by decide
  restores _ _ _ := .cons (restores_text rfl) <| .nil _

theorem RouteConfiguration.readsBack : RouteConfiguration.schema.ReadsBack 1 where
  numbered := by decide
  restores _ _ hdepth := .cons (restores_text rfl) <|
    .cons (restores_messages VirtualHost.readsBack hdepth
      ⟨rfl, fun _ ↦ rfl, fun _ _ ↦ rfl⟩) <| .nil _

theorem DataSource.readsBack : DataSource.schema.ReadsBack 0 where
  numbered := by decide
  restores := by
    rintro ⟨_ | _ | _ | _ | _⟩ _ _ <;>
      exact .cons restores_chosenText <| .cons restores_chosenBytes <|
        .cons restores_chosenText <| .cons restores_chosenText <| .nil _

theorem GenericSecret.readsBack : GenericSecret.schema.ReadsBack 1 where
  numbered := by decide
  restores := by
    rintro ⟨_ | source⟩ depth hdepth <;>
      exact .cons (restores_message DataSource.readsBack hdepth rfl) <| .nil _

theorem Secret.readsBack : Secret.schema.ReadsBack 2 where
  numbered := by decide
  restores := by
    rintro ⟨name, _ | _ | _ | _ | secret⟩ depth hdepth <;>
      have hlevel := Nat.le_of_succ_le hdepth <;>
      exact .cons (restores_text rfl) <|
        .cons (restores_message (Schema.readsBack_blank _) hlevel rfl) <|
        .cons (restores_message (Schema.readsBack_blank _) hlevel rfl) <|
        .cons (restores_message (Schema.readsBack_blank _) hlevel rfl) <|
        .cons (restores_message GenericSecret.readsBack hdepth rfl) <| .nil _

theorem ExtensionConfiguration.readsBack : ExtensionConfiguration.schema.ReadsBack 1 where
  numbered := by decide
  restores := by
    rintro ⟨name, _ | config⟩ depth hdepth <;>
      exact .cons (restores_text rfl) <|
        .cons (restores_message Payload.readsBack hdepth rfl) <| .nil _

/-! ## Resources and envelopes -/

theorem Resource.decode_encode {r : Resource} (hsize : r.encode.length < UInt64.size) :
    decode r.kind r.encode = .ok r := by
  cases r with
  | cluster => exact congrArg (Except.map _) (Cluster.readsBack.decode_encode (by decide) hsize)
  | listener => exact congrArg (Except.map _) (Listener.readsBack.decode_encode (by decide) hsize)
  | route =>
    exact congrArg (Except.map _) (RouteConfiguration.readsBack.decode_encode (by decide) hsize)
  | endpoint =>
    exact congrArg (Except.map _) (EndpointAssignment.readsBack.decode_encode (by decide) hsize)
  | secret => exact congrArg (Except.map _) (Secret.readsBack.decode_encode (by decide) hsize)
  | extension =>
    exact congrArg (Except.map _) (ExtensionConfiguration.readsBack.decode_encode (by decide) hsize)

def Envelope.toPayload (e : Envelope) : Payload := ⟨Envelope.typeUrl, Envelope.schema.encode e⟩

theorem ResourceKind.typeUrl_ne_envelope (k : ResourceKind) : k.typeUrl ≠ Envelope.typeUrl := by
  cases k <;> decide

namespace DecoderTable

variable {table : DecoderTable} {payload body : Payload} {decoder : Decoder} {r : Resource}

theorem find?_standard (k : ResourceKind) : standard.find? k.typeUrl = some { kind := k } := by
  cases k <;> rfl

theorem unwrap_of_ne (h : payload.typeUrl ≠ Envelope.typeUrl) : unwrap payload = .ok payload :=
  if_neg h

/-- Whatever an envelope says on its outside, its body comes out as it went in. -/
theorem unwrap_toPayload {e : Envelope} (hbody : e.body = some body)
    (hsize : (Envelope.schema.encode e).length < UInt64.size) :
    unwrap e.toPayload = .ok body := by
  rw [unwrap, Envelope.toPayload, if_pos rfl, Envelope.readsBack.decode_encode (by decide) hsize]
  dsimp only
  rw [hbody]

theorem decode_of_read (hbody : unwrap payload = .ok body)
    (hdecoder : table.find? body.typeUrl = some decoder) (hread : decoder.read body.value = .ok r) :
    table.decode payload = .ok r := by
  have hfound : table.decoderOf body = .ok decoder := by rw [decoderOf, hdecoder]
  simp only [decode, hbody, hfound, hread, bind, Except.bind]

/-- **Decoding undoes encoding.** The standard decoders read every resource back from a payload of
its kind. Any payload that is not itself an envelope, decodable or not, is to every decoder table
the same in an envelope and without one, whatever version, name and further names the envelope gives
it. No payload in memory reaches the bound, which is that of the lengths in the format. -/
theorem decode_bare_or_enveloped :
    (∀ r : Resource, r.encode.length < UInt64.size → standard.decode r.toPayload = .ok r) ∧
    ∀ (table : DecoderTable) (version name : String) (aliases : List String) (body : Payload),
      body.typeUrl ≠ Envelope.typeUrl →
      (Envelope.schema.encode ⟨version, some body, name, aliases⟩).length < UInt64.size →
      table.decode (Envelope.toPayload ⟨version, some body, name, aliases⟩) = table.decode body ∧
      table.endsSession (Envelope.toPayload ⟨version, some body, name, aliases⟩) =
        table.endsSession body := by
  refine ⟨fun r hsize ↦ ?_, fun table version name aliases body hbare hsize ↦ ?_⟩
  · have hread : ({ kind := r.kind } : Decoder).read r.encode = .ok r := by
      change Except.mapError _ (Resource.decode r.kind r.encode) = _
      rw [Resource.decode_encode hsize]
      rfl
    exact decode_of_read (unwrap_of_ne r.kind.typeUrl_ne_envelope) (find?_standard r.kind) hread
  · have hsame : unwrap (Envelope.toPayload ⟨version, some body, name, aliases⟩) = unwrap body :=
      (unwrap_toPayload rfl hsize).trans (unwrap_of_ne hbare).symm
    exact ⟨by rw [decode, decode, hsame], by rw [endsSession, endsSession, hsame]⟩

/-- A listener with a filter of each sort, a filter whose configuration is there but empty, and a
default chain in which nothing is said. -/
def layeredListener : Resource := .listener {
  name := "ingress"
  filterChains := [{
    filters := [
      ⟨"typed", some (.typed ⟨"type.googleapis.com/unknown", [0, 255, 128]⟩)⟩,
      ⟨"empty", some (.typed ⟨"", []⟩)⟩, ⟨"later", some .discovered⟩, ⟨"", none⟩]
    socket := some ⟨"tls", some ⟨"t", [8]⟩⟩
    name := "first" }]
  defaultChain := some ⟨[], none, ""⟩
  statName := "" }

theorem decode_layeredListener :
    standard.decode layeredListener.toPayload = .ok layeredListener ∧
    standard.decode (Envelope.toPayload ⟨"7", some layeredListener.toPayload, "n", ["", "b"]⟩) =
      standard.decode layeredListener.toPayload ∧
    empty.decode (Envelope.toPayload ⟨"", some ⟨"nobody's", [255]⟩, "", []⟩) =
      empty.decode ⟨"nobody's", [255]⟩ :=
  ⟨decode_bare_or_enveloped.1 layeredListener (by decide +kernel),
    (decode_bare_or_enveloped.2 standard "7" "n" ["", "b"] layeredListener.toPayload
      (by decide +kernel) (by decide +kernel)).1,
    (decode_bare_or_enveloped.2 empty "" "" [] ⟨"nobody's", [255]⟩ (by decide +kernel)
      (by decide +kernel)).1⟩

end DecoderTable

end ProxyFleet
