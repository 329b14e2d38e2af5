import GhostLayer.Client.Program
import GhostLayer.Network.Reference
import GhostLayer.Relay.MetadataLaws
import GhostLayer.Relay.Steps

/-! # Messages are read as what they are

A relay and a client tell their messages apart by trying one decoder after the
other. The records overlap in their fields, and unknown fields are ignored, so
that a message could be taken for one of a kind that is tried earlier. What is
written by either side is not: each record lacks a field that every record tried
before it requires.
-/

namespace Client

open Foundation Network Relay

variable {ext : Externals}

namespace Engine

/-- The decoders of the tunnel loop, which does not try envelopes. -/
def readResponse (ext : Externals) (payload : Bytes) : Outcome Empty Response :=
  match ext.fromSlice (HandshakeResponse.fromJson ext) payload with
  | some response => .ok (.handshake response)
  | none =>
      match ext.fromSlice (ForwardingMessage.fromJson ext) payload with
      | some message => .ok (.forwarding message)
      | none => readMetadata ext payload

theorem handleResponse_readResponse (setup : Setup) (inputs : Inputs) (payload : Bytes) :
    handleResponse ext setup inputs payload =
      match readResponse ext payload with
      | .ok (.handshake response) => completeSession ext response
      | .ok (.forwarding message) => deliver ext setup message
      | .ok (.metadata metadata) => considerRelay ext setup inputs metadata
      | .ok (.envelope _) | .ok .unknown => pure ()
      | .panic => Fallible.panic := by
  unfold handleResponse readResponse readMetadata
  cases ext.fromSlice (HandshakeResponse.fromJson ext) payload with
  | some response => rfl
  | none =>
      cases ext.fromSlice (ForwardingMessage.fromJson ext) payload with
      | some message => rfl
      | none => cases RelayMetadata.fromSlice ext payload <;> rfl

end Engine

/-! ## What a relay is sent -/

section Requests

theorem readRequest_handshake (hparse : ext.ParsesJson) (hreads : ext.ReadsIdentities)
    (init : HandshakeInit) :
    Node.readRequest ext (init.toJson ext).render = .handshake init := by
  simp only [Node.readRequest, Externals.fromSlice, hparse _ init.readable_toJson,
    Option.bind_some, HandshakeInit.fromJson_toJson hreads]

theorem readRequest_metadata (hparse : ext.ParsesJson) (request : RelayMetadataRequest) :
    Node.readRequest ext request.toJson.render = .metadata request := by
  -- a handshake has a session id
  have hinit : HandshakeInit.fromJson ext request.toJson = none := rfl
  simp only [Node.readRequest, Externals.fromSlice, hparse _ request.readable_toJson,
    Option.bind_some, hinit, RelayMetadataRequest.fromJson_toJson]

theorem readRequest_envelope (hparse : ext.ParsesJson) (envelope : DataPlaneEnvelope) :
    Node.readRequest ext envelope.toJson.render = .envelope envelope := by
  -- a handshake and a metadata request have a protocol version, a message has a forwarding id
  have hinit : HandshakeInit.fromJson ext envelope.toJson = none := rfl
  have hrequest : RelayMetadataRequest.fromJson envelope.toJson = none := rfl
  have hmessage : ForwardingMessage.fromJson ext envelope.toJson = none := rfl
  simp only [Node.readRequest, Externals.fromSlice, hparse _ (envelope.readable_toJson 125),
    Option.bind_some, hinit, hrequest, hmessage, DataPlaneEnvelope.fromJson_toJson]

end Requests

/-! ## What a client is sent -/

section Responses

theorem readResponse_handshake (hparse : ext.ParsesJson) (hreads : ext.ReadsIdentities)
    (response : HandshakeResponse) :
    Program.readResponse ext (response.toJson ext).render = .ok (.handshake response) := by
  simp only [Program.readResponse, Externals.fromSlice, hparse _ response.readable_toJson,
    Option.bind_some, HandshakeResponse.fromJson_toJson hreads]

theorem readResponse_forwarding (hparse : ext.ParsesJson) (hreads : ext.ReadsIdentities)
    (hsockets : ext.ReadsSockets) (message : ForwardingMessage) :
    Program.readResponse ext (message.toJson ext).render = .ok (.forwarding message) := by
  have hresponse : HandshakeResponse.fromJson ext (message.toJson ext) = none :=
    HandshakeResponse.fromJson_missing rfl
  simp only [Program.readResponse, Externals.fromSlice, hparse _ message.readable_toJson,
    Option.bind_some, hresponse, ForwardingMessage.fromJson_toJson hreads hsockets]

theorem readResponse_envelope (hparse : ext.ParsesJson) (envelope : DataPlaneEnvelope) :
    Program.readResponse ext envelope.toJson.render = .ok (.envelope envelope) := by
  have hresponse : HandshakeResponse.fromJson ext envelope.toJson = none := rfl
  have hmessage : ForwardingMessage.fromJson ext envelope.toJson = none := rfl
  simp only [Program.readResponse, Externals.fromSlice, hparse _ (envelope.readable_toJson 125),
    Option.bind_some, hresponse, hmessage, DataPlaneEnvelope.fromJson_toJson]

theorem readResponse_metadata (hparse : ext.ParsesJson) (hreads : ext.ReadsIdentities)
    {metadata : RelayMetadata} {json : Json} (hwritable : metadata.Writable)
    (hwritten : metadata.toJson ext = some json) :
    Program.readResponse ext json.render = .ok (.metadata metadata.truncated) := by
  have hslice := hwritable.fromSlice_toJson hparse hreads hwritten
  rw [hwritable.toJson] at hwritten
  cases hwritten
  -- every other record has a kind
  have hresponse : HandshakeResponse.fromJson ext
      (.obj (RelayMetadata.fieldNames.zip (metadata.values ext))) = none := rfl
  have hmessage : ForwardingMessage.fromJson ext
      (.obj (RelayMetadata.fieldNames.zip (metadata.values ext))) = none := rfl
  have henvelope : DataPlaneEnvelope.fromJson
      (.obj (RelayMetadata.fieldNames.zip (metadata.values ext))) = none := rfl
  simp only [Program.readResponse, readMetadata, hslice, Externals.fromSlice,
    hparse _ hwritable.readable_values, Option.bind_some, hresponse, hmessage, henvelope]

/-- The two loops of a client differ in what they make of an envelope only. -/
theorem Engine.readResponse_eq {payload : Bytes}
    (hother : ∀ envelope, Program.readResponse ext payload ≠ .ok (.envelope envelope)) :
    Engine.readResponse ext payload = Program.readResponse ext payload := by
  simp only [Program.readResponse] at hother
  unfold Engine.readResponse Program.readResponse
  cases hresponse : ext.fromSlice (HandshakeResponse.fromJson ext) payload with
  | some response => rfl
  | none =>
      cases hmessage : ext.fromSlice (ForwardingMessage.fromJson ext) payload with
      | some message => rfl
      | none =>
          cases henvelope : ext.fromSlice DataPlaneEnvelope.fromJson payload with
          | none => rfl
          | some envelope => simp [hresponse, hmessage, henvelope] at hother

/-- What the program reads as no envelope is read in the same way by both loops. -/
theorem readers_agree {payload : Bytes} {response : Response}
    (hread : Program.readResponse ext payload = .ok response)
    (hother : ∀ envelope, response ≠ .envelope envelope) :
    ∀ read ∈ [Program.readResponse ext, Engine.readResponse ext], read payload = .ok response := by
  have hsame : Engine.readResponse ext payload = Program.readResponse ext payload := by
    refine Engine.readResponse_eq fun envelope henvelope => hother envelope ?_
    rw [hread] at henvelope
    exact Outcome.ok.inj henvelope
  simp [hread, hsame]

end Responses

/-! ## Every decoder -/

/-- What either side writes is read as a value of its own type that equals it; the times of a report
are cut to whole seconds. Envelopes are read by the program only. -/
theorem decoders_separate (hparse : ext.ParsesJson) (hreads : ext.ReadsIdentities)
    (hsockets : ext.ReadsSockets) :
    ((∀ init : HandshakeInit,
        Node.readRequest ext (init.toJson ext).render = .handshake init) ∧
      (∀ request : RelayMetadataRequest,
        Node.readRequest ext request.toJson.render = .metadata request) ∧
      (∀ message : ForwardingMessage,
        Node.readRequest ext (message.toJson ext).render = .forwarding message) ∧
      (∀ envelope : DataPlaneEnvelope,
        Node.readRequest ext envelope.toJson.render = .envelope envelope)) ∧
    (∀ envelope : DataPlaneEnvelope,
      Program.readResponse ext envelope.toJson.render = .ok (.envelope envelope)) ∧
    ∀ read ∈ [Program.readResponse ext, Engine.readResponse ext],
      (∀ response : HandshakeResponse,
        read (response.toJson ext).render = .ok (.handshake response)) ∧
      (∀ message : ForwardingMessage,
        read (message.toJson ext).render = .ok (.forwarding message)) ∧
      (∀ metadata : RelayMetadata, metadata.Writable → ∃ json, metadata.toJson ext = some json ∧
        read json.render = .ok (.metadata metadata.truncated)) := by
  refine ⟨⟨?_, ?_, ?_, ?_⟩, ?_, ?_⟩
  · exact readRequest_handshake hparse hreads
  · exact readRequest_metadata hparse
  · exact Node.readRequest_forwarding hparse hreads hsockets
  · exact readRequest_envelope hparse
  · exact readResponse_envelope hparse
  · intro read hread
    refine ⟨?_, ?_, ?_⟩
    · intro response
      exact readers_agree (readResponse_handshake hparse hreads response) nofun read hread
    · intro message
      exact readers_agree (readResponse_forwarding hparse hreads hsockets message) nofun read hread
    · intro metadata hwritable
      have hmetadata := readResponse_metadata hparse hreads hwritable hwritable.toJson
      exact ⟨_, hwritable.toJson, readers_agree hmetadata nofun read hread⟩

/-- A report that is written one and a half seconds after the epoch. -/
def sample : RelayMetadata where
  peerId := ⟨[2]⟩
  protocolVersion := "1.0"
  softwareVersion := "0.1.0"
  supportedTransports := ["quic"]
  capabilities := ["quic", "relay"]
  listeningAddress := some "/ip4/127.0.0.1/udp/9000/quic-v1"
  advertisedAddress := none
  status := .online
  health := .healthy
  latencyMs := some 12
  timestamp := 1500000000
  lastHeartbeat := some 999999999

theorem sample_writable : sample.Writable where
  timestamp := ⟨by decide, by decide⟩
  lastHeartbeat heartbeat hmem := by
    obtain rfl := Option.some.inj hmem
    exact ⟨by decide, by decide⟩

theorem decoders_separate_sample :
    reference.ParsesJson ∧ reference.ReadsIdentities ∧ reference.ReadsSockets ∧
      ∃ json, sample.toJson reference = some json ∧
        Program.readResponse reference json.render =
          .ok (.metadata { sample with timestamp := 1000000000, lastHeartbeat := some 0 }) := by
  refine ⟨reference.parsesJson, reference.readsIdentities, reference.readsSockets, ?_⟩
  exact ((decoders_separate reference.parsesJson reference.readsIdentities
    reference.readsSockets).2.2 _ (by simp)).2.2 sample sample_writable

end Client
