import GhostLayer.Network.ChannelLaws
import GhostLayer.Relay.Metadata
import GhostLayer.Relay.Forwarding

/-! # What the operations of a forwarding context do

When each operation of a context succeeds and what it leaves behind, and that
forwarding messages are read back as themselves and as nothing else.
-/

namespace Relay

open Foundation Network

variable {ext : Externals}

/-! ## JSON forms are read back -/

@[simp] theorem ForwardedProtocol.fromJson_toJson (protocol : ForwardedProtocol) :
    ForwardedProtocol.fromJson protocol.toJson = some protocol := by
  cases protocol <;> rfl

@[simp] theorem ForwardedProtocol.readable_toJson (depth : Nat) (protocol : ForwardedProtocol) :
    Json.readable depth protocol.toJson = true := by
  cases protocol <;> simp [ForwardedProtocol.toJson, Json.readable]

theorem socketFromJson_text (hsockets : ext.ReadsSockets) (address : SocketAddr) :
    socketFromJson ext (.str (ext.socketText address)) = some address := by
  simp [socketFromJson, hsockets address]

theorem ForwardedPacket.fromJson_toJson (hsockets : ext.ReadsSockets) (packet : ForwardedPacket) :
    ForwardedPacket.fromJson ext (packet.toJson ext) = some packet := by
  have hsource := Serde.nullable_ofNullable (socketFromJson_text hsockets) nofun packet.source
  rw [ForwardedPacket.fromJson, ForwardedPacket.toJson, Serde.record_zip 0 (by decide) rfl]
  simp [socketFromJson_text hsockets, hsource]

theorem ForwardedPacket.readable_toJson (depth : Nat) (packet : ForwardedPacket) :
    Json.readable (depth + 2) (packet.toJson ext) = true := by
  have hsequence : packet.sequence.toNat < 2 ^ 64 := packet.sequence.toNat_lt
  obtain ⟨protocol, source, destination, flowId, sessionId, routeId, sequence, payload⟩ := packet
  cases source <;>
    simp_all [ForwardedPacket.toJson, ForwardedPacket.fieldNames, Json.readable,
      Json.readableFields, Serde.ofNullable]

theorem ForwardingMessage.fromJson_toJson (hreads : ext.ReadsIdentities)
    (hsockets : ext.ReadsSockets) (message : ForwardingMessage) :
    ForwardingMessage.fromJson ext (message.toJson ext) = some message := by
  have hpacket := Serde.nullable_ofNullable (ForwardedPacket.fromJson_toJson hsockets) nofun
    message.packet
  rw [ForwardingMessage.fromJson, ForwardingMessage.toJson, Serde.record_zip 1 (by decide) rfl]
  simp [RouteBinding.fromJson_toJson hreads, DataPlaneEnvelope.fromJson_toJson, hpacket]

theorem ForwardingMessage.toJson_injective (hreads : ext.ReadsIdentities)
    (hsockets : ext.ReadsSockets) {first second : ForwardingMessage}
    (hsame : (first.toJson ext).render = (second.toJson ext).render) : first = second := by
  have hjson := congrArg (ForwardingMessage.fromJson ext) (Json.render_injective hsame)
  rw [ForwardingMessage.fromJson_toJson hreads hsockets,
    ForwardingMessage.fromJson_toJson hreads hsockets] at hjson
  exact Option.some.inj hjson

theorem ForwardingMessage.readable_toJson (message : ForwardingMessage) :
    Json.readable 127 (message.toJson ext) = true := by
  obtain ⟨kind, forwardingId, clientSessionId, clientPeer, route, data, packet⟩ := message
  cases packet <;>
    simp [ForwardingMessage.toJson, ForwardingMessage.fieldNames, Json.readable,
      Json.readableFields, Serde.ofNullable, ForwardedPacket.readable_toJson,
      DataPlaneEnvelope.readable_toJson]

/-! ## A message is not read as one of another kind -/

/-- A reader that the values of an object do not suffice for reads nothing. -/
theorem record_bind_eq_none {α : Type} {names : List String} {defaults : Nat}
    {fields : List (String × Json)} {read : List (Option Json) → Option α}
    (hread : read (names.map fun name => fields.lookup name) = none) :
    (Serde.record names defaults (.obj fields) >>= read) = none := by
  rw [Serde.record]
  split
  · exact hread
  · rfl

theorem HandshakeInit.fromJson_missing {fields : List (String × Json)}
    (hmissing : fields.lookup "protocol_version" = none) :
    HandshakeInit.fromJson ext (.obj fields) = none := by
  refine record_bind_eq_none ?_
  cases fields.lookup "kind" <;> simp [HandshakeInit.fieldNames, hmissing, Serde.required]

theorem HandshakeResponse.fromJson_missing {fields : List (String × Json)}
    (hmissing : fields.lookup "protocol_version" = none) :
    HandshakeResponse.fromJson ext (.obj fields) = none := by
  refine record_bind_eq_none ?_
  cases fields.lookup "kind" <;> simp [HandshakeResponse.fieldNames, hmissing, Serde.required]

theorem RelayMetadataRequest.fromJson_missing {fields : List (String × Json)}
    (hmissing : fields.lookup "protocol_version" = none) :
    RelayMetadataRequest.fromJson (.obj fields) = none := by
  refine record_bind_eq_none ?_
  cases fields.lookup "kind" <;> simp [RelayMetadataRequest.fieldNames, hmissing, Serde.required]

theorem ForwardingMessage.fromJson_missing {fields : List (String × Json)}
    (hmissing : fields.lookup "forwarding_id" = none) :
    ForwardingMessage.fromJson ext (.obj fields) = none := by
  refine record_bind_eq_none ?_
  cases fields.lookup "kind" <;> simp [ForwardingMessage.fieldNames, hmissing, Serde.required]

/-! ## Contexts -/

namespace ForwardingContext

/-- The peers of a forwarding context that can be made: two distinct hops and a client apart from
both. -/
structure Bindable (route : RouteBinding) (clientPeer entryPeer exitPeer : PeerId) : Prop where
  route : ∃ exitAddress, route = .twoHop entryPeer exitPeer exitAddress
  hops : entryPeer ≠ exitPeer
  entry : clientPeer ≠ entryPeer
  exit : clientPeer ≠ exitPeer

theorem withForwardingId_eq_ok {forwardingId clientSessionId : SessionId}
    {clientPeer entryPeer exitPeer : PeerId} {route : RouteBinding} {context : ForwardingContext} :
    withForwardingId forwardingId clientSessionId clientPeer entryPeer exitPeer route =
        .ok context ↔
      Bindable route clientPeer entryPeer exitPeer ∧
      context = ⟨forwardingId, clientSessionId, clientPeer, entryPeer, exitPeer, route, .created,
        none, none, none⟩ := by
  unfold withForwardingId
  cases route with
  | oneHop relay =>
      have hnot : ¬ Bindable (.oneHop relay) clientPeer entryPeer exitPeer :=
        fun hbindable => by obtain ⟨_, hroute⟩ := hbindable.route; cases hroute
      simp [hnot, bind, Except.bind, throw, throwThe, MonadExceptOf.throw]
  | twoHop entry exit exitAddress =>
      simp only [Check.bind_eq_ok, Check.failWhen_eq_ok, not_not, not_or, pure, Except.pure,
        Except.ok.injEq, exists_const]
      constructor
      · rintro ⟨⟨rfl, rfl, hhops⟩, ⟨hentry, hexit⟩, rfl⟩
        exact ⟨⟨⟨exitAddress, rfl⟩, hhops, hentry, hexit⟩, rfl⟩
      · rintro ⟨⟨⟨_, hroute⟩, hhops, hentry, hexit⟩, rfl⟩
        obtain ⟨rfl, rfl, rfl⟩ := RouteBinding.twoHop.inj hroute
        exact ⟨⟨rfl, rfl, hhops⟩, ⟨hentry, hexit⟩, rfl⟩

theorem transition_eq_ok {expected next : ForwardingState} {operation : String}
    {context final : ForwardingContext} {result : Unit} :
    transition expected next operation context = (.ok result, final) ↔
      context.state = expected ∧ { context with state := next } = final := by
  simp only [transition, Fallible.get_bind_run, Fallible.bind_eq_ok, Fallible.failWhen_eq_ok,
    Fallible.modify_eq_ok, not_not]
  constructor
  · rintro ⟨_, _, ⟨hstate, rfl⟩, rfl⟩
    exact ⟨hstate, rfl⟩
  · rintro ⟨hstate, rfl⟩
    exact ⟨(), context, ⟨by simpa using hstate, rfl⟩, rfl⟩

theorem bindRelaySession_eq_ok {sessionId : SessionId}
    {context final : ForwardingContext} {result : Unit} :
    bindRelaySession sessionId context = (.ok result, final) ↔
      context.state = .established ∧ { context with relaySessionId := some sessionId } = final := by
  simp only [bindRelaySession, Fallible.get_bind_run, Fallible.bind_eq_ok, Fallible.failWhen_eq_ok,
    Fallible.modify_eq_ok, not_not]
  constructor
  · rintro ⟨_, _, ⟨hstate, rfl⟩, rfl⟩
    exact ⟨hstate, rfl⟩
  · rintro ⟨hstate, rfl⟩
    exact ⟨(), context, ⟨by simpa using hstate, rfl⟩, rfl⟩

/-- A context that is bound to its relay session and has counted nothing. -/
def bound (forwardingId clientSessionId : SessionId) (clientPeer entryPeer exitPeer : PeerId)
    (route : RouteBinding) (relaySessionId : SessionId) : ForwardingContext :=
  ⟨forwardingId, clientSessionId, clientPeer, entryPeer, exitPeer, route, .established,
    some relaySessionId, none, none⟩

/-- What a relay does to a new context. -/
theorem connect_eq_ok {forwardingId clientSessionId relaySessionId : SessionId}
    {clientPeer entryPeer exitPeer : PeerId} {route : RouteBinding} {final : ForwardingContext}
    {result : Unit} :
    (do
      transitionConnecting
      transitionEstablished
      bindRelaySession relaySessionId : Fallible ForwardingContext ForwardingError Unit)
        ⟨forwardingId, clientSessionId, clientPeer, entryPeer, exitPeer, route, .created, none,
          none, none⟩ = (.ok result, final) ↔
      bound forwardingId clientSessionId clientPeer entryPeer exitPeer route relaySessionId =
        final := by
  simp only [transitionConnecting, transitionEstablished, Fallible.bind_eq_ok, transition_eq_ok,
    bindRelaySession_eq_ok]
  constructor
  · rintro ⟨_, _, ⟨_, rfl⟩, _, _, ⟨_, rfl⟩, _, rfl⟩
    rfl
  · rintro rfl
    exact ⟨(), _, ⟨trivial, rfl⟩, (), _, ⟨rfl, rfl⟩, rfl, rfl⟩

/-- What a context needs to count one more request. -/
structure CanBegin (context : ForwardingContext) (requestId : SessionId)
    (direction : ForwardingDirection) : Prop where
  state : context.state = .established ∨ context.state = .forwarding
  fresh : context.lastRequest ≠ some (requestId, direction)

/-- The context after a request was counted. -/
def begun (context : ForwardingContext) (requestId : SessionId) (direction : ForwardingDirection) :
    ForwardingContext :=
  { context with lastRequest := some (requestId, direction), state := .forwarding }

theorem beginForwarding_eq_ok {requestId : SessionId} {direction : ForwardingDirection}
    {context final : ForwardingContext} {result : Unit} :
    beginForwarding requestId direction context = (.ok result, final) ↔
      context.CanBegin requestId direction ∧ context.begun requestId direction = final := by
  simp only [beginForwarding, Fallible.get_bind_run, Fallible.bind_eq_ok, Fallible.failWhen_eq_ok,
    Fallible.modify_eq_ok, not_not]
  constructor
  · rintro ⟨_, _, ⟨_, rfl⟩, _, _, ⟨hstate, rfl⟩, _, _, ⟨hfresh, rfl⟩, rfl⟩
    exact ⟨⟨hstate, hfresh⟩, rfl⟩
  · rintro ⟨⟨hstate, hfresh⟩, rfl⟩
    refine ⟨(), context, ⟨?_, rfl⟩, (), context, ⟨hstate, rfl⟩, (), context, ⟨hfresh, rfl⟩, rfl⟩
    rcases hstate with hstate | hstate <;> simp [hstate]

/-- A sequence number above the last one. -/
def NextSequence (context : ForwardingContext) (sequence : UInt64) : Prop :=
  sequence ≠ 0 ∧ ∀ last ∈ context.lastSequence, last < sequence

theorem acceptSequence_eq_ok {sequence : UInt64}
    {context final : ForwardingContext} {result : Unit} :
    acceptSequence sequence context = (.ok result, final) ↔
      context.NextSequence sequence ∧ { context with lastSequence := some sequence } = final := by
  simp only [acceptSequence, Fallible.get_bind_run, Fallible.bind_eq_ok, Fallible.failWhen_eq_ok,
    Fallible.modify_eq_ok, NextSequence]
  have hany : ¬ (sequence = 0 ∨ context.lastSequence.any (fun last => sequence ≤ last)) ↔
      sequence ≠ 0 ∧ ∀ last ∈ context.lastSequence, last < sequence := by
    cases context.lastSequence <;> simp
  constructor
  · rintro ⟨_, _, ⟨hnext, rfl⟩, rfl⟩
    exact ⟨hany.mp hnext, rfl⟩
  · rintro ⟨hnext, rfl⟩
    exact ⟨(), context, ⟨hany.mpr hnext, rfl⟩, rfl⟩

theorem validateClient_eq_ok {context : ForwardingContext} {sessionId : SessionId} {peer : PeerId}
    {result : Unit} :
    context.validateClient sessionId peer = .ok result ↔
      sessionId = context.clientSessionId ∧ peer = context.clientPeer := by
  simp [validateClient, Check.bind_eq_ok, Check.failWhen_eq_ok]

theorem validateEntry_eq_ok {context : ForwardingContext} {peer : PeerId} {result : Unit} :
    context.validateEntry peer = .ok result ↔ peer = context.entryPeer := by
  simp [validateEntry, Check.failWhen_eq_ok]

theorem validateExit_eq_ok {context : ForwardingContext} {peer : PeerId} {result : Unit} :
    context.validateExit peer = .ok result ↔ peer = context.exitPeer := by
  simp [validateExit, Check.failWhen_eq_ok]

theorem validateRelaySession_eq_ok {context : ForwardingContext} {sessionId : SessionId}
    {result : Unit} :
    context.validateRelaySession sessionId = .ok result ↔
      context.relaySessionId = some sessionId := by
  simp [validateRelaySession, Check.failWhen_eq_ok]

/-- A packet that belongs to a context. -/
structure Carries (context : ForwardingContext) (packet : ForwardedPacket) : Prop where
  session : packet.sessionId = context.clientSessionId
  route : packet.routeId = context.forwardingId
  flow : packet.flowId = context.forwardingId
  size : packet.payload.length ≤ defaultMaximumPayloadSize
  sequence : packet.sequence ≠ 0
  port : packet.destination.port ≠ 0
  source : packet.protocol = .udp → packet.source ≠ none

theorem validatePacket_eq_ok {context : ForwardingContext} {packet : ForwardedPacket}
    {result : Unit} :
    context.validatePacket packet = .ok result ↔ context.Carries packet := by
  simp only [validatePacket, Check.bind_eq_ok, Check.failWhen_eq_ok, exists_const, not_or, not_not,
    ne_eq, not_lt, not_and]
  constructor
  · rintro ⟨⟨hsession, hroute, hflow, hsize⟩, hsequence, hport, hsource⟩
    exact ⟨hsession, hroute, hflow, hsize, hsequence, hport, hsource⟩
  · intro hcarries
    exact ⟨⟨hcarries.session, hcarries.route, hcarries.flow, hcarries.size⟩, hcarries.sequence,
      hcarries.port, hcarries.source⟩

/-- A message that belongs to a context, with its packet. -/
structure Matches (ext : Externals) (context : ForwardingContext) (message : ForwardingMessage)
    (packet : ForwardedPacket) : Prop where
  kind : message.kind = forwardingKind
  forwardingId : message.forwardingId = context.forwardingId
  clientSessionId : message.clientSessionId = context.clientSessionId
  clientPeer : ext.parsePeer message.clientPeer = some context.clientPeer
  route : message.route = context.route
  dataKind : message.data.kind = dataPlaneKind
  shown : message.packet = some packet
  carries : context.Carries packet

theorem validateMessage_eq_ok {context : ForwardingContext} {message : ForwardingMessage}
    {result : Unit} :
    context.validateMessage ext message = .ok result ↔
      ∃ packet, context.Matches ext message packet := by
  simp only [validateMessage, Check.bind_eq_ok, Check.failWhen_eq_ok, Check.orThrow_eq_ok,
    exists_const, not_or, not_not, ne_eq, validatePacket_eq_ok]
  constructor
  · rintro ⟨hkind, ⟨hforwarding, hclient, hpeer, hroute⟩, hdata, packet, hpacket, hcarries⟩
    exact ⟨packet, hkind, hforwarding, hclient, hpeer, hroute, hdata, hpacket, hcarries⟩
  · rintro ⟨packet, hmatches⟩
    exact ⟨hmatches.kind, ⟨hmatches.forwardingId, hmatches.clientSessionId, hmatches.clientPeer,
      hmatches.route⟩, hmatches.dataKind, packet, hmatches.shown, hmatches.carries⟩

end ForwardingContext

end Relay
