import GhostLayer.Relay.NodeLaws

/-! # What the entry side of a relay does

When the handlers for handshakes, metadata, data of clients and responses of an
exit come back to the loop, and what they then leave behind.
-/

namespace Relay

open Foundation Network

variable {ext : Externals}

namespace Node

variable {node final : Node} {result : Unit} {setup : Setup ext} {inputs : Inputs}

/-! ## Handshakes -/

/-- The channel that a relay opens over a new session. -/
def freshChannel (session : SecureSession) : EncryptedChannel :=
  ⟨session, .established, channelProtocolVersion, 4096, 8, [], 0, 0⟩

/-- The loop after a session was opened. -/
def admitted (node : Node) (responder : SessionResponder) (session : SecureSession) : Node :=
  { node with
    sessionResponder := responder
    core := node.core.withSession session.sessionId
    channels := node.channels.insert session.sessionId (freshChannel session) }

/-- The loop after a session was refused. -/
def refused (node : Node) (responder : SessionResponder) : Node :=
  { node with
    sessionResponder := responder
    core := node.core.countSessionError }

/-- The initiator of the handshake of an entry with an exit. -/
def relayInitiator (setup : Setup ext) (inputs : Inputs) (exit : PeerId) : SessionInitiator :=
  ⟨setup.identity, exit, .oneHop exit, setup.config.protocolVersion, inputs.relaySessionId,
    inputs.relaySecret, .negotiating⟩

/-- The loop after the handshake with an exit was started. -/
def awaiting (setup : Setup ext) (inputs : Inputs) (node : Node) (init : HandshakeInit)
    (peerId : PeerId) (response : HandshakeResponse) (channel : ResponseChannel) (exit : PeerId)
    (exitAddress : String) : Node :=
  let initiator := relayInitiator setup inputs exit
  let pending : PendingRelayHandshake := {
    initiator
    clientSessionId := init.sessionId
    clientPeer := peerId
    route := init.routeContext
    clientResponse := response
    clientResponseChannel := some channel
    relayInit := ((initiator.initOf ext).toJson ext).render }
  { node with
    pendingRelayHandshakes := node.pendingRelayHandshakes.insert inputs.relaySessionId pending
    effects := node.effects ++ [.dial exitAddress] }

theorem startRelayHandshake_eq_ok {init : HandshakeInit} {peerId entry exit : PeerId}
    {response : HandshakeResponse} {channel : ResponseChannel} {exitAddress : String}
    (hroute : init.routeContext = .twoHop entry exit exitAddress) :
    startRelayHandshake ext setup inputs init peerId response channel node = (.ok result, final) ↔
      awaiting setup inputs node init peerId response channel exit exitAddress = final := by
  have hnew : SessionInitiator.new setup.identity exit (.oneHop exit) setup.config.protocolVersion
      inputs.relaySessionId inputs.relaySecret = .ok (relayInitiator setup inputs exit) :=
    SessionInitiator.new_eq_ok.mpr ⟨trivial, List.mem_singleton_self _, rfl⟩
  have hbuild : (relayInitiator setup inputs exit).buildInit ext =
      .ok ((relayInitiator setup inputs exit).initOf ext) :=
    SessionInitiator.buildInit_eq_ok.mpr ⟨rfl, rfl⟩
  simp only [startRelayHandshake, hroute, hnew, hbuild, Except.mapError, Fallible.ofExcept_ok,
    Fallible.pure_bind_run, Fallible.modify_bind_run, emit, Fallible.modify_eq_ok]
  simp only [awaiting, hroute, relayInitiator]

/-- A session is counted and answered, or only counted where there is no room. -/
theorem openSession_eq_ok {init : HandshakeInit} {peerId : PeerId} {channel : ResponseChannel}
    {response : HandshakeResponse} {session : SecureSession}
    (hestablished : session.state = .established) {responder : SessionResponder} :
    openSession ext setup inputs init peerId channel response session
        { node with sessionResponder := responder } = (.ok result, final) ↔
      ¬ node.core.TakesSession ∧ node.refused responder = final ∨
      node.core.TakesSession ∧
        ((∃ entry exit exitAddress, init.routeContext = .twoHop entry exit exitAddress ∧
            isEntry ext setup peerId init.routeContext = true ∧
            awaiting setup inputs (node.admitted responder session) init peerId response channel
              exit exitAddress = final) ∨
          isEntry ext setup peerId init.routeContext = false ∧ inputs.channelOpen = true ∧
            (node.admitted responder session).withEffect
              (.respond channel (response.toJson ext).render) = final) := by
  unfold openSession
  rw [Fallible.bind_run]
  by_cases htakes : node.core.TakesSession
  · have hadmit := (RelayCore.admitSession_run session.sessionId node.core).1 htakes
    have hopen : EncryptedChannel.open session channelProtocolVersion 4096 8 =
        .ok (freshChannel session) :=
      EncryptedChannel.open_eq_ok.mpr ⟨⟨hestablished, by decide, by decide⟩, rfl⟩
    simp only [Fallible.attempt, onCore, Fallible.zoom, hadmit, hopen, Except.mapError,
      Fallible.ofExcept_ok, Fallible.pure_bind_run, Fallible.modify_bind_run, htakes,
      not_true_eq_false, false_and, false_or, true_and]
    cases hentry : isEntry ext setup peerId init.routeContext with
    | true =>
        cases hroute : init.routeContext with
        | oneHop relay => simp [isEntry, hroute] at hentry
        | twoHop entry exit exitAddress =>
            rw [if_pos rfl, startRelayHandshake_eq_ok hroute]
            constructor
            · rintro rfl
              exact .inl ⟨entry, exit, exitAddress, rfl, rfl, rfl⟩
            · rintro (⟨_, _, _, hsame, _, rfl⟩ | ⟨hfalse, _⟩)
              · obtain ⟨rfl, rfl, rfl⟩ := RouteBinding.twoHop.inj hsame
                rfl
              · cases hfalse
    | false =>
        rw [if_neg Bool.false_ne_true, respond_eq_ok]
        simp only [Bool.false_eq_true, and_false, false_and, exists_false, true_and, false_or]
        rfl
  · obtain ⟨reason, hadmit⟩ := (RelayCore.admitSession_run session.sessionId node.core).2 htakes
    simp only [Fallible.attempt, onCore, Fallible.zoom, hadmit, Fallible.modify_eq_ok, htakes,
      not_false_eq_true, true_and, false_and, or_false]
    rfl

/-- A handshake that is not accepted is not answered. -/
theorem acceptHandshake_eq_ok {init : HandshakeInit} {peerId : PeerId}
    {channel : ResponseChannel} (hkind : init.kind = "secure_session_init") :
    acceptHandshake ext setup inputs init peerId channel node = (.ok result, final) ↔
      (∃ reason responder, SessionResponder.acceptInit ext init peerId setup.config.protocolVersion
          inputs.secret node.sessionResponder = (.error reason, responder) ∧
        { node with sessionResponder := responder } = final) ∨
      ∃ response session responder, SessionResponder.acceptInit ext init peerId
          setup.config.protocolVersion inputs.secret node.sessionResponder =
            (.ok (response, session), responder) ∧
        openSession ext setup inputs init peerId channel response session
          { node with sessionResponder := responder } = (.ok result, final) := by
  unfold acceptHandshake
  rw [if_neg (not_not.mpr hkind), Fallible.bind_run]
  rcases haccept : SessionResponder.acceptInit ext init peerId setup.config.protocolVersion
    inputs.secret node.sessionResponder with ⟨⟨response, session⟩ | reason | _, responder⟩ <;>
    simp [Fallible.attempt, Fallible.zoom, haccept]

theorem acceptInit_established {init : HandshakeInit} {transportPeer : PeerId}
    {protocolVersion : String} {secret : Bytes32} {responder next : SessionResponder}
    {response : HandshakeResponse} {session : SecureSession}
    (haccept : SessionResponder.acceptInit ext init transportPeer protocolVersion secret responder =
      (.ok (response, session), next)) : session.state = .established := by
  obtain ⟨_, _, _, _, _, rfl, _⟩ := SessionResponder.acceptInit_eq_ok.mp haccept
  rfl

/-! ## Metadata -/

/-- The answer to a metadata request. -/
def metadataOf (setup : Setup ext) (inputs : Inputs) (node : Node) : RelayMetadata :=
  RelayMetadata.fromStateWithCapabilities node.state setup.config.protocolVersion
    (RelayHealth.evaluate node.state (thresholds ext setup) inputs.now)
    (relayCapabilities setup.config) inputs.stamp

theorem answerMetadata_eq_ok {request : RelayMetadataRequest} {channel : ResponseChannel}
    (hrequest : request.kind = "metadata" ∧
      request.protocolVersion = setup.config.protocolVersion) :
    answerMetadata ext setup inputs request channel node = (.ok result, final) ↔
      ∃ json, (metadataOf setup inputs node).toJson ext = some json ∧ inputs.channelOpen = true ∧
        node.withEffect (.respond channel json.render) = final := by
  simp only [answerMetadata, if_pos hrequest, Fallible.get_bind_run, Fallible.bind_eq_ok,
    Fallible.orThrow_eq_ok, respond_eq_ok]
  constructor
  · rintro ⟨json, _, ⟨hjson, rfl⟩, hopen, rfl⟩
    exact ⟨json, hjson, hopen, rfl⟩
  · rintro ⟨json, hjson, hopen, rfl⟩
    exact ⟨json, node, ⟨hjson, rfl⟩, hopen, rfl⟩

/-! ## Data of clients -/

/-- What the message of a client must show to be forwarded with its packet. -/
structure BoundPacket (ext : Externals) (forwarding : ClientForwarding)
    (forwarded : ForwardingMessage) (peerId : PeerId) (packet : ForwardedPacket) : Prop where
  session : forwarded.data.sessionId = forwarding.context.clientSessionId
  peer : peerId = forwarding.context.clientPeer
  route : forwarded.route = forwarding.context.route
  clientPeer : forwarded.clientPeer = ext.peerText forwarding.clientPeer
  shown : forwarded.packet = some packet
  packetSession : packet.sessionId = forwarding.context.clientSessionId
  flow : packet.flowId = forwarding.context.clientSessionId
  routeId : packet.routeId = forwarding.context.clientSessionId

/-- The packet of a client under the ids of its context. -/
def rebound (context : ForwardingContext) (packet : ForwardedPacket) : ForwardedPacket :=
  { packet with
    flowId := context.forwardingId
    sessionId := context.clientSessionId
    routeId := context.forwardingId }

/-- The packet that a bare payload gets. -/
def barePacket (context : ForwardingContext) (destination : SocketAddr) (payload : Bytes) :
    ForwardedPacket where
  protocol := .tcp
  source := none
  destination
  flowId := context.forwardingId
  sessionId := context.clientSessionId
  routeId := context.forwardingId
  sequence := 1
  payload

/-- The loop after a payload of a client went to the exit. -/
def relayed (ext : Externals) (inputs : Inputs) (node : Node) (sessionId : SessionId)
    (forwarding : ClientForwarding) (sealed : EncryptedChannel) (message : ForwardingMessage)
    (channel : ResponseChannel) : Node :=
  let begun := forwarding.context.begun forwarding.context.forwardingId .clientToExit
  let changed := { forwarding with context := begun }
  let request := Effect.request inputs.requestId forwarding.context.exitPeer
    (message.toJson ext).render
  { node with
    channels := node.channels.insert forwarding.relaySessionId sealed
    clientForwarding := node.clientForwarding.insert sessionId changed
    pendingClientForwards := node.pendingClientForwards.insert inputs.requestId ⟨sessionId, channel⟩
    effects := node.effects ++ [request] }

theorem forwardPacket_eq_ok {forwarded : ForwardingMessage} {peerId : PeerId}
    {channel : ResponseChannel} :
    forwardPacket ext inputs forwarded peerId channel node = (.ok result, final) ↔
      ∃ forwarding packet message opened frame sealed,
        node.clientForwarding.lookup forwarded.data.sessionId = some forwarding ∧
        BoundPacket ext forwarding forwarded peerId packet ∧
        node.Opens ext forwarded.data message opened ∧
        packet.payload = message.payload ∧
        node.core.HasRoom forwarded.forwardingId ∧
        forwarding.context.CanBegin forwarding.context.forwardingId .clientToExit ∧
        (node.withChannel forwarded.data.sessionId opened).Seals ext forwarding.relaySessionId
          message.payload frame sealed ∧
        relayed ext inputs { node.withChannel forwarded.data.sessionId opened with
            core := node.core.withFlow forwarded.forwardingId message.payload.length }
          forwarded.data.sessionId forwarding sealed
          (outboundMessage ext forwarding frame (rebound forwarding.context packet)) channel =
            final := by
  simp only [forwardPacket, Fallible.get_bind_run, Fallible.bind_eq_ok, Fallible.orPanic_eq_ok,
    Fallible.ofExcept_eq_ok, Check.mapError_eq_ok, Fallible.failWhen_eq_ok, Fallible.orThrow_eq_ok,
    ForwardingContext.validateClient_eq_ok, receiveOn_eq_ok, sendOn_eq_ok, admitFlow_eq_ok,
    onClientContext_eq_ok, Fallible.mapError_eq_ok, ForwardingContext.beginForwarding_eq_ok,
    requestExit, emit, Fallible.modify_eq_ok, not_or, not_not, ne_eq]
  constructor
  · rintro ⟨forwarding, _, ⟨hforwarding, rfl⟩, _, _, ⟨⟨hsession, hpeer⟩, rfl⟩, _, _,
      ⟨⟨hroute, hclient⟩, rfl⟩, packet, _, ⟨hpacket, rfl⟩, _, _, ⟨⟨hps, hpf, hpr⟩, rfl⟩, message, _,
      ⟨opened, hopens, rfl⟩, _, _, ⟨hpayload, rfl⟩, _, _, ⟨hroom, rfl⟩, _, _,
      ⟨_, _, hsame, ⟨hbegin, rfl⟩, rfl⟩, frame, _, ⟨sealed, hseals, rfl⟩, _, _, rfl, rfl⟩
    obtain rfl := Option.some.inj (hforwarding.symm.trans hsame)
    exact ⟨forwarding, packet, message, opened, frame, sealed, hforwarding,
      ⟨hsession, hpeer, hroute, hclient, hpacket, hps, hpf, hpr⟩, hopens, hpayload, hroom, hbegin,
      hseals, rfl⟩
  · rintro ⟨forwarding, packet, message, opened, frame, sealed, hforwarding, hbound, hopens,
      hpayload, hroom, hbegin, hseals, rfl⟩
    exact ⟨forwarding, node, ⟨hforwarding, rfl⟩, (), node, ⟨⟨hbound.session, hbound.peer⟩, rfl⟩,
      (), node, ⟨⟨hbound.route, hbound.clientPeer⟩, rfl⟩, packet, node, ⟨hbound.shown, rfl⟩,
      (), node, ⟨⟨hbound.packetSession, hbound.flow, hbound.routeId⟩, rfl⟩, message, _,
      ⟨opened, hopens, rfl⟩, (), _, ⟨hpayload, rfl⟩, (), _, ⟨hroom, rfl⟩, (), _,
      ⟨forwarding, _, hforwarding, ⟨hbegin, rfl⟩, rfl⟩, frame, _, ⟨sealed, hseals, rfl⟩, (), _,
      rfl, rfl⟩

/-- A bare payload is dropped where its sender is not the client of the session. -/
theorem forwardEnvelope_eq_ok {envelope : DataPlaneEnvelope} {peerId : PeerId}
    {channel : ResponseChannel} :
    forwardEnvelope ext setup inputs envelope peerId channel node = (.ok result, final) ↔
      ∃ message opened forwarding, node.Opens ext envelope message opened ∧
        node.clientForwarding.lookup envelope.sessionId = some forwarding ∧
        (forwarding.clientPeer ≠ peerId ∧ node.withChannel envelope.sessionId opened = final ∨
          forwarding.clientPeer = peerId ∧ ∃ frame sealed first destination,
            forwarding.context.CanBegin forwarding.context.forwardingId .clientToExit ∧
            (node.withChannel envelope.sessionId opened).Seals ext forwarding.relaySessionId
              message.payload frame sealed ∧
            setup.config.allowedExitDestinations.head? = some first ∧
            ext.parseSocket first = some destination ∧
            relayed ext inputs (node.withChannel envelope.sessionId opened) envelope.sessionId
              forwarding sealed (outboundMessage ext forwarding frame
                (barePacket forwarding.context destination message.payload)) channel = final) := by
  simp only [forwardEnvelope, Fallible.get_bind_run, Fallible.bind_eq_ok, receiveOn_eq_ok,
    Fallible.orThrow_eq_ok]
  constructor
  · rintro ⟨message, _, ⟨opened, hopens, rfl⟩, forwarding, _, ⟨hforwarding, rfl⟩, hrest⟩
    refine ⟨message, opened, forwarding, hopens, hforwarding, ?_⟩
    by_cases hpeer : forwarding.clientPeer = peerId
    · simp only [hpeer, ne_eq, not_true_eq_false, ↓reduceIte, Fallible.bind_eq_ok,
        onClientContext_eq_ok, Fallible.mapError_eq_ok, ForwardingContext.beginForwarding_eq_ok,
        sendOn_eq_ok, Fallible.orThrow_eq_ok, requestExit, emit, Fallible.modify_eq_ok] at hrest
      obtain ⟨_, _, ⟨_, _, hsame, ⟨hbegin, rfl⟩, rfl⟩, frame, _, ⟨sealed, hseals, rfl⟩, first, _,
        ⟨hfirst, rfl⟩, destination, _, ⟨hdestination, rfl⟩, _, _, rfl, rfl⟩ := hrest
      obtain rfl := Option.some.inj (hforwarding.symm.trans hsame)
      exact .inr ⟨hpeer, frame, sealed, first, destination, hbegin, hseals, hfirst, hdestination,
        rfl⟩
    · rw [if_pos hpeer] at hrest
      exact .inl ⟨hpeer, (Fallible.pure_eq_ok.mp hrest).2⟩
  · rintro ⟨message, opened, forwarding, hopens, hforwarding, hrest⟩
    refine ⟨message, _, ⟨opened, hopens, rfl⟩, forwarding, _, ⟨hforwarding, rfl⟩, ?_⟩
    rcases hrest with ⟨hpeer, rfl⟩ | ⟨hpeer, frame, sealed, first, destination, hbegin, hseals,
      hfirst, hdestination, rfl⟩
    · rw [if_pos hpeer]
      rfl
    · simp only [hpeer, ne_eq, not_true_eq_false, ↓reduceIte, Fallible.bind_eq_ok,
        onClientContext_eq_ok, Fallible.mapError_eq_ok, ForwardingContext.beginForwarding_eq_ok,
        sendOn_eq_ok, Fallible.orThrow_eq_ok, requestExit, emit, Fallible.modify_eq_ok]
      exact ⟨(), _, ⟨forwarding, _, hforwarding, ⟨hbegin, rfl⟩, rfl⟩, frame, _,
        ⟨sealed, hseals, rfl⟩, first, _, ⟨hfirst, rfl⟩, destination, _, ⟨hdestination, rfl⟩, (), _,
        rfl, rfl⟩

def acknowledgement (message : DataPlaneMessage) : Bytes := Bytes.ofText "ack: " ++ message.payload

/-- A frame that is not accepted gets no acknowledgement. -/
theorem acknowledge_eq_ok {envelope : DataPlaneEnvelope} {channel : ResponseChannel} :
    acknowledge ext inputs envelope channel node = (.ok result, final) ↔
      ∃ current, node.channels.lookup envelope.sessionId = some current ∧
        current.state = .established ∧
        ((∃ reason next,
            DataPlane.receive ext defaultMaximumPayloadSize envelope current =
              (.error reason, next) ∧ node.withChannel envelope.sessionId next = final) ∨
          ∃ message opened frame sealed,
            DataPlane.receive ext defaultMaximumPayloadSize envelope current =
              (.ok message, opened) ∧
            DataPlane.send ext defaultMaximumPayloadSize (acknowledgement message) opened =
              (.ok frame, sealed) ∧
            inputs.channelOpen = true ∧
            (node.withChannel envelope.sessionId sealed).withEffect (.respond channel
              (DataPlaneEnvelope.mk dataPlaneKind envelope.sessionId frame).toJson.render) =
                final) := by
  simp only [acknowledge, Fallible.bind_eq_ok, onChannel_eq_ok, Fallible.mapError_eq_ok,
    DataPlane.open_eq_ok, Fallible.attempt_eq_ok]
  constructor
  · rintro ⟨answer, _, ⟨current, next, hcurrent, ⟨_, _, ⟨⟨hstate, _⟩, rfl⟩, hattempt⟩, rfl⟩, hrest⟩
    refine ⟨current, hcurrent, hstate, ?_⟩
    rcases hattempt with ⟨reason | message, opened, hreceive, hpure⟩
    swap
    · simp only [Fallible.bind_eq_ok, Fallible.mapError_eq_ok] at hpure
      obtain ⟨frame, sealed, hsend, hpure⟩ := hpure
      obtain ⟨rfl, rfl⟩ := Fallible.pure_eq_ok.mp hpure
      obtain ⟨hopen, rfl⟩ := respond_eq_ok.mp hrest
      exact .inr ⟨message, opened, frame, sealed, hreceive, hsend, hopen, rfl⟩
    · obtain ⟨rfl, rfl⟩ := Fallible.pure_eq_ok.mp hpure
      exact .inl ⟨reason, _, hreceive, (Fallible.pure_eq_ok.mp hrest).2⟩
  · rintro ⟨current, hcurrent, hstate, ⟨reason, next, hreceive, rfl⟩ |
      ⟨message, opened, frame, sealed, hreceive, hsend, hopen, rfl⟩⟩
    · exact ⟨none, _, ⟨current, next, hcurrent, ⟨(), current, ⟨⟨hstate, by decide⟩, rfl⟩,
        .error reason, next, hreceive, rfl⟩, rfl⟩, rfl⟩
    · refine ⟨some frame, _, ⟨current, sealed, hcurrent, ⟨(), current, ⟨⟨hstate, by decide⟩, rfl⟩,
        .ok message, opened, hreceive, ?_⟩, rfl⟩, respond_eq_ok.mpr ⟨hopen, rfl⟩⟩
      simp only [Fallible.bind_eq_ok, Fallible.mapError_eq_ok]
      exact ⟨frame, sealed, hsend, rfl⟩

/-! ## Responses of an exit -/

/-- The loop after the handshake with the exit of a client was completed. -/
def established (node : Node) (inputs : Inputs) (pending : PendingRelayHandshake)
    (session : SecureSession) (entry exit : PeerId) : Node :=
  let context := ForwardingContext.bound inputs.forwardingId pending.clientSessionId
    pending.clientPeer entry exit pending.route session.sessionId
  let forwarding := ClientForwarding.mk pending.clientPeer context session.sessionId
  { node with
    channels := node.channels.insert session.sessionId (freshChannel session)
    clientForwarding := node.clientForwarding.insert pending.clientSessionId forwarding }

/-- What the client is sent when its handshake is done. -/
def handshakeAnswer (ext : Externals) (pending : PendingRelayHandshake) : List Effect :=
  (pending.clientResponseChannel.map (fun channel =>
    Effect.respond channel (pending.clientResponse.toJson ext).render)).toList

/-- A client can be forwarded, and answered if it waits for that. -/
structure Establishes (ext : Externals) (inputs : Inputs) (pending : PendingRelayHandshake)
    (response : HandshakeResponse) (session : SecureSession) (entry exit : PeerId) : Prop where
  completes : pending.initiator.complete ext response = .ok session
  binds : ForwardingContext.Bindable pending.route pending.clientPeer entry exit
  open' : pending.clientResponseChannel.isSome → inputs.channelOpen = true

theorem establishForwarding_eq_ok {pending : PendingRelayHandshake} {response : HandshakeResponse} :
    establishForwarding ext inputs pending response node = (.ok result, final) ↔
      ∃ session entry exit, Establishes ext inputs pending response session entry exit ∧
        { node.established inputs pending session entry exit with
          effects := node.effects ++ handshakeAnswer ext pending } = final := by
  simp only [establishForwarding, Fallible.bind_eq_ok, Fallible.ofExcept_eq_ok,
    Check.mapError_eq_ok, Fallible.modify_eq_ok, EncryptedChannel.open_eq_ok]
  cases hroute : pending.route with
  | oneHop relay =>
      constructor
      · rintro ⟨_, _, _, _, _, _, _, _, _, hpanic⟩
        cases hpanic
      · rintro ⟨_, _, _, hestablishes, _⟩
        obtain ⟨_, htwo⟩ := hestablishes.binds.route
        cases hroute.symm.trans htwo
  | twoHop entry exit exitAddress =>
      simp only [Fallible.bind_eq_ok, Fallible.ofExcept_eq_ok, Check.mapError_eq_ok,
        ForwardingContext.new, ForwardingContext.withForwardingId_eq_ok, Fallible.modify_eq_ok]
      constructor
      · rintro ⟨session, _, ⟨hcomplete, rfl⟩, _, _, ⟨⟨_, rfl⟩, rfl⟩, _, _, rfl, _, _,
          ⟨⟨hbinds, rfl⟩, rfl⟩, ⟨_, context⟩, _, hbind, _, _, rfl, hrest⟩
        obtain ⟨hcontext, rfl⟩ := Fallible.locally_eq_ok.mp hbind
        obtain rfl := ForwardingContext.connect_eq_ok.mp (Fallible.mapError_eq_ok.mp hcontext)
        rw [← hroute] at hbinds
        cases hchannel : pending.clientResponseChannel with
        | none =>
            simp only [hchannel] at hrest
            obtain ⟨_, rfl⟩ := Fallible.pure_eq_ok.mp hrest
            refine ⟨session, entry, exit, ⟨hcomplete, hbinds, by simp [hchannel]⟩, ?_⟩
            simp [handshakeAnswer, hchannel, established, freshChannel, hroute]
        | some channel =>
            simp only [hchannel] at hrest
            obtain ⟨hopen, rfl⟩ := respond_eq_ok.mp hrest
            refine ⟨session, entry, exit, ⟨hcomplete, hbinds, fun _ => hopen⟩, ?_⟩
            simp [handshakeAnswer, hchannel, established, freshChannel, hroute, withEffect]
      · rintro ⟨session, _, _, hestablishes, rfl⟩
        obtain ⟨_, htwo⟩ := hestablishes.binds.route
        obtain ⟨rfl, rfl, rfl⟩ := RouteBinding.twoHop.inj (hroute.symm.trans htwo)
        have hstate : session.state = .established := by
          obtain ⟨_, _, _, rfl⟩ := SessionInitiator.complete_eq_ok.mp hestablishes.completes
          rfl
        refine ⟨session, node, ⟨hestablishes.completes, rfl⟩, freshChannel session, node,
          ⟨⟨⟨hstate, by decide, by decide⟩, rfl⟩, rfl⟩, (), _, rfl, _, _,
          ⟨⟨hroute ▸ hestablishes.binds, rfl⟩, rfl⟩, ((), _), _, Fallible.locally_eq_ok.mpr
            ⟨Fallible.mapError_eq_ok.mpr (ForwardingContext.connect_eq_ok.mpr rfl), rfl⟩,
              (), _, rfl, ?_⟩
        cases hchannel : pending.clientResponseChannel with
        | none => simp [handshakeAnswer, hchannel, established, hroute]
        | some channel =>
            refine respond_eq_ok.mpr ⟨hestablishes.open' (by simp [hchannel]), ?_⟩
            simp [handshakeAnswer, hchannel, established, hroute, withEffect]

/-- The loop after the payload of an exit was handed to a client. -/
def returned (ext : Externals) (node : Node) (pending : PendingClientForward)
    (forwarding : ClientForwarding) (response : ForwardingMessage) (opened : EncryptedChannel)
    (frame : Bytes) (sealed : EncryptedChannel) : Node :=
  let begun := forwarding.context.begun response.forwardingId .exitToClient
  let changed := { forwarding with context := begun }
  let message := inboundMessage ext response pending.clientSessionId forwarding.clientPeer frame
  { node with
    clientForwarding := node.clientForwarding.insert pending.clientSessionId changed
    channels := (node.channels.insert response.data.sessionId opened).insert pending.clientSessionId
      sealed
    effects := node.effects ++ [.respond pending.responseChannel (message.toJson ext).render] }

theorem returnToClient_ok {pending : PendingClientForward} {peerId : PeerId} {payload : Bytes}
    (hrun : returnToClient ext inputs pending peerId payload node = (.ok result, final)) :
    ∃ response forwarding packet message opened frame sealed,
      ext.fromSlice (ForwardingMessage.fromJson ext) payload = some response ∧
      node.clientForwarding.lookup pending.clientSessionId = some forwarding ∧
      forwarding.context.Matches ext response packet ∧
      peerId = forwarding.context.exitPeer ∧
      forwarding.context.relaySessionId = some response.data.sessionId ∧
      forwarding.context.CanBegin response.forwardingId .exitToClient ∧
      node.Opens ext response.data message opened ∧
      (node.withChannel response.data.sessionId opened).Seals ext pending.clientSessionId
        message.payload frame sealed ∧
      returned ext node pending forwarding response opened frame sealed = final := by
  simp only [returnToClient, Fallible.get_bind_run, Fallible.bind_eq_ok, Fallible.orThrow_eq_ok,
    Fallible.ofExcept_eq_ok, Check.mapError_eq_ok, ForwardingContext.validateMessage_eq_ok,
    ForwardingContext.validateExit_eq_ok, ForwardingContext.validateRelaySession_eq_ok,
    onClientContext_eq_ok, Fallible.mapError_eq_ok, ForwardingContext.beginForwarding_eq_ok,
    receiveOn_eq_ok, sendOn_eq_ok, respond_eq_ok] at hrun
  obtain ⟨response, _, ⟨hresponse, rfl⟩, forwarding, _, ⟨hforwarding, rfl⟩, _, _,
    ⟨⟨packet, hmatches⟩, rfl⟩, _, _, ⟨hpeer, rfl⟩, _, _, ⟨hsession, rfl⟩, _, _,
    ⟨_, _, hsame, ⟨hbegin, rfl⟩, rfl⟩, message, _, ⟨opened, hopens, rfl⟩, frame, _,
    ⟨sealed, hseals, rfl⟩, _, rfl⟩ := hrun
  obtain rfl := Option.some.inj (hforwarding.symm.trans hsame)
  exact ⟨response, forwarding, packet, message, opened, frame, sealed, hresponse, hforwarding,
    hmatches, hpeer, hsession, hbegin, hopens, hseals, rfl⟩

end Node

end Relay
