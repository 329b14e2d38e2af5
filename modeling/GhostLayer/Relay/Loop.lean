import GhostLayer.Relay.Node

/-! # Responses, other events and runs

What a relay does with the responses to its own requests and with every other
event of its loop, how it starts, and the runs it can take.
-/

namespace Relay

open Foundation Network

namespace Node

variable (ext : Externals) (setup : Setup ext) (inputs : Inputs)

/-! ## Responses -/

/-- The exit answered a handshake: the client can be forwarded from now on and is answered. -/
def establishForwarding (pending : PendingRelayHandshake) (response : HandshakeResponse) :
    Handler Unit := do
  let session ← Fallible.ofExcept ((pending.initiator.complete ext response).mapError .session)
  let opened ← Fallible.ofExcept ((EncryptedChannel.open session channelProtocolVersion
    4096 8).mapError (.channel "open relay channel"))
  Fallible.modify (fun node => { node with
    channels := node.channels.insert session.sessionId opened })
  match pending.route with
  | .oneHop _ => Fallible.panic
  | .twoHop entry exit _ =>
      let context ← Fallible.ofExcept ((ForwardingContext.new inputs.forwardingId
        pending.clientSessionId pending.clientPeer entry exit pending.route).mapError
        (.forwarding ""))
      let ((), context) ← Fallible.locally context (Fallible.mapError (.forwarding "") (do
        ForwardingContext.transitionConnecting
        ForwardingContext.transitionEstablished
        ForwardingContext.bindRelaySession session.sessionId))
      Fallible.modify (fun node => { node with
        clientForwarding := node.clientForwarding.insert pending.clientSessionId
          ⟨pending.clientPeer, context, session.sessionId⟩ })
      match pending.clientResponseChannel with
      | none => pure ()
      | some channel => respond inputs channel (pending.clientResponse.toJson ext).render

def completeRelayHandshake (response : HandshakeResponse) (peerId : PeerId) : Handler Unit := do
  let node ← Fallible.get
  match node.pendingRelayHandshakes.lookup response.sessionId with
  | none => pure ()
  | some pending =>
      Fallible.modify (fun node => { node with
        pendingRelayHandshakes := node.pendingRelayHandshakes.erase response.sessionId })
      let expected ← Fallible.orPanic pending.route.peers.getLast?
      if peerId ≠ expected then return
      establishForwarding ext inputs pending response

/-- The message that carries the response of an exit to a client. -/
def inboundMessage (response : ForwardingMessage) (clientSessionId : SessionId)
    (clientPeer : PeerId) (frame : Bytes) : ForwardingMessage where
  kind := forwardingKind
  forwardingId := response.forwardingId
  clientSessionId
  clientPeer := ext.peerText clientPeer
  route := response.route
  data := ⟨dataPlaneKind, clientSessionId, frame⟩
  packet := response.packet

/-- The exit answered what was forwarded for a client. -/
def returnToClient (pending : PendingClientForward) (peerId : PeerId) (payload : Bytes) :
    Handler Unit := do
  let response ← Fallible.orThrow (ext.fromSlice (ForwardingMessage.fromJson ext) payload)
    (.message "decode exit forwarding response")
  let node ← Fallible.get
  let forwarding ← Fallible.orThrow (node.clientForwarding.lookup pending.clientSessionId)
    (.message "missing client forwarding context")
  Fallible.ofExcept ((forwarding.context.validateMessage ext response).mapError
    (.forwarding "validate exit response"))
  Fallible.ofExcept ((forwarding.context.validateExit peerId).mapError
    (.forwarding "validate exit response peer"))
  Fallible.ofExcept ((forwarding.context.validateRelaySession response.data.sessionId).mapError
    (.forwarding "validate exit response session"))
  onClientContext pending.clientSessionId (Fallible.mapError (.forwarding "begin return forwarding")
    (ForwardingContext.beginForwarding response.forwardingId .exitToClient))
  let incoming ← receiveOn ext response.data.sessionId "missing entry relay channel"
    "open entry response data plane" "decrypt exit response" response.data
  let frame ← sendOn ext pending.clientSessionId "missing client channel"
    "open client response data plane" "encrypt client response" incoming.payload
  respond inputs pending.responseChannel
    ((inboundMessage ext response pending.clientSessionId forwarding.clientPeer frame).toJson
      ext).render

def handleResponse (payload : Bytes) (peerId : PeerId) (requestId : RequestId) : Handler Unit :=
  match ext.fromSlice (HandshakeResponse.fromJson ext) payload with
  | some response => completeRelayHandshake ext inputs response peerId
  | none => do
      let node ← Fallible.get
      match node.pendingClientForwards.lookup requestId with
      | none => pure ()
      | some pending =>
          Fallible.modify (fun node => { node with
            pendingClientForwards := node.pendingClientForwards.erase requestId })
          returnToClient ext inputs pending peerId payload

/-! ## Other events -/

/-- A pending handshake that waits for a peer, in the order of the table's iteration. -/
def waitingFor (peerId : PeerId) (node : Node) : Option PendingRelayHandshake :=
  ((node.pendingRelayHandshakes.entries.rotate inputs.iteration).map Sigma.snd).find?
    (fun pending => match pending.route with
      | .twoHop _ exit _ => exit = peerId
      | .oneHop _ => false)

/-- Count a peer against the policy; a refusal is counted too. -/
def notePeer (peerId : PeerId) : Handler Unit := do
  match ← Fallible.attempt (onCore (RelayCore.admitPeer peerId)) with
  | .ok () => pure ()
  | .error _ => Fallible.modify (fun node => { node with core := node.core.rejectPacket })

def peerConnected (peerId : PeerId) : Handler Unit := do
  notePeer peerId
  let node ← Fallible.get
  match waitingFor inputs peerId node with
  | none => pure ()
  | some pending => emit (.request inputs.requestId peerId pending.relayInit)

/-- A relay that listens is ready. -/
def listening : Handler Unit := do
  let node ← Fallible.get
  if node.core.lifecycle ≠ .starting then return
  onCore (Fallible.mapError (.core "relay lifecycle") (RelayCore.transition .discovering))
  onCore (Fallible.mapError (.core "relay lifecycle") (RelayCore.transition .ready))

def handleEvent (event : NetworkEvent ResponseChannel RequestId) : Handler Unit := do
  Fallible.modify (fun node => { node with state := node.state.applyNetworkEvent event inputs.now })
  match event with
  | .listening _ => listening
  | .peerConnected peerId => peerConnected inputs peerId
  | .peerDisconnected peerId =>
      Fallible.modify (fun node => { node with core := node.core.removePeer peerId })
  | .discoveryRequest peerId payload channel =>
      handleRequest ext setup inputs payload peerId channel
  | .discoveryResponse peerId requestId payload =>
      handleResponse ext inputs payload peerId requestId
  | .peerIdentified .. | .pingResult .. | .networkError .. => pure ()

/-- Any IPv4 address and no port. -/
def unspecifiedSocket : SocketAddr := .v4 (Vector.replicate 4 0) 0

/-- A packet from the TUN device goes back to the entry of some context, over the relay session
that was active last. -/
def handleTun (payload : Bytes) : Handler Unit := do
  let node ← Fallible.get
  match (node.exitForwarding.entries.rotate inputs.iteration).head?.map Sigma.snd,
      node.activeExitRelaySession with
  | some forwarding, some relaySessionId =>
      match ← Fallible.attempt (sendOn ext relaySessionId "" "" "" payload) with
      | .error _ => pure ()
      | .ok frame =>
          let response : ForwardingMessage := {
            kind := forwardingKind
            forwardingId := forwarding.forwardingId
            clientSessionId := forwarding.clientSessionId
            clientPeer := ext.peerText forwarding.clientPeer
            route := forwarding.route
            data := ⟨dataPlaneKind, relaySessionId, frame⟩
            packet := some {
              protocol := .ip
              source := none
              destination := unspecifiedSocket
              flowId := forwarding.forwardingId
              sessionId := forwarding.clientSessionId
              routeId := forwarding.forwardingId
              sequence := 1
              payload } }
          emit (.request inputs.requestId forwarding.entryPeer (response.toJson ext).render)
  | _, _ => pure ()

def heartbeat : Handler Unit :=
  Fallible.modify (fun node =>
    let health := RelayHealth.evaluate node.state (thresholds ext setup) inputs.now
    let status := match health.class' with
      | .healthy => RelayStatus.online
      | .degraded => .degraded
      | .unhealthy => .offline
    { node with
      udpNat := node.udpNat.map (NatTable.cleanup inputs.natNow)
      state := { node.state.setStatus status with lastHeartbeat := some inputs.now } })

/-! ## Runs -/

inductive LoopEvent where
  | network (event : NetworkEvent ResponseChannel RequestId)
  | tun (payload : Bytes)
  | heartbeat

def handle (event : LoopEvent) : Handler Unit :=
  match event with
  | .network event => handleEvent ext setup inputs event
  | .tun payload => handleTun ext inputs payload
  | .heartbeat => heartbeat ext setup inputs

/-- The address that translated flows get. -/
def localhost : IpAddr := .v4 (Ipv4Addr.new 127 0 0 1)

/-- A relay that has just started. -/
structure Started (node : Node) : Prop where
  core : node.core = RelayCore.new setup.config.resourceLimits
  state : node.state = RelayState.new setup.peerId setup.config.advertisedAddress
    setup.config.softwareVersion
  sessionResponder : node.sessionResponder = SessionResponder.new setup.identity
  channels : node.channels = ∅
  pendingRelayHandshakes : node.pendingRelayHandshakes = ∅
  clientForwarding : node.clientForwarding = ∅
  pendingClientForwards : node.pendingClientForwards = ∅
  exitForwarding : node.exitForwarding = ∅
  activeExitRelaySession : node.activeExitRelaySession = none
  udpNat : if setup.config.natEnabled then
      ∃ table, NatTable.new localhost 1024 (30 * 10 ^ 9) = .ok table ∧ node.udpNat = some table
    else node.udpNat = none
  exitHandler : ExitPacketHandler.open setup.config.tun.maximumPacketSize setup.config.tun.mtu
    setup.config.tun.writeBufferLimit = .ok node.exitHandler
  contacted : node.contacted = []
  effects : node.effects = []

end Node

end Relay
