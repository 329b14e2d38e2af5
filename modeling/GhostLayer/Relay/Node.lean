import GhostLayer.Network.Nat
import GhostLayer.Relay.Core
import GhostLayer.Relay.ExitNetwork
import GhostLayer.Relay.Metadata

/-! # The event loop of a relay

A relay answers handshakes and metadata requests, forwards what clients send to
an exit, exchanges what an entry sends with a destination, and hands responses
back. The handlers change the tables of the loop and note what they do to the
outside. Randomness, clocks and sockets are inputs. An error leaves the loop:
the process of the relay ends with it.
-/

namespace Relay

open Foundation Network

/-! ## Configuration -/

def relayCapabilities (config : NodeConfig) : List String :=
  ["quic", "relay", "health_reporting"] ++
  (match config.routeMode with
    | .oneHop => ["one_hop"]
    | .twoHop => ["two_hop"]) ++
  (match config.relayRole with
    | .entry => ["entry_role"]
    | .exit => ["exit_role"]
    | .both => ["entry_role", "exit_role"]) ++
  (if config.externalTestDestination.isSome ∧
    config.relayRole ≠ .entry then ["tcp_exit"] else []) ++
  (if config.udpEnabled ∧ config.relayRole ≠ .entry then ["udp_exit"] else []) ++
  (if config.dnsEnabled ∧ config.relayRole ≠ .entry then ["dns_forwarding"] else []) ++
  (if config.tun.enabled then ["tun_boundary"] else [])

def loadDestinationPolicy (ext : Externals) (config : NodeConfig) :
    Except ExitNetworkError (Option DestinationPolicy) :=
  if config.externalTestDestination.isSome ∨ config.udpEnabled ∨ config.dnsEnabled then
    (DestinationPolicy.fromStrings ext config.allowedExitDestinations).map some
  else .ok none

/-- What stays the same while a relay runs. `tunWriter` is set where the relay opened a TUN device,
which only the Windows build does. -/
structure Setup (ext : Externals) where
  config : NodeConfig
  identity : Keypair
  destinationPolicy : Option DestinationPolicy
  loaded : loadDestinationPolicy ext config = .ok destinationPolicy
  tunWriter : Bool

def Setup.peerId {ext : Externals} (setup : Setup ext) : PeerId := ext.peerOf setup.identity

/-! ## State -/

/-- A response channel: the peer that asked, and which of its requests it was. -/
structure ResponseChannel where
  peer : PeerId
  index : Nat
  deriving DecidableEq

abbrev RequestId := Nat

structure PendingRelayHandshake where
  initiator : SessionInitiator
  clientSessionId : SessionId
  clientPeer : PeerId
  route : RouteBinding
  clientResponse : HandshakeResponse
  clientResponseChannel : Option ResponseChannel
  relayInit : Bytes

structure ClientForwarding where
  clientPeer : PeerId
  context : ForwardingContext
  relaySessionId : SessionId

structure PendingClientForward where
  clientSessionId : SessionId
  responseChannel : ResponseChannel

/-- A payload that was handed to an exit path. -/
structure Dispatch where
  protocol : ForwardedProtocol
  forwardingId : SessionId
  clientSessionId : SessionId
  relaySessionId : SessionId
  payload : Bytes
  deriving DecidableEq

/-- What a relay does to the outside. -/
inductive Effect where
  | respond (channel : ResponseChannel) (payload : Bytes)
  | request (requestId : RequestId) (peer : PeerId) (payload : Bytes)
  | dial (address : String)
  | dispatch (dispatch : Dispatch)
  deriving DecidableEq

structure Node where
  core : RelayCore
  state : RelayState
  sessionResponder : SessionResponder
  channels : AList (fun _ : SessionId => EncryptedChannel)
  pendingRelayHandshakes : AList (fun _ : SessionId => PendingRelayHandshake)
  clientForwarding : AList (fun _ : SessionId => ClientForwarding)
  pendingClientForwards : AList (fun _ : RequestId => PendingClientForward)
  exitForwarding : AList (fun _ : SessionId => ForwardingContext)
  activeExitRelaySession : Option SessionId
  udpNat : Option NatTable
  exitHandler : ExitPacketHandler
  /-- The addresses that sockets were connected to and queries were sent to. -/
  contacted : List SocketAddr
  effects : List Effect

/-- What the platform returns while one event is handled. -/
structure Inputs where
  /-- The ephemeral secret of an accepted handshake. -/
  secret : Bytes32
  /-- The session id and the ephemeral secret of a handshake with an exit. -/
  relaySessionId : SessionId
  relaySecret : Bytes32
  /-- The id of a new forwarding context. -/
  forwardingId : SessionId
  /-- The id that the transport gives an outbound request. -/
  requestId : RequestId
  /-- Whether the response channel still takes a response. -/
  channelOpen : Bool
  /-- Two readings of the system clock. -/
  now : Int
  stamp : Int
  /-- Readings of the monotonic clock by the translation table. -/
  natNow : Nat
  natStamp : Nat
  natReturn : Nat
  tcp : TcpSocket
  udp : UdpSocket
  dns : UdpSocket
  /-- Which entry of a table its iteration starts with. -/
  iteration : Nat

inductive RelayError where
  | message (text : String)
  | session (reason : SessionError)
  | channel (context : String) (reason : ChannelError)
  | dataPlane (context : String) (reason : DataPlaneError)
  | forwarding (context : String) (reason : ForwardingError)
  | core (context : String) (reason : RelayCoreError)
  | exitHandler (context : String) (reason : ExitPacketHandlerError)
  | exitNetwork (context : String) (reason : ExitNetworkError)
  | nat (context : String) (reason : NatError)
  | dns (context : String) (reason : DnsError)
  deriving DecidableEq

/-! ## Building blocks -/

abbrev Handler := Fallible Node RelayError

namespace Node

def emit (effect : Effect) : Handler Unit :=
  Fallible.modify (fun node => { node with effects := node.effects ++ [effect] })

def onCore {ε α : Type} (routine : Fallible RelayCore ε α) : Fallible Node ε α :=
  Fallible.zoom Node.core (fun core node => { node with core }) routine

/-- Run a routine on one entry of the channel table, which must be there. -/
def onChannel {α : Type} (sessionId : SessionId) (missing : String)
    (routine : Fallible EncryptedChannel RelayError α) : Handler α := fun node =>
  match node.channels.lookup sessionId with
  | none => (.error (.message missing), node)
  | some channel => ((routine channel).1,
      { node with channels := node.channels.insert sessionId (routine channel).2 })

/-- Run a routine on the context of a client, which must be there. -/
def onClientContext (sessionId : SessionId)
    (routine : Fallible ForwardingContext RelayError Unit) : Handler Unit := fun node =>
  match node.clientForwarding.lookup sessionId with
  | none => (.panic, node)
  | some forwarding =>
      let changed := { forwarding with context := (routine forwarding.context).2 }
      ((routine forwarding.context).1,
        { node with clientForwarding := node.clientForwarding.insert sessionId changed })

/-- Run a routine on a context of the exit, which must be there. -/
def onExitContext (forwardingId : SessionId)
    (routine : Fallible ForwardingContext RelayError Unit) : Handler Unit := fun node =>
  match node.exitForwarding.lookup forwardingId with
  | none => (.panic, node)
  | some context => ((routine context).1,
      { node with exitForwarding := node.exitForwarding.insert forwardingId (routine context).2 })

variable (ext : Externals)

def receiveOn (sessionId : SessionId) (missing openText receiveText : String)
    (envelope : DataPlaneEnvelope) : Handler DataPlaneMessage :=
  onChannel sessionId missing do
    Fallible.mapError (.dataPlane openText) (DataPlane.open defaultMaximumPayloadSize)
    Fallible.mapError (.dataPlane receiveText)
      (DataPlane.receive ext defaultMaximumPayloadSize envelope)

def sendOn (sessionId : SessionId) (missing openText sendText : String) (payload : Bytes) :
    Handler Bytes :=
  onChannel sessionId missing do
    Fallible.mapError (.dataPlane openText) (DataPlane.open defaultMaximumPayloadSize)
    Fallible.mapError (.dataPlane sendText)
      (DataPlane.send ext defaultMaximumPayloadSize payload)

def respond (inputs : Inputs) (channel : ResponseChannel) (payload : Bytes) : Handler Unit := do
  Fallible.failWhen (¬ inputs.channelOpen) (.message "send discovery response")
  emit (.respond channel payload)

/-- Count a flow against the policy; a refusal is counted too. -/
def admitFlow (flow : SessionId) (bytes : Nat) : Handler Unit := do
  match ← Fallible.attempt (onCore (RelayCore.admitFlow flow bytes)) with
  | .ok () => pure ()
  | .error reason =>
      Fallible.modify (fun node => { node with core := node.core.rejectPacket })
      Fallible.throw (.core "flow rejected by relay resource policy" reason)

/-! ## Handshakes and metadata -/

variable (setup : Setup ext) (inputs : Inputs)

/-- The relay is the entry of the route and plays that role. -/
def isEntry (peerId : PeerId) (route : RouteBinding) : Bool :=
  match route with
  | .twoHop entry _ _ => (entry = peerId ∨ entry = setup.peerId) ∧ entry = setup.peerId ∧
      setup.config.relayRole ≠ .exit
  | .oneHop _ => false

/-- Start the handshake with the exit of a route; the client is answered when it is done. -/
def startRelayHandshake (init : HandshakeInit) (peerId : PeerId) (response : HandshakeResponse)
    (channel : ResponseChannel) : Handler Unit :=
  match init.routeContext with
  | .oneHop _ => pure ()
  | .twoHop _ exit exitAddress => do
      let initiator ← Fallible.ofExcept ((SessionInitiator.new setup.identity exit
        (.oneHop exit) setup.config.protocolVersion inputs.relaySessionId
        inputs.relaySecret).mapError .session)
      let relayInit ← Fallible.ofExcept ((initiator.buildInit ext).mapError .session)
      Fallible.modify (fun node => { node with
        pendingRelayHandshakes := node.pendingRelayHandshakes.insert initiator.sessionId {
          initiator
          clientSessionId := init.sessionId
          clientPeer := peerId
          route := init.routeContext
          clientResponse := response
          clientResponseChannel := some channel
          relayInit := (relayInit.toJson ext).render } })
      emit (.dial exitAddress)

/-- A session that the policy has room for gets its channel and, unless the relay is the entry,
its response. -/
def openSession (init : HandshakeInit) (peerId : PeerId) (channel : ResponseChannel)
    (response : HandshakeResponse) (session : SecureSession) : Handler Unit := do
  match ← Fallible.attempt (onCore (RelayCore.admitSession session.sessionId)) with
  | .error _ => Fallible.modify (fun node => { node with core := node.core.countSessionError })
  | .ok () =>
      let opened ← Fallible.ofExcept ((EncryptedChannel.open session channelProtocolVersion
        4096 8).mapError (.channel "open channel"))
      Fallible.modify (fun node => { node with
        channels := node.channels.insert session.sessionId opened })
      if isEntry ext setup peerId init.routeContext then
        startRelayHandshake ext setup inputs init peerId response channel
      else
        respond inputs channel (response.toJson ext).render

def acceptHandshake (init : HandshakeInit) (peerId : PeerId) (channel : ResponseChannel) :
    Handler Unit := do
  if init.kind ≠ "secure_session_init" then return
  match ← Fallible.attempt (Fallible.zoom Node.sessionResponder
      (fun sessionResponder node => { node with sessionResponder })
      (SessionResponder.acceptInit ext init peerId setup.config.protocolVersion inputs.secret)) with
  | .error _ => pure ()
  | .ok (response, session) => openSession ext setup inputs init peerId channel response session

def thresholds : HealthThresholds :=
  ⟨setup.config.heartbeatFreshness, setup.config.degradedLatency⟩

def answerMetadata (request : RelayMetadataRequest) (channel : ResponseChannel) :
    Handler Unit := do
  if request.kind = "metadata" ∧ request.protocolVersion = setup.config.protocolVersion then
    let node ← Fallible.get
    let health := RelayHealth.evaluate node.state (thresholds ext setup) inputs.now
    let metadata := RelayMetadata.fromStateWithCapabilities node.state
      setup.config.protocolVersion health (relayCapabilities setup.config) inputs.stamp
    let json ← Fallible.orThrow (metadata.toJson ext)
      (.message "second time provided was later than self")
    respond inputs channel json.render

/-! ## The entry side -/

/-- The message that carries a client's payload to the exit. -/
def outboundMessage (forwarding : ClientForwarding) (frame : Bytes) (packet : ForwardedPacket) :
    ForwardingMessage where
  kind := forwardingKind
  forwardingId := forwarding.context.forwardingId
  clientSessionId := forwarding.context.clientSessionId
  clientPeer := ext.peerText forwarding.clientPeer
  route := forwarding.context.route
  data := ⟨dataPlaneKind, forwarding.relaySessionId, frame⟩
  packet := some packet

/-- Send a message to the exit and remember whom to answer. -/
def requestExit (forwarding : ClientForwarding) (message : ForwardingMessage)
    (clientSessionId : SessionId) (channel : ResponseChannel) : Handler Unit := do
  emit (.request inputs.requestId forwarding.context.exitPeer (message.toJson ext).render)
  Fallible.modify (fun node => { node with
    pendingClientForwards := node.pendingClientForwards.insert inputs.requestId
      ⟨clientSessionId, channel⟩ })

/-- A client sends a payload together with the packet it belongs to. -/
def forwardPacket (forwarded : ForwardingMessage) (peerId : PeerId) (channel : ResponseChannel) :
    Handler Unit := do
  let sessionId := forwarded.data.sessionId
  let node ← Fallible.get
  let forwarding ← Fallible.orPanic (node.clientForwarding.lookup sessionId)
  Fallible.ofExcept ((forwarding.context.validateClient sessionId peerId).mapError
    (.forwarding "validate client protocol request"))
  Fallible.failWhen (forwarded.route ≠ forwarding.context.route ∨
      forwarded.clientPeer ≠ ext.peerText forwarding.clientPeer)
    (.message "invalid client protocol forwarding binding")
  let packet ← Fallible.orThrow forwarded.packet (.message "client protocol metadata is missing")
  Fallible.failWhen (packet.sessionId ≠ forwarding.context.clientSessionId ∨
      packet.flowId ≠ forwarding.context.clientSessionId ∨
      packet.routeId ≠ forwarding.context.clientSessionId)
    (.message "invalid client protocol packet binding")
  let incoming ← receiveOn ext sessionId "missing client channel" "open client data plane"
    "decrypt client protocol data" forwarded.data
  Fallible.failWhen (packet.payload ≠ incoming.payload)
    (.message "client protocol payload does not match encrypted payload")
  admitFlow forwarded.forwardingId incoming.payload.length
  onClientContext sessionId (Fallible.mapError (.forwarding "begin client protocol forwarding")
    (ForwardingContext.beginForwarding forwarding.context.forwardingId .clientToExit))
  let frame ← sendOn ext forwarding.relaySessionId "missing relay channel"
    "open relay data plane" "encrypt relay data" incoming.payload
  requestExit ext inputs forwarding (outboundMessage ext forwarding frame { packet with
    flowId := forwarding.context.forwardingId
    sessionId := forwarding.context.clientSessionId
    routeId := forwarding.context.forwardingId }) sessionId channel

/-- A client sends a bare payload; it goes to the first allowed destination. -/
def forwardEnvelope (envelope : DataPlaneEnvelope) (peerId : PeerId) (channel : ResponseChannel) :
    Handler Unit := do
  let incoming ← receiveOn ext envelope.sessionId "missing client channel"
    "open client data plane" "decrypt client data" envelope
  let node ← Fallible.get
  let forwarding ← Fallible.orThrow (node.clientForwarding.lookup envelope.sessionId)
    (.message "client forwarding state missing")
  if forwarding.clientPeer ≠ peerId then return
  onClientContext envelope.sessionId (Fallible.mapError (.forwarding "begin client forwarding")
    (ForwardingContext.beginForwarding forwarding.context.forwardingId .clientToExit))
  let frame ← sendOn ext forwarding.relaySessionId "missing relay channel"
    "open relay data plane" "encrypt relay data" incoming.payload
  let first ← Fallible.orThrow setup.config.allowedExitDestinations.head?
    (.message "no allowed exit destination configured")
  let destination ← Fallible.orThrow (ext.parseSocket first)
    (.message "invalid configured forwarding destination")
  requestExit ext inputs forwarding (outboundMessage ext forwarding frame {
    protocol := .tcp
    source := none
    destination
    flowId := forwarding.context.forwardingId
    sessionId := forwarding.context.clientSessionId
    routeId := forwarding.context.forwardingId
    sequence := 1
    payload := incoming.payload }) envelope.sessionId channel

/-- Data on a session that is not forwarded is acknowledged. -/
def acknowledge (envelope : DataPlaneEnvelope) (channel : ResponseChannel) : Handler Unit := do
  let opened ← onChannel envelope.sessionId "" (do
    Fallible.mapError (.dataPlane "open data plane") (DataPlane.open defaultMaximumPayloadSize)
    match ← Fallible.attempt (DataPlane.receive ext defaultMaximumPayloadSize envelope) with
    | .error _ => return none
    | .ok message =>
        let frame ← Fallible.mapError (.dataPlane "send data-plane acknowledgement")
          (DataPlane.send ext defaultMaximumPayloadSize (Bytes.ofText "ack: " ++ message.payload))
        return some frame)
  match opened with
  | none => pure ()
  | some frame =>
      respond inputs channel
        (DataPlaneEnvelope.mk dataPlaneKind envelope.sessionId frame).toJson.render

/-! ## The exit side -/

/-- The entry and the exit that a message names; without an entry the client takes its place. -/
def routeEnds (clientPeer : PeerId) : RouteBinding → PeerId × PeerId
  | .twoHop entry exit _ => (entry, exit)
  | .oneHop relay => (clientPeer, relay)

/-- The first message under a forwarding id makes its context. -/
def openExitContext (forwarded : ForwardingMessage) (clientPeer : PeerId) : Handler Unit := do
  let node ← Fallible.get
  if (node.exitForwarding.lookup forwarded.forwardingId).isSome then return
  let (entry, exit) := routeEnds clientPeer forwarded.route
  let context ← Fallible.ofExcept ((ForwardingContext.withForwardingId forwarded.forwardingId
    forwarded.clientSessionId clientPeer entry exit forwarded.route).mapError (.forwarding ""))
  let ((), context) ← Fallible.locally context (Fallible.mapError (.forwarding "") (do
    ForwardingContext.transitionConnecting
    ForwardingContext.transitionEstablished
    ForwardingContext.bindRelaySession forwarded.data.sessionId))
  Fallible.modify (fun node => { node with
    exitForwarding := node.exitForwarding.insert forwarded.forwardingId context })

/-- A message is held against its context, which then counts it. -/
def admitForwarded (forwarded : ForwardingMessage) (peerId : PeerId) : Handler ForwardedPacket := do
  onExitContext forwarded.forwardingId (do
    let context ← Fallible.get
    Fallible.ofExcept ((context.validateMessage ext forwarded).mapError
      (.forwarding "validate forwarding message"))
    Fallible.ofExcept ((context.validateEntry peerId).mapError
      (.forwarding "validate entry peer")))
  Fallible.modify (fun node => { node with
    activeExitRelaySession := some forwarded.data.sessionId })
  onExitContext forwarded.forwardingId (do
    let context ← Fallible.get
    Fallible.ofExcept ((context.validateRelaySession forwarded.data.sessionId).mapError
      (.forwarding "validate relay session")))
  let packet ← Fallible.orPanic forwarded.packet
  onExitContext forwarded.forwardingId (do
    Fallible.mapError (.forwarding "validate forwarding sequence")
      (ForwardingContext.acceptSequence packet.sequence)
    Fallible.mapError (.forwarding "begin exit forwarding")
      (ForwardingContext.beginForwarding forwarded.forwardingId .clientToExit))
  return packet

/-- The payload of a message, if it is the one that its packet shows. -/
def openForwarded (forwarded : ForwardingMessage) (packet : ForwardedPacket) : Handler Bytes := do
  let incoming ← receiveOn ext forwarded.data.sessionId "unknown exit relay session"
    "open exit data plane" "decrypt exit data" forwarded.data
  Fallible.failWhen (packet.payload ≠ incoming.payload)
    (.message "forwarded packet payload does not match encrypted payload")
  admitFlow forwarded.forwardingId incoming.payload.length
  return incoming.payload

def dispatchOf (forwarded : ForwardingMessage) (packet : ForwardedPacket) (payload : Bytes) :
    Effect :=
  .dispatch ⟨packet.protocol, forwarded.forwardingId, forwarded.clientSessionId,
    forwarded.data.sessionId, payload⟩

def bindingOf (forwarded : ForwardingMessage) (peerId : PeerId) : ExitForwardingBinding :=
  ⟨forwarded.data.sessionId, peerId, setup.peerId⟩

def validatePayload (forwarded : ForwardingMessage) (peerId : PeerId) (payload : Bytes)
    (context : String) : Handler ForwardingContext := do
  let node ← Fallible.get
  let bound ← Fallible.orPanic (node.exitForwarding.lookup forwarded.forwardingId)
  Fallible.zoom Node.exitHandler (fun exitHandler node => { node with exitHandler })
    (Fallible.mapError (.exitHandler context) (ExitPacketHandler.validateBoundPayload
      forwarded.forwardingId payload bound (bindingOf ext setup forwarded peerId)))
  return bound

def onNat {α : Type} (context : String) (routine : Fallible NatTable NatError α) : Handler α :=
  fun node =>
    match node.udpNat with
    | none => (.error (.message "UDP NAT is disabled"), node)
    | some table => ((Fallible.mapError (.nat context) routine table).1,
        { node with udpNat := some (routine table).2 })

def flowKeyOf (forwarded : ForwardingMessage) (packet : ForwardedPacket) (source : SocketAddr)
    (context : ForwardingContext) : FlowKey where
  flowId := forwarded.forwardingId
  source
  destination := packet.destination
  sessionId := packet.sessionId
  sourceIdentity := context.clientPeer
  entryPeer := context.entryPeer
  exitPeer := context.exitPeer
  protocol := 17

/-- Run a routine on sockets. -/
def onSockets {ε α : Type} (convert : ε → RelayError)
    (routine : Fallible (List SocketAddr) ε α) : Handler α :=
  Fallible.zoom Node.contacted (fun contacted node => { node with contacted })
    (Fallible.mapError convert routine)

/-- Three seconds. -/
def exchangeTimeout : Nat := 3 * 10 ^ 9

def exchangeUdp (forwarded : ForwardingMessage) (peerId : PeerId) (packet : ForwardedPacket)
    (payload : Bytes) : Handler Bytes := do
  Fallible.failWhen (¬ setup.config.udpEnabled) (.message "UDP runtime is disabled")
  let context ← validatePayload ext setup forwarded peerId payload "validate UDP payload"
  let source ← Fallible.orPanic packet.source
  let flow := flowKeyOf forwarded packet source context
  let mapping ← onNat "create UDP NAT mapping" (NatTable.create inputs.natNow inputs.natStamp flow)
  let policy ← Fallible.orThrow setup.destinationPolicy
    (.message "UDP destination policy is not configured")
  let adapter ← onSockets (.exitNetwork "connect UDP exit adapter") (UdpExitNetworkAdapter.connect
    ext (ext.socketText packet.destination) policy setup.config.tun.maximumPacketSize
    exchangeTimeout inputs.udp)
  emit (dispatchOf forwarded packet payload)
  let response ← Fallible.ofExcept ((adapter.exchange payload).mapError
    (.exitNetwork "UDP exchange"))
  let _ ← Fallible.locally adapter (Fallible.mapError (.exitNetwork "close UDP adapter")
    UdpExitNetworkAdapter.close)
  let _ ← onNat "lookup UDP NAT return mapping"
    (NatTable.lookupReverse inputs.natReturn mapping.translated flow)
  return response

def exchangeDns (forwarded : ForwardingMessage) (peerId : PeerId) (packet : ForwardedPacket)
    (payload : Bytes) : Handler Bytes := do
  Fallible.failWhen (¬ setup.config.dnsEnabled) (.message "DNS runtime is disabled")
  let configured ← Fallible.orThrow setup.config.dnsServer
    (.message "DNS server is not configured")
  let server ← Fallible.orThrow (ext.parseSocket configured) (.message "invalid DNS server")
  Fallible.failWhen (packet.destination ≠ server)
    (.message "DNS destination does not match configured DNS server")
  let _ ← validatePayload ext setup forwarded peerId payload "validate DNS payload"
  let resolver ← Fallible.ofExcept ((UdpDnsResolver.new server
    ⟨setup.config.tun.maximumPacketSize, setup.config.tun.maximumPacketSize,
      setup.config.dnsTimeout⟩ true).mapError (.dns "open DNS resolver"))
  emit (dispatchOf forwarded packet payload)
  onSockets (.dns "DNS exchange") (resolver.resolvePacket inputs.dns payload)

/-- The handler of the exit drives the adapter, which tells what it was handed. -/
def driveAdapter (forwarded : ForwardingMessage) (peerId : PeerId) (packet : ForwardedPacket)
    (payload : Bytes) (adapter : TcpExitNetworkAdapter) :
    Handler (Bytes × TcpExitNetworkAdapter) := fun node =>
  match node.exitForwarding.lookup forwarded.forwardingId with
  | none => (.panic, node)
  | some context =>
      let run := ExitPacketHandler.handleBoundWithAdapterPayload forwarded.forwardingId payload
        context (bindingOf ext setup forwarded peerId) (node.exitHandler, adapter)
      let node := { node with
        exitHandler := run.2.1
        effects := node.effects ++ run.2.2.handed.map (dispatchOf forwarded packet) }
      match run.1 with
      | .ok response => (.ok (response, run.2.2), node)
      | .error reason => (.error (.exitHandler "handle exit payload" reason), node)
      | .panic => (.panic, node)

def exchangeTcp (forwarded : ForwardingMessage) (peerId : PeerId) (packet : ForwardedPacket)
    (payload : Bytes) : Handler Bytes := do
  let destination ← Fallible.orThrow setup.config.externalTestDestination
    (.message "external exit destination is not configured")
  let configured ← Fallible.orThrow (ext.parseSocket destination)
    (.message "invalid configured forwarding destination")
  Fallible.failWhen (packet.destination ≠ configured)
    (.message "TCP destination does not match configured exit destination")
  let policy ← Fallible.orThrow setup.destinationPolicy
    (.message "TCP destination policy is not configured")
  let adapter ← onSockets (.exitNetwork "connect exit adapter") (TcpExitNetworkAdapter.connect ext
    destination policy ⟨setup.config.tun.maximumPacketSize, setup.config.tun.maximumPacketSize,
      exchangeTimeout, exchangeTimeout, exchangeTimeout⟩ inputs.tcp)
  let (response, adapter) ← driveAdapter ext setup forwarded peerId packet payload adapter
  let _ ← Fallible.locally adapter (Fallible.mapError (.exitNetwork "close exit adapter")
    TcpExitNetworkAdapter.close)
  return response

/-- A raw packet goes to the TUN device, where there is one, and gets no response. -/
def writeTun (forwarded : ForwardingMessage) (packet : ForwardedPacket) (payload : Bytes) :
    Handler Unit :=
  match setup.tunWriter, NetworkPacket.new payload setup.config.tun.maximumPacketSize
      setup.config.tun.mtu with
  | true, .ok _ => emit (dispatchOf forwarded packet payload)
  | _, _ => pure ()

/-- The response to a payload, if its protocol has one. -/
def exchange (forwarded : ForwardingMessage) (peerId : PeerId) (packet : ForwardedPacket)
    (payload : Bytes) : Handler (Option Bytes) :=
  match packet.protocol with
  | .udp => do return some (← exchangeUdp ext setup inputs forwarded peerId packet payload)
  | .dns => do return some (← exchangeDns ext setup inputs forwarded peerId packet payload)
  | .tcp => do return some (← exchangeTcp ext setup inputs forwarded peerId packet payload)
  | .ip => do
      writeTun ext setup forwarded packet payload
      return none

def answerForwarded (forwarded : ForwardingMessage) (channel : ResponseChannel)
    (response : Bytes) : Handler Unit := do
  let frame ← sendOn ext forwarded.data.sessionId "exit relay session missing for response"
    "open exit response data plane" "encrypt exit response" response
  respond inputs channel ({ forwarded with
    kind := forwardingKind
    data := ⟨dataPlaneKind, forwarded.data.sessionId, frame⟩ }.toJson ext).render

def exitForwarded (forwarded : ForwardingMessage) (peerId clientPeer : PeerId)
    (channel : ResponseChannel) : Handler Unit := do
  openExitContext forwarded clientPeer
  let packet ← admitForwarded ext forwarded peerId
  let payload ← openForwarded ext forwarded packet
  match ← exchange ext setup inputs forwarded peerId packet payload with
  | none => pure ()
  | some response => answerForwarded ext inputs forwarded channel response

/-! ## Requests -/

/-- A message of a client that this relay is the entry for. -/
def isClientProtocolRequest (forwarded : ForwardingMessage) (node : Node) : Bool :=
  match forwarded.route with
  | .twoHop entry _ _ => entry = setup.peerId ∧
      (node.clientForwarding.lookup forwarded.data.sessionId).isSome
  | .oneHop _ => false

/-- The relay is where the route ends. -/
def isExitOf (route : RouteBinding) : Bool :=
  match route with
  | .twoHop _ exit _ => exit = setup.peerId
  | .oneHop relay => relay = setup.peerId

def handleForwarding (forwarded : ForwardingMessage) (peerId : PeerId)
    (channel : ResponseChannel) : Handler Unit := do
  if forwarded.kind ≠ forwardingKind then return
  let node ← Fallible.get
  if isClientProtocolRequest ext setup forwarded node then
    forwardPacket ext inputs forwarded peerId channel
  else if setup.config.relayRole = .entry then return
  else if ¬ isExitOf ext setup forwarded.route then return
  else
    match ext.parsePeer forwarded.clientPeer with
    | none => return
    | some clientPeer => exitForwarded ext setup inputs forwarded peerId clientPeer channel

def handleEnvelope (envelope : DataPlaneEnvelope) (peerId : PeerId) (channel : ResponseChannel) :
    Handler Unit := do
  if envelope.kind ≠ dataPlaneKind then return
  let node ← Fallible.get
  if (node.clientForwarding.lookup envelope.sessionId).isSome then
    forwardEnvelope ext setup inputs envelope peerId channel
  else if (node.channels.lookup envelope.sessionId).isSome then
    acknowledge ext inputs envelope channel
  else return

/-- The decoders are tried one after the other on the bytes of a request. -/
def handleRequest (payload : Bytes) (peerId : PeerId) (channel : ResponseChannel) : Handler Unit :=
  match ext.fromSlice (HandshakeInit.fromJson ext) payload with
  | some init => acceptHandshake ext setup inputs init peerId channel
  | none =>
      match ext.fromSlice RelayMetadataRequest.fromJson payload with
      | some request => answerMetadata ext setup inputs request channel
      | none =>
          match ext.fromSlice (ForwardingMessage.fromJson ext) payload with
          | some forwarded => handleForwarding ext setup inputs forwarded peerId channel
          | none =>
              match ext.fromSlice DataPlaneEnvelope.fromJson payload with
              | some envelope => handleEnvelope ext setup inputs envelope peerId channel
              | none => pure ()

end Node

end Relay
