import GhostLayer.Foundation.Transition
import GhostLayer.Relay.Routing

/-! # The tunnel loop of a client

A client asks the relays it meets for their metadata, starts a handshake over
the route it selects among them, and carries the packets of its TUN device over
the session that comes of it. Failures are logged and the loop goes on; it ends
only in a panic. Randomness and clocks are inputs.
-/

namespace Client

open Foundation Network Relay

/-! ## Packets of the TUN device -/

/-- The byte at an index that the packet has. -/
def byteAt (packet : Bytes) (index : Nat) : UInt8 := packet.getD index 0

def portAt (packet : Bytes) (index : Nat) : UInt16 :=
  UInt16.ofNat ((byteAt packet index).toNat * 256 + (byteAt packet (index + 1)).toNat)

/-- Where the header of an IPv4 packet has its destination. -/
def destinationIp (packet : Bytes) : Vector UInt8 4 :=
  ⟨#[byteAt packet 16, byteAt packet 17, byteAt packet 18, byteAt packet 19], rfl⟩

/-- The server, the source port and the bytes of a DNS query. -/
def extractDnsPayload (packet : Bytes) : Option (SocketAddr × UInt16 × Bytes) :=
  if packet.length < 28 then none
  else if byteAt packet 0 >>> 4 ≠ 4 then none
  else if byteAt packet 9 ≠ 17 then none
  else
    let headerLength := (byteAt packet 0 &&& 15).toNat * 4
    if packet.length < headerLength + 8 then none
    else
      let sourcePort := portAt packet headerLength
      let destinationPort := portAt packet (headerLength + 2)
      if destinationPort ≠ 53 then none
      else some (.v4 (destinationIp packet) 53, sourcePort, packet.drop (headerLength + 8))

/-- Add the carries back in until the sum has 16 bits. -/
def foldCarries (sum : Nat) : Nat :=
  if sum / 2 ^ 16 ≠ 0 then foldCarries (sum % 2 ^ 16 + sum / 2 ^ 16) else sum
termination_by sum
decreasing_by omega

def sumWords : Bytes → Nat
  | high :: low :: rest => high.toNat * 256 + low.toNat + sumWords rest
  | [high] => high.toNat * 256
  | [] => 0

def ipv4Checksum (header : Bytes) : UInt16 := ~~~ UInt16.ofNat (foldCarries (sumWords header))

/-- The two bytes of a number, of which higher ones are cut off. -/
def twoBytes (value : Nat) : Bytes := [UInt8.ofNat (value / 256), UInt8.ofNat value]

/-- An IPv4 packet with a UDP datagram around the bytes of a DNS response. -/
def buildDnsResponsePacket (dnsResponse : Bytes) (sourceIp destinationIp : Vector UInt8 4)
    (sourcePort destinationPort : UInt16) : Bytes :=
  let udpLength := 8 + dnsResponse.length
  let totalLength := 20 + udpLength
  let beforeChecksum := [0x45, 0x00] ++ twoBytes totalLength ++ [0x00, 0x00, 0x40, 0x00, 64, 17]
  let afterChecksum := sourceIp.toList ++ destinationIp.toList
  let checksum := ipv4Checksum (beforeChecksum ++ [0, 0] ++ afterChecksum)
  beforeChecksum ++ twoBytes checksum.toNat ++ afterChecksum ++ twoBytes sourcePort.toNat ++
    twoBytes destinationPort.toNat ++ twoBytes udpLength ++ [0x00, 0x00] ++ dnsResponse

/-! ## Configuration and state -/

/-- What stays the same while a client runs. `tunWriter` is set where packets can be handed to a
TUN device. -/
structure Setup where
  identity : Keypair
  protocolVersion : String
  discoveryRequiredTransport : String
  discoveryRequiredCapabilities : List String
  heartbeatFreshness : Nat
  routeMode : RouteMode
  tunWriter : Bool
  parseMultiaddr : String → Option Multiaddr

def Setup.requirements (setup : Setup) : CandidateRequirements where
  protocolVersion := setup.protocolVersion
  requiredTransport := setup.discoveryRequiredTransport
  requiredCapabilities := setup.discoveryRequiredCapabilities
  heartbeatFreshness := setup.heartbeatFreshness

def Setup.routePolicy (setup : Setup) : RouteSelectionPolicy where
  mode := setup.routeMode
  requiredTransport := setup.discoveryRequiredTransport
  requiredCapabilities := setup.discoveryRequiredCapabilities

/-- What a client does to the outside. -/
inductive Effect where
  | request (peer : PeerId) (payload : Bytes)
  | tun (packet : Bytes)
  deriving DecidableEq

structure Engine where
  candidates : List RelayCandidate
  pendingSession : Option SessionInitiator
  activeChannel : Option EncryptedChannel
  activeRoute : Option RouteBinding
  exitPeer : Option PeerId
  currentSessionId : Option SessionId
  effects : List Effect

/-- What the platform returns while one event is handled. -/
structure Inputs where
  /-- The session id and the ephemeral secret of a new handshake. -/
  sessionId : SessionId
  secret : Bytes32
  /-- Readings of the system clock: for the check of a report, for the ranking and for the
  selection. -/
  checkedAt : Int
  rankedAt : Int
  selectedAt : Int

/-- No error leaves the loop. -/
abbrev Handler := Fallible Engine Empty

namespace Engine

def emit (effect : Effect) : Handler Unit :=
  Fallible.modify fun engine => { engine with effects := engine.effects ++ [effect] }

/-- Run a routine on the active channel. A failure is dropped. -/
def onChannel {α : Type} (channel : EncryptedChannel)
    (routine : Fallible EncryptedChannel DataPlaneError α) : Handler (Option α) := fun engine =>
  match routine channel with
  | (.ok value, next) => (.ok (some value), { engine with activeChannel := some next })
  | (.error _, next) => (.ok none, { engine with activeChannel := some next })
  | (.panic, next) => (.panic, { engine with activeChannel := some next })

variable (ext : Externals) (setup : Setup) (inputs : Inputs)

def sendOn (channel : EncryptedChannel) (payload : Bytes) : Handler (Option Bytes) :=
  onChannel channel do
    DataPlane.open defaultMaximumPayloadSize
    DataPlane.send ext defaultMaximumPayloadSize payload

def receiveOn (channel : EncryptedChannel) (envelope : DataPlaneEnvelope) :
    Handler (Option DataPlaneMessage) :=
  onChannel channel do
    DataPlane.open defaultMaximumPayloadSize
    DataPlane.receive ext defaultMaximumPayloadSize envelope

/-! ## The TUN device -/

/-- The address that the client has in the tunnel. -/
def tunnelIp : Vector UInt8 4 := ⟨#[10, 8, 0, 1], rfl⟩

/-- The message that carries a payload over a session. -/
def forwardingMessage (route : RouteBinding) (sessionId : SessionId) (frame : Bytes)
    (protocol : ForwardedProtocol) (sourcePort : UInt16) (destination : SocketAddr)
    (payload : Bytes) : ForwardingMessage where
  kind := forwardingKind
  forwardingId := sessionId
  clientSessionId := sessionId
  clientPeer := ext.peerText (ext.peerOf setup.identity)
  route
  data := ⟨dataPlaneKind, sessionId, frame⟩
  packet := some {
    protocol
    source := some (.v4 tunnelIp sourcePort)
    destination
    flowId := sessionId
    sessionId
    routeId := sessionId
    sequence := 1
    payload }

/-- Seal a payload and send the message that carries it. -/
def forward (channel : EncryptedChannel) (route : RouteBinding) (exit : PeerId)
    (sessionId : SessionId) (protocol : ForwardedProtocol) (sourcePort : UInt16)
    (destination : SocketAddr) (payload : Bytes) : Handler Unit := do
  match ← sendOn ext channel payload with
  | none => pure ()
  | some frame =>
      emit (.request exit ((forwardingMessage ext setup route sessionId frame protocol sourcePort
        destination payload).toJson ext).render)

/-- A packet from the TUN device. One that is no DNS query goes as it is; its destination is read
where an IPv4 packet has it. -/
def handleTun (packet : Bytes) : Handler Unit := do
  let engine ← Fallible.get
  match engine.activeChannel, engine.activeRoute, engine.exitPeer with
  | some channel, some route, some exit =>
      let sessionId ← Fallible.orPanic engine.currentSessionId
      match extractDnsPayload packet with
      | some (destination, sourcePort, payload) =>
          forward ext setup channel route exit sessionId .dns sourcePort destination payload
      | none =>
          if 20 ≤ packet.length then
            forward ext setup channel route exit sessionId .ip 0
              (.v4 (destinationIp packet) 0) packet
  | _, _, _ => pure ()

/-! ## Network events -/

/-- The peer that packets are sent to. -/
def exitOf : RouteBinding → PeerId
  | .twoHop _ exit _ => exit
  | .oneHop relay => relay

def completeSession (response : HandshakeResponse) : Handler Unit := do
  if response.kind = "secure_session_response" then
    let engine ← Fallible.get
    match engine.pendingSession with
    | none => pure ()
    | some initiator =>
        Fallible.modify fun engine => { engine with pendingSession := none }
        match initiator.complete ext response with
        | .error _ => pure ()
        | .ok session =>
            Fallible.modify fun engine => { engine with
              currentSessionId := some session.sessionId
              exitPeer := some (exitOf session.route)
              activeRoute := some session.route }
            match EncryptedChannel.open session channelProtocolVersion 4096 8 with
            | .error _ => pure ()
            | .ok channel => Fallible.modify fun engine => { engine with
                activeChannel := some channel }

/-- The packet that goes to the TUN device for a message. -/
def tunPacket (message : ForwardingMessage) (payload : Bytes) : Bytes :=
  match message.packet with
  | some packet =>
      if packet.protocol = .dns then
        let destinationPort := (packet.source.map SocketAddr.port).getD 12345
        let server := match packet.destination.ip with
          | .v4 octets => octets
          | .v6 _ => ⟨#[8, 8, 8, 8], rfl⟩
        buildDnsResponsePacket payload server tunnelIp 53 destinationPort
      else payload
  | none => payload

def deliver (message : ForwardingMessage) : Handler Unit := do
  if message.kind = forwardingKind then
    let engine ← Fallible.get
    match engine.activeChannel with
    | none => pure ()
    | some channel =>
        match ← receiveOn ext channel message.data with
        | none => pure ()
        | some received =>
            if setup.tunWriter then
              emit (.tun (tunPacket message received.payload))

/-- The first relay of a route and the binding of the session to the route. -/
def bindingOf : Route → PeerId × RouteBinding
  | .oneHop relay => (relay.peerId, .oneHop relay.peerId)
  | .twoHop entry exit => (entry.peerId, .twoHop entry.peerId exit.peerId exit.address.text)

def startSession (route : Route) : Handler Unit := do
  let engine ← Fallible.get
  if engine.pendingSession.isNone then
    let (firstPeer, binding) := bindingOf route
    match SessionInitiator.new setup.identity firstPeer binding setup.protocolVersion
        inputs.sessionId inputs.secret with
    | .error _ => pure ()
    | .ok initiator =>
        match initiator.buildInit ext with
        | .error _ => pure ()
        | .ok init =>
            emit (.request firstPeer (init.toJson ext).render)
            Fallible.modify fun engine => { engine with pendingSession := some initiator }

def considerRelay (metadata : RelayMetadata) : Handler Unit := do
  match RelayCandidate.fromMetadata setup.parseMultiaddr metadata setup.requirements
      inputs.checkedAt with
  | .error _ => pure ()
  | .ok candidate =>
      Fallible.modify fun engine => { engine with candidates := engine.candidates ++ [candidate] }
      let engine ← Fallible.get
      let ranked := RelayRanking.rank ext engine.candidates inputs.rankedAt
      match RouteSelector.select ext (ext.peerOf setup.identity) ranked setup.routePolicy
          inputs.selectedAt with
      | .error _ => pure ()
      | .ok route => startSession ext setup inputs route

/-- The decoders are tried one after the other. -/
def handleResponse (payload : Bytes) : Handler Unit :=
  match ext.fromSlice (HandshakeResponse.fromJson ext) payload with
  | some response => completeSession ext response
  | none =>
      match ext.fromSlice (ForwardingMessage.fromJson ext) payload with
      | some message => deliver ext setup message
      | none =>
          match RelayMetadata.fromSlice ext payload with
          | .ok metadata => considerRelay ext setup inputs metadata
          | .error () => pure ()
          | .panic => Fallible.panic

/-- Whether the active session ends with a connection. -/
def endsWith (peerId : PeerId) (engine : Engine) : Bool :=
  some peerId = engine.exitPeer ∨ engine.activeRoute.any fun route => match route with
    | .oneHop relay => relay = peerId
    | .twoHop entry _ _ => entry = peerId

def peerDisconnected (peerId : PeerId) : Handler Unit :=
  Fallible.modify fun engine =>
    if engine.endsWith peerId then
      { engine with
        activeChannel := none
        activeRoute := none
        currentSessionId := none
        exitPeer := none }
    else engine

def handleEvent (event : NetworkEvent ResponseChannel RequestId) : Handler Unit :=
  match event with
  | .peerConnected peerId =>
      emit (.request peerId
        (RelayMetadataRequest.toJson ⟨"metadata", setup.protocolVersion⟩).render)
  | .discoveryResponse _ _ payload => handleResponse ext setup inputs payload
  | .peerDisconnected peerId => peerDisconnected peerId
  | .peerIdentified .. | .pingResult .. | .discoveryRequest .. | .listening ..
  | .networkError .. => pure ()

/-! ## Runs -/

inductive LoopEvent where
  | network (event : NetworkEvent ResponseChannel RequestId)
  | tun (packet : Bytes)

def handle (event : LoopEvent) : Handler Unit :=
  match event with
  | .network event => handleEvent ext setup inputs event
  | .tun packet => handleTun ext setup packet

def new : Engine := ⟨[], none, none, none, none, none, []⟩

/-- The states of a client: each event that does not panic is followed by another. -/
def loop : System Engine where
  init engine := engine = new
  step engine next := ∃ inputs event, handle ext setup inputs event engine = (.ok (), next)

end Engine

end Client
