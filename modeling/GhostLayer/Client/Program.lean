import GhostLayer.Client.Engine
import GhostLayer.Network.Pipeline

/-! # The loop of the client program

The program meets relays and selects a route as the tunnel loop does. It sends
one packet over the session that comes of it, waits for the answer and ends. Other
than in the tunnel loop, a failure after the handshake ends it too, and a
connection that closes is only logged.
-/

namespace Client

open Foundation Network Relay

/-! ## Reading a response -/

/-- What a response is read as. -/
inductive Response where
  | handshake (response : HandshakeResponse)
  | forwarding (message : ForwardingMessage)
  | envelope (envelope : DataPlaneEnvelope)
  | metadata (metadata : RelayMetadata)
  | unknown

/-- Metadata is what is left when no other decoder has succeeded. -/
def readMetadata (ext : Externals) (payload : Bytes) : Outcome Empty Response :=
  match RelayMetadata.fromSlice ext payload with
  | .ok metadata => .ok (.metadata metadata)
  | .error () => .ok .unknown
  | .panic => .panic

namespace Program

/-- The decoders are tried one after the other. -/
def readResponse (ext : Externals) (payload : Bytes) : Outcome Empty Response :=
  match ext.fromSlice (HandshakeResponse.fromJson ext) payload with
  | some response => .ok (.handshake response)
  | none =>
      match ext.fromSlice (ForwardingMessage.fromJson ext) payload with
      | some message => .ok (.forwarding message)
      | none =>
          match ext.fromSlice DataPlaneEnvelope.fromJson payload with
          | some envelope => .ok (.envelope envelope)
          | none => readMetadata ext payload

/-! ## Configuration and state -/

/-- `tunWriter` is set where a TUN device was opened. -/
structure Setup extends Client.Setup where
  tun : TunConfig
  udpEnabled : Bool
  dnsEnabled : Bool
  externalTestDestination : Option String
  allowedExitDestinations : List String
  dnsServer : Option String

structure Inputs extends Client.Inputs where
  device : TunDevice

/-- Why no request can be built for a protocol. -/
inductive RequestError where
  | oneHopRoute
  | noDestination
  | noServer
  | invalidAddress (text : String)
  | noProtocol
  deriving DecidableEq

/-- What the program ends with when it fails. -/
inductive ProgramError where
  | openChannel (reason : ChannelError)
  | openTunDataPlane (reason : DataPlaneError)
  | readTunPacket (reason : TunError)
  | noTunPacket
  | configureMtu (reason : MtuError)
  | routeTunPacket (reason : PipelineError)
  | openDataPlane (reason : DataPlaneError)
  | encryptPayload (reason : DataPlaneError)
  | protocolRequest (reason : RequestError)
  | openTunResponse (reason : DataPlaneError)
  | openTunBridge (reason : TunPipelineError)
  | writeTun (reason : TunPipelineError)
  | closeChannel (reason : ChannelError)
  | unexpectedUdpResponse
  | unexpectedDnsResponse
  | session (reason : SessionError)
  deriving DecidableEq

/-- How the loop is left. -/
inductive Stop where
  | finished
  | failed (reason : ProgramError)
  deriving DecidableEq

end Program

structure Program where
  candidates : List RelayCandidate
  pendingSession : Option SessionInitiator
  activeChannel : Option EncryptedChannel
  activeRoute : Option RouteBinding
  effects : List Effect

namespace Program

abbrev Handler := Fallible Program Stop

/-- A result whose error ends the program. -/
def orFail {σ ε α : Type} (convert : ε → ProgramError) (result : Except ε α) :
    Fallible σ Stop α :=
  Fallible.ofExcept (result.mapError fun reason => .failed (convert reason))

def emit (effect : Effect) : Handler Unit :=
  Fallible.modify fun program => { program with effects := program.effects ++ [effect] }

/-- Run a routine on the active channel and keep its error as a value. -/
def onChannel {ε α : Type} (channel : EncryptedChannel)
    (routine : Fallible EncryptedChannel ε α) : Handler (Except ε α) := fun program =>
  match routine channel with
  | (.ok value, next) => (.ok (.ok value), { program with activeChannel := some next })
  | (.error reason, next) => (.ok (.error reason), { program with activeChannel := some next })
  | (.panic, next) => (.panic, { program with activeChannel := some next })

variable (ext : Externals) (setup : Setup) (inputs : Inputs)

/-! ## The packet of a session -/

def isTwoHop : RouteBinding → Bool
  | .twoHop .. => true
  | .oneHop _ => false

/-- The length of a label is cut to a byte. -/
def dnsQuery (name : String) : Bytes :=
  [0x12, 0x34, 0x01, 0x00, 0x00, 0x01, 0, 0, 0, 0, 0, 0] ++
    (split '.' name).flatMap (fun label =>
      UInt8.ofNat (Bytes.ofText label).length :: Bytes.ofText label) ++ [0, 0, 1, 0, 1]

def firstPayload (route : RouteBinding) : Bytes :=
  if setup.udpEnabled then Bytes.ofText "hello ghost layer udp"
  else if setup.dnsEnabled then dnsQuery "ghost-layer.test"
  else if setup.externalTestDestination.isSome ∧ isTwoHop route then
    Bytes.ofText "ghost-layer-external-test"
  else Bytes.ofText "hello ghost layer"

/-- Seal the first packet of a session: one from the TUN device, or a fixed payload. -/
def firstEnvelope (session : SecureSession) :
    Fallible EncryptedChannel Stop (DataPlaneEnvelope × Bytes) :=
  if setup.tunWriter then do
    Fallible.mapError (fun reason => .failed (.openTunDataPlane reason))
      (DataPlane.open defaultMaximumPayloadSize)
    match ← orFail .readTunPacket inputs.device.readPacket with
    | none => Fallible.throw (.failed .noTunPacket)
    | some packet =>
        let mtu ← orFail .configureMtu (MtuPolicy.new setup.tun.mtu setup.tun.maximumPacketSize)
        let envelope ← Fallible.mapError (fun reason => .failed (.routeTunPacket reason))
          (PacketPipeline.send ext mtu defaultMaximumPayloadSize packet.bytes)
        return (envelope, packet.bytes)
  else do
    let payload := firstPayload setup session.route
    Fallible.mapError (fun reason => .failed (.openDataPlane reason))
      (DataPlane.open defaultMaximumPayloadSize)
    let frame ← Fallible.mapError (fun reason => .failed (.encryptPayload reason))
      (DataPlane.send ext defaultMaximumPayloadSize payload)
    return (⟨dataPlaneKind, session.sessionId, frame⟩, payload)

def parseDestination (text : String) : Except RequestError SocketAddr :=
  Check.orThrow (ext.parseSocket text) (.invalidAddress text)

def buildProtocolRequest (route : RouteBinding) (sessionId : SessionId) (payload : Bytes)
    (envelope : DataPlaneEnvelope) : Except RequestError ForwardingMessage := do
  Check.failWhen (isTwoHop route = false) .oneHopRoute
  let (protocol, destination, source) ←
    if setup.udpEnabled then do
      let text ← Check.orThrow setup.allowedExitDestinations.head? .noDestination
      let destination ← parseDestination ext text
      pure (ForwardedProtocol.udp, destination, some (SocketAddr.v4 (Ipv4Addr.new 127 0 0 1) 40000))
    else if setup.dnsEnabled then do
      let text ← Check.orThrow setup.dnsServer .noServer
      let destination ← parseDestination ext text
      pure (ForwardedProtocol.dns, destination, none)
    else throw .noProtocol
  return {
    kind := forwardingKind
    forwardingId := sessionId
    clientSessionId := sessionId
    clientPeer := ext.peerText (ext.peerOf setup.identity)
    route
    data := envelope
    packet := some {
      protocol
      source
      destination
      flowId := sessionId
      sessionId
      routeId := sessionId
      sequence := 1
      payload } }

def requestPayload (session : SecureSession) (envelope : DataPlaneEnvelope) (payload : Bytes) :
    Except RequestError Bytes :=
  if isTwoHop session.route ∧ (setup.udpEnabled ∨ setup.dnsEnabled) then do
    let message ← buildProtocolRequest ext setup session.route session.sessionId payload envelope
    return (message.toJson ext).render
  else return envelope.toJson.render

/-! ## Network events -/

/-- Open the channel of a new session and send the first packet over it. -/
def openSession (session : SecureSession) : Handler Unit := do
  let channel ← orFail .openChannel (EncryptedChannel.open session channelProtocolVersion 4096 8)
  let ((envelope, payload), channel) ← Fallible.locally channel
    (firstEnvelope ext setup inputs session)
  let request ← orFail .protocolRequest (requestPayload ext setup session envelope payload)
  emit (.request session.peerId request)
  Fallible.modify fun program => { program with
    activeChannel := some channel
    activeRoute := some session.route }

def completeSession (response : HandshakeResponse) : Handler Unit := do
  if response.kind = "secure_session_response" then
    let program ← Fallible.get
    match program.pendingSession with
    | none => pure ()
    | some initiator =>
        Fallible.modify fun program => { program with pendingSession := none }
        match initiator.complete ext response with
        | .error _ => pure ()
        | .ok session => openSession ext setup inputs session

/-- Close the active channel and leave the loop. -/
def finish : Handler Unit := do
  let program ← Fallible.get
  match program.activeChannel with
  | none => Fallible.throw .finished
  | some channel =>
      let result ← onChannel channel EncryptedChannel.close
      orFail .closeChannel result
      Fallible.throw .finished

/-- A response that belongs to the active session. -/
def bound (message : ForwardingMessage) (channel : EncryptedChannel) (route : RouteBinding) :
    Bool :=
  message.clientSessionId = channel.session.sessionId ∧
    message.clientPeer = ext.peerText (ext.peerOf setup.identity) ∧ message.route = route ∧
    message.data.sessionId = channel.session.sessionId

def writeToTun (channel : EncryptedChannel) (message : ForwardingMessage) : Handler Unit := do
  let opened ← onChannel channel (DataPlane.open defaultMaximumPayloadSize)
  orFail .openTunResponse opened
  let bridge ← orFail .openTunBridge
    (TunDataPlane.new setup.tun.maximumPacketSize setup.tun.mtu)
  let result ← onChannel channel
    (TunDataPlane.writeFrame ext bridge inputs.device defaultMaximumPayloadSize message.data)
  let packet ← orFail .writeTun result
  emit (.tun packet.bytes)
  finish

def receiveOn (channel : EncryptedChannel) (envelope : DataPlaneEnvelope) :
    Handler (Except DataPlaneError DataPlaneMessage) :=
  onChannel channel do
    DataPlane.open defaultMaximumPayloadSize
    DataPlane.receive ext defaultMaximumPayloadSize envelope

/-- What a protocol response must contain. -/
def checkProtocolResponse (protocol : ForwardedProtocol) (payload : Bytes) :
    Except ProgramError Unit := do
  Check.failWhen (protocol = .udp ∧ payload ≠ Bytes.ofText "ack: hello ghost layer udp")
    .unexpectedUdpResponse
  Check.failWhen (protocol = .dns ∧ ¬ [127, 0, 0, 1] <:+: payload) .unexpectedDnsResponse

/-- Leave the loop on the response that was waited for. -/
def conclude (message : ForwardingMessage) (received : DataPlaneMessage) : Handler Unit :=
  if received.payload = Bytes.ofText "ghost-layer-external-test" then finish
  else match message.packet.map ForwardedPacket.protocol with
    | some .udp => do
        orFail id (checkProtocolResponse .udp received.payload)
        finish
    | some .dns => do
        orFail id (checkProtocolResponse .dns received.payload)
        finish
    | _ => pure ()

def deliver (message : ForwardingMessage) : Handler Unit := do
  if message.kind = forwardingKind then
    let program ← Fallible.get
    match program.activeChannel, program.activeRoute with
    | some channel, some route =>
        if bound ext setup message channel route then
          if setup.tunWriter then writeToTun ext setup inputs channel message
          else
            match ← receiveOn ext channel message.data with
            | .error _ => pure ()
            | .ok received => conclude message received
    | _, _ => pure ()

def acknowledge (envelope : DataPlaneEnvelope) : Handler Unit := do
  if envelope.kind = dataPlaneKind then
    let program ← Fallible.get
    match program.activeChannel with
    | none => pure ()
    | some channel =>
        match ← receiveOn ext channel envelope with
        | .error _ => pure ()
        | .ok received =>
            if received.messageType = .data ∧ Bytes.ofText "ack: " <+: received.payload then finish

def startSession (route : Route) : Handler Unit := do
  let program ← Fallible.get
  if program.pendingSession.isNone then
    let (firstPeer, binding) := Engine.bindingOf route
    let initiator ← orFail .session (SessionInitiator.new setup.identity firstPeer binding
      setup.protocolVersion inputs.sessionId inputs.secret)
    let init ← orFail .session (initiator.buildInit ext)
    emit (.request firstPeer (init.toJson ext).render)
    Fallible.modify fun program => { program with pendingSession := some initiator }

def considerRelay (metadata : RelayMetadata) : Handler Unit := do
  match RelayCandidate.fromMetadata setup.parseMultiaddr metadata setup.requirements
      inputs.checkedAt with
  | .error _ => pure ()
  | .ok candidate =>
      Fallible.modify fun program =>
        { program with candidates := program.candidates ++ [candidate] }
      let program ← Fallible.get
      let ranked := RelayRanking.rank ext program.candidates inputs.rankedAt
      match RouteSelector.select ext (ext.peerOf setup.identity) ranked setup.routePolicy
          inputs.selectedAt with
      | .error _ => pure ()
      | .ok route => startSession ext setup inputs route

def handleResponse (payload : Bytes) : Handler Unit :=
  match readResponse ext payload with
  | .ok (.handshake response) => completeSession ext setup inputs response
  | .ok (.forwarding message) => deliver ext setup inputs message
  | .ok (.envelope envelope) => acknowledge ext envelope
  | .ok (.metadata metadata) => considerRelay ext setup inputs metadata
  | .ok .unknown => pure ()
  | .panic => Fallible.panic

def handle (event : NetworkEvent ResponseChannel RequestId) : Handler Unit :=
  match event with
  | .peerConnected peerId =>
      emit (.request peerId
        (RelayMetadataRequest.toJson ⟨"metadata", setup.protocolVersion⟩).render)
  | .discoveryResponse _ _ payload => handleResponse ext setup inputs payload
  | .peerDisconnected _ | .peerIdentified .. | .pingResult .. | .discoveryRequest ..
  | .listening .. | .networkError .. => pure ()

def new : Program := ⟨[], none, none, none, []⟩

end Program

end Client
