import GhostLayer.Network.Channel

/-! # Forwarding contexts

The messages that an entry relay and an exit relay exchange for a client, and
the context that binds them to one client session, one route and one relay
session. A context moves from created to closed and refuses a request that
repeats the one before it.
-/

namespace Relay

open Foundation Network

def forwardingKind : String := "ghost_layer_forwarding"

inductive ForwardedProtocol where
  | tcp
  | udp
  | dns
  | ip
  deriving DecidableEq

structure ForwardedPacket where
  protocol : ForwardedProtocol
  source : Option SocketAddr
  destination : SocketAddr
  flowId : SessionId
  sessionId : SessionId
  routeId : SessionId
  sequence : UInt64
  payload : Bytes
  deriving DecidableEq

inductive ForwardingDirection where
  | clientToExit
  | exitToClient
  deriving DecidableEq

inductive ForwardingState where
  | created
  | connecting
  | established
  | forwarding
  | closing
  | closed
  deriving DecidableEq

structure ForwardingMessage where
  kind : String
  forwardingId : SessionId
  clientSessionId : SessionId
  clientPeer : String
  route : RouteBinding
  data : DataPlaneEnvelope
  packet : Option ForwardedPacket
  deriving DecidableEq

inductive ForwardingError where
  | invalidState (state : ForwardingState) (operation : String)
  | invalidRoute
  | invalidForwardingContext
  | wrongEntryRelay
  | wrongExitRelay
  | wrongSessionBinding
  | duplicateForwardingRequest
  | closedContext
  | malformedForwardingMessage
  | sequenceViolation
  | backpressure
  | unexpectedProtocolMessage
  deriving DecidableEq

structure ForwardingContext where
  forwardingId : SessionId
  clientSessionId : SessionId
  clientPeer : PeerId
  entryPeer : PeerId
  exitPeer : PeerId
  route : RouteBinding
  state : ForwardingState
  relaySessionId : Option SessionId
  lastRequest : Option (SessionId × ForwardingDirection)
  lastSequence : Option UInt64

/-! ## JSON forms -/

section Json

variable (ext : Externals)

def ForwardedProtocol.table : List (String × ForwardedProtocol) :=
  [("Tcp", .tcp), ("Udp", .udp), ("Dns", .dns), ("Ip", .ip)]

def ForwardedProtocol.toJson : ForwardedProtocol → Json
  | .tcp => .str "Tcp"
  | .udp => .str "Udp"
  | .dns => .str "Dns"
  | .ip => .str "Ip"

def ForwardedProtocol.fromJson : Serde.Decoder ForwardedProtocol :=
  Serde.unitVariant ForwardedProtocol.table

def socketFromJson : Serde.Decoder SocketAddr := fun json =>
  (Serde.text json).bind ext.parseSocket

def ForwardedPacket.fieldNames : List String :=
  ["protocol", "source", "destination", "flow_id", "session_id", "route_id", "sequence", "payload"]

def ForwardedPacket.toJson (packet : ForwardedPacket) : Json :=
  .obj (ForwardedPacket.fieldNames.zip [
    packet.protocol.toJson,
    Serde.ofNullable (fun source => .str (ext.socketText source)) packet.source,
    .str (ext.socketText packet.destination),
    packet.flowId.toJson,
    packet.sessionId.toJson,
    packet.routeId.toJson,
    .num packet.sequence.toNat,
    Serde.ofBytes packet.payload])

def ForwardedPacket.fromJson : Serde.Decoder ForwardedPacket := fun json => do
  match ← Serde.record ForwardedPacket.fieldNames 0 json with
  | [protocol, source, destination, flowId, sessionId, routeId, sequence, payload] =>
      return {
        protocol := ← Serde.required ForwardedProtocol.fromJson protocol
        source := ← Serde.optional (socketFromJson ext) source
        destination := ← Serde.required (socketFromJson ext) destination
        flowId := ← Serde.required SessionId.fromJson flowId
        sessionId := ← Serde.required SessionId.fromJson sessionId
        routeId := ← Serde.required SessionId.fromJson routeId
        sequence := ← Serde.required Serde.u64 sequence
        payload := ← Serde.required Serde.bytes payload }
  | _ => none

def ForwardingMessage.fieldNames : List String :=
  ["kind", "forwarding_id", "client_session_id", "client_peer", "route", "data", "packet"]

def ForwardingMessage.toJson (message : ForwardingMessage) : Json :=
  .obj (ForwardingMessage.fieldNames.zip [
    .str message.kind,
    message.forwardingId.toJson,
    message.clientSessionId.toJson,
    .str message.clientPeer,
    message.route.toJson ext,
    message.data.toJson,
    Serde.ofNullable (ForwardedPacket.toJson ext) message.packet])

def ForwardingMessage.fromJson : Serde.Decoder ForwardingMessage := fun json => do
  match ← Serde.record ForwardingMessage.fieldNames 1 json with
  | [kind, forwardingId, clientSessionId, clientPeer, route, data, packet] =>
      return {
        kind := ← Serde.required Serde.text kind
        forwardingId := ← Serde.required SessionId.fromJson forwardingId
        clientSessionId := ← Serde.required SessionId.fromJson clientSessionId
        clientPeer := ← Serde.required Serde.text clientPeer
        route := ← Serde.required (RouteBinding.fromJson ext) route
        data := ← Serde.required DataPlaneEnvelope.fromJson data
        packet := ← Serde.optional (ForwardedPacket.fromJson ext) packet }
  | _ => none

end Json

/-! ## Contexts -/

namespace ForwardingContext

variable (ext : Externals)

def withForwardingId (forwardingId clientSessionId : SessionId)
    (clientPeer entryPeer exitPeer : PeerId) (route : RouteBinding) :
    Except ForwardingError ForwardingContext := do
  match route with
  | .twoHop entry exit _ =>
      Check.failWhen (¬ (entry = entryPeer ∧ exit = exitPeer ∧ entry ≠ exit)) .invalidRoute
  | .oneHop _ => throw .invalidRoute
  Check.failWhen (clientPeer = entryPeer ∨ clientPeer = exitPeer) .invalidRoute
  return { forwardingId, clientSessionId, clientPeer, entryPeer, exitPeer, route
           state := .created, relaySessionId := none, lastRequest := none, lastSequence := none }

/-- `generated` is the forwarding id the relay draws. -/
def new (generated clientSessionId : SessionId) (clientPeer entryPeer exitPeer : PeerId)
    (route : RouteBinding) : Except ForwardingError ForwardingContext :=
  withForwardingId generated clientSessionId clientPeer entryPeer exitPeer route

def transition (expected next : ForwardingState) (operation : String) :
    Fallible ForwardingContext ForwardingError Unit := do
  let context ← Fallible.get
  Fallible.failWhen (context.state ≠ expected) (.invalidState context.state operation)
  Fallible.modify (fun context => { context with state := next })

def transitionConnecting : Fallible ForwardingContext ForwardingError Unit :=
  transition .created .connecting "connect"

def transitionEstablished : Fallible ForwardingContext ForwardingError Unit :=
  transition .connecting .established "establish"

def transitionClosing : Fallible ForwardingContext ForwardingError Unit := do
  let context ← Fallible.get
  Fallible.failWhen (context.state = .created ∨ context.state = .closed)
    (.invalidState context.state "close")
  Fallible.modify (fun context => { context with state := .closing })

def transitionClosed : Fallible ForwardingContext ForwardingError Unit :=
  transition .closing .closed "finish close"

def bindRelaySession (sessionId : SessionId) : Fallible ForwardingContext ForwardingError Unit := do
  let context ← Fallible.get
  Fallible.failWhen (context.state ≠ .established)
    (.invalidState context.state "bind relay session")
  Fallible.modify (fun context => { context with relaySessionId := some sessionId })

def beginForwarding (requestId : SessionId) (direction : ForwardingDirection) :
    Fallible ForwardingContext ForwardingError Unit := do
  let context ← Fallible.get
  Fallible.failWhen (context.state = .closing ∨ context.state = .closed) .closedContext
  Fallible.failWhen (¬ (context.state = .established ∨ context.state = .forwarding))
    (.invalidState context.state "forward")
  Fallible.failWhen (context.lastRequest = some (requestId, direction)) .duplicateForwardingRequest
  Fallible.modify (fun context =>
    { context with lastRequest := some (requestId, direction), state := .forwarding })

def acceptSequence (sequence : UInt64) : Fallible ForwardingContext ForwardingError Unit := do
  let context ← Fallible.get
  Fallible.failWhen (sequence = 0 ∨ context.lastSequence.any (fun last => sequence ≤ last))
    .sequenceViolation
  Fallible.modify (fun context => { context with lastSequence := some sequence })

def validateClient (context : ForwardingContext) (sessionId : SessionId) (peer : PeerId) :
    Except ForwardingError Unit := do
  Check.failWhen (sessionId ≠ context.clientSessionId) .wrongSessionBinding
  Check.failWhen (peer ≠ context.clientPeer) .wrongEntryRelay

def validateEntry (context : ForwardingContext) (peer : PeerId) : Except ForwardingError Unit :=
  Check.failWhen (peer ≠ context.entryPeer) .wrongEntryRelay

def validateExit (context : ForwardingContext) (peer : PeerId) : Except ForwardingError Unit :=
  Check.failWhen (peer ≠ context.exitPeer) .wrongExitRelay

def validatePacket (context : ForwardingContext) (packet : ForwardedPacket) :
    Except ForwardingError Unit := do
  Check.failWhen (packet.sessionId ≠ context.clientSessionId ∨
    packet.routeId ≠ context.forwardingId ∨ packet.flowId ≠ context.forwardingId ∨
    packet.payload.length > defaultMaximumPayloadSize) .invalidForwardingContext
  Check.failWhen (packet.sequence = 0) .sequenceViolation
  Check.failWhen (packet.destination.port = 0) .malformedForwardingMessage
  Check.failWhen (packet.protocol = .udp ∧ packet.source = none) .malformedForwardingMessage

def validateMessage (context : ForwardingContext) (message : ForwardingMessage) :
    Except ForwardingError Unit := do
  Check.failWhen (message.kind ≠ forwardingKind) .malformedForwardingMessage
  Check.failWhen (message.forwardingId ≠ context.forwardingId ∨
    message.clientSessionId ≠ context.clientSessionId ∨
    ext.parsePeer message.clientPeer ≠ some context.clientPeer ∨
    message.route ≠ context.route) .invalidForwardingContext
  Check.failWhen (message.data.kind ≠ dataPlaneKind) .unexpectedProtocolMessage
  let packet ← Check.orThrow message.packet .malformedForwardingMessage
  context.validatePacket packet

def validateRelaySession (context : ForwardingContext) (sessionId : SessionId) :
    Except ForwardingError Unit :=
  Check.failWhen (context.relaySessionId ≠ some sessionId) .wrongSessionBinding

end ForwardingContext

end Relay
