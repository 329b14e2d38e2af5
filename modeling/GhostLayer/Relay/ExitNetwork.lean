import GhostLayer.Network.Packet
import GhostLayer.Relay.Forwarding
import Mathlib.Data.Finset.Insert
import Mathlib.Data.List.Lex

/-! # The exit side of a relay

Which destinations an exit may reach, its TCP and UDP adapters over sockets
whose calls are given, and the handler that checks a payload against its
forwarding context and lets every forwarding id through once.
-/

namespace Relay

open Foundation Network

inductive ExitNetworkError where
  | malformedDestination
  | invalidPort
  | destinationNotAllowed
  | unsupportedAddress
  | payloadTooLarge
  | responseTooLarge
  | connectionTimeout
  | readTimeout
  | writeTimeout
  | connectionFailed (text : String)
  | readFailed (text : String)
  | writeFailed (text : String)
  | closed
  deriving DecidableEq

/-! ## Destinations -/

/-- What addresses are ordered by: the family, then the octets, the port and the scope. -/
def sortKey : SocketAddr → List Nat
  | .v4 ip port => 4 :: (ip.toList.map UInt8.toNat ++ [port.toNat])
  | .v6 ip scopeId port => 6 :: (ip.toList.map UInt8.toNat ++ [port.toNat, scopeId.toNat])

/-- Keep the first of equal neighbours. -/
def dedup : List SocketAddr → List SocketAddr
  | [] => []
  | [address] => [address]
  | first :: second :: rest =>
      if first = second then dedup (second :: rest) else first :: dedup (second :: rest)

structure DestinationPolicy where
  allowed : List SocketAddr

namespace DestinationPolicy

variable (ext : Externals)

def new (allowed : List SocketAddr) : DestinationPolicy :=
  ⟨dedup (allowed.mergeSort (fun first second => sortKey first ≤ sortKey second))⟩

/-- A destination with a port, and not an unspecified address. -/
def parse (destination : String) : Except ExitNetworkError SocketAddr := do
  let address ← Check.orThrow (ext.parseSocket destination) .malformedDestination
  Check.failWhen (address.port = 0) .invalidPort
  Check.failWhen address.ip.isUnspecified .unsupportedAddress
  return address

def fromStrings (destinations : List String) : Except ExitNetworkError DestinationPolicy := do
  let allowed ← destinations.mapM (parse ext)
  return new allowed

def validate (policy : DestinationPolicy) (destination : String) :
    Except ExitNetworkError SocketAddr := do
  let address ← parse ext destination
  Check.failWhen (address ∉ policy.allowed) .destinationNotAllowed
  return address

def validateUdp (policy : DestinationPolicy) (destination : String) :
    Except ExitNetworkError SocketAddr := do
  let address ← policy.validate ext destination
  Check.failWhen (address.ip.isMulticast ∨ address.ip.isBroadcast) .unsupportedAddress
  return address

end DestinationPolicy

/-! ## Adapters -/

/-- What the calls on a stream socket return. -/
structure TcpSocket where
  connect : Except IoError Unit
  setReadTimeout : Except IoError Unit
  setWriteTimeout : Except IoError Unit
  write : Except IoError Unit
  /-- The bytes that are available, before they are cut to the buffer. -/
  read : Except IoError Bytes
  shutdown : Except IoError Unit

structure TcpAdapterConfig where
  maximumRequestSize : Nat
  maximumResponseSize : Nat
  connectionTimeout : Nat
  readTimeout : Nat
  writeTimeout : Nat
  deriving DecidableEq

def TcpAdapterConfig.validate (config : TcpAdapterConfig) : Except ExitNetworkError Unit := do
  Check.failWhen (config.maximumRequestSize = 0 ∨ config.maximumResponseSize = 0) .payloadTooLarge
  Check.failWhen (config.connectionTimeout = 0 ∨ config.readTimeout = 0 ∨ config.writeTimeout = 0)
    .connectionTimeout

/-- An adapter records the payloads it was asked to exchange. -/
structure TcpExitNetworkAdapter where
  stream : TcpSocket
  config : TcpAdapterConfig
  closed : Bool
  handed : List Bytes

namespace TcpExitNetworkAdapter

variable (ext : Externals)

/-- The address that the stream is connected to is noted. -/
def connect (destination : String) (policy : DestinationPolicy) (config : TcpAdapterConfig)
    (stream : TcpSocket) : Fallible (List SocketAddr) ExitNetworkError TcpExitNetworkAdapter := do
  Fallible.ofExcept config.validate
  let address ← Fallible.ofExcept (policy.validate ext destination)
  Fallible.modify (· ++ [address])
  Fallible.ofExcept (stream.connect.mapError (fun error =>
    if error.kind = .timedOut then .connectionTimeout else .connectionFailed error.text))
  Fallible.ofExcept (stream.setReadTimeout.mapError (fun error => .connectionFailed error.text))
  Fallible.ofExcept (stream.setWriteTimeout.mapError (fun error => .connectionFailed error.text))
  return { stream, config, closed := false, handed := [] }

def send (payload : Bytes) : Fallible TcpExitNetworkAdapter ExitNetworkError Unit := do
  let adapter ← Fallible.get
  Fallible.failWhen adapter.closed .closed
  Fallible.failWhen (payload.length > adapter.config.maximumRequestSize) .payloadTooLarge
  Fallible.ofExcept (adapter.stream.write.mapError (fun error =>
    if error.kind = .timedOut then .writeTimeout else .writeFailed error.text))

def receive : Fallible TcpExitNetworkAdapter ExitNetworkError Bytes := do
  let adapter ← Fallible.get
  Fallible.failWhen adapter.closed .closed
  let available ← Fallible.ofExcept (adapter.stream.read.mapError (fun error =>
    if error.kind = .timedOut then .readTimeout else .readFailed error.text))
  -- The buffer holds one byte more than the limit.
  let response := available.take (adapter.config.maximumResponseSize + 1)
  Fallible.failWhen (response.length > adapter.config.maximumResponseSize) .responseTooLarge
  return response

def exchange (payload : Bytes) : Fallible TcpExitNetworkAdapter ExitNetworkError Bytes := do
  Fallible.modify (fun adapter => { adapter with handed := adapter.handed ++ [payload] })
  send payload
  receive

def close : Fallible TcpExitNetworkAdapter ExitNetworkError Unit := do
  let adapter ← Fallible.get
  Fallible.failWhen adapter.closed .closed
  Fallible.ofExcept (adapter.stream.shutdown.mapError (fun error => .connectionFailed error.text))
  Fallible.modify (fun adapter => { adapter with closed := true })

end TcpExitNetworkAdapter

structure UdpExitNetworkAdapter where
  socket : UdpSocket
  destination : SocketAddr
  maximumDatagramSize : Nat
  closed : Bool

namespace UdpExitNetworkAdapter

variable (ext : Externals)

def mapIo (error : IoError) : ExitNetworkError :=
  match error.kind with
  | .timedOut | .wouldBlock => .readTimeout
  | .other => .readFailed error.text

/-- The address that the socket is connected to is noted. -/
def connect (destination : String) (policy : DestinationPolicy) (maximumDatagramSize timeout : Nat)
    (socket : UdpSocket) : Fallible (List SocketAddr) ExitNetworkError UdpExitNetworkAdapter := do
  Fallible.failWhen (maximumDatagramSize = 0 ∨ timeout = 0) .payloadTooLarge
  let destination ← Fallible.ofExcept
    ((policy.validateUdp ext destination).mapError (fun _ => .destinationNotAllowed))
  Fallible.ofExcept (socket.bind.mapError (fun error => .connectionFailed error.text))
  Fallible.modify (· ++ [destination])
  Fallible.ofExcept (socket.connect.mapError (fun error => .connectionFailed error.text))
  Fallible.ofExcept (socket.setReadTimeout.mapError (fun error => .connectionFailed error.text))
  Fallible.ofExcept (socket.setWriteTimeout.mapError (fun error => .connectionFailed error.text))
  return { socket, destination, maximumDatagramSize, closed := false }

def send (adapter : UdpExitNetworkAdapter) (payload : Bytes) : Except ExitNetworkError Unit := do
  Check.failWhen adapter.closed .closed
  Check.failWhen (payload.length > adapter.maximumDatagramSize) .payloadTooLarge
  let written ← adapter.socket.send.mapError mapIo
  Check.failWhen (written ≠ payload.length) (.writeFailed "short datagram write")

def receive (adapter : UdpExitNetworkAdapter) : Except ExitNetworkError Bytes := do
  Check.failWhen adapter.closed .closed
  let datagram ← adapter.socket.recv.mapError mapIo
  -- The buffer holds one byte more than the limit.
  let response := datagram.take (adapter.maximumDatagramSize + 1)
  Check.failWhen (response.length > adapter.maximumDatagramSize) .responseTooLarge
  return response

def exchange (adapter : UdpExitNetworkAdapter) (payload : Bytes) :
    Except ExitNetworkError Bytes := do
  adapter.send payload
  adapter.receive

def close : Fallible UdpExitNetworkAdapter ExitNetworkError Unit := do
  let adapter ← Fallible.get
  Fallible.failWhen adapter.closed .closed
  Fallible.modify (fun adapter => { adapter with closed := true })

end UdpExitNetworkAdapter

/-! ## The handler -/

inductive ExitPacketHandlerError where
  | closed
  | queueFull
  | invalidPacket (reason : PacketError)
  | invalidSession
  | invalidRoute
  | wrongEntry
  | wrongExit
  | invalidForwardingState
  | duplicatePacket
  | shutdown
  | network (reason : ExitNetworkError)
  deriving DecidableEq

structure ExitForwardingBinding where
  relaySessionId : SessionId
  entryPeer : PeerId
  exitPeer : PeerId
  deriving DecidableEq

structure ExitPacketHandler where
  maximumPacketSize : Nat
  mtu : Nat
  maximumPendingResponses : Nat
  pendingResponses : List NetworkPacket
  handledPackets : Finset SessionId
  closed : Bool

namespace ExitPacketHandler

def «open» (maximumPacketSize mtu maximumPendingResponses : Nat) :
    Except ExitPacketHandlerError ExitPacketHandler := do
  Check.failWhen (maximumPacketSize = 0 ∨ mtu = 0 ∨ maximumPendingResponses = 0)
    (.invalidPacket .invalidLimit)
  return { maximumPacketSize, mtu, maximumPendingResponses, pendingResponses := []
           handledPackets := ∅, closed := false }

def mapContextError : ForwardingError → ExitPacketHandlerError
  | .wrongEntryRelay => .wrongEntry
  | .wrongExitRelay => .wrongExit
  | .wrongSessionBinding => .invalidSession
  | .invalidRoute => .invalidRoute
  | _ => .invalidSession

/-- The checks that a payload belongs to its context. -/
def validateBinding (context : ForwardingContext) (binding : ExitForwardingBinding) :
    Fallible ExitPacketHandler ExitPacketHandlerError Unit := do
  let handler ← Fallible.get
  Fallible.failWhen handler.closed .closed
  Fallible.failWhen (context.state ≠ .forwarding) .invalidForwardingState
  Fallible.ofExcept ((context.validateEntry binding.entryPeer).mapError mapContextError)
  Fallible.ofExcept ((context.validateExit binding.exitPeer).mapError mapContextError)
  Fallible.ofExcept ((context.validateRelaySession binding.relaySessionId).mapError mapContextError)

/-- Every packet id is let through once. -/
def markHandled (packetId : SessionId) :
    Fallible ExitPacketHandler ExitPacketHandlerError Unit := do
  let handler ← Fallible.get
  Fallible.failWhen (packetId ∈ handler.handledPackets) .duplicatePacket
  Fallible.modify (fun handler =>
    { handler with handledPackets := insert packetId handler.handledPackets })

def validateBoundPayload (packetId : SessionId) (payload : Bytes) (context : ForwardingContext)
    (binding : ExitForwardingBinding) : Fallible ExitPacketHandler ExitPacketHandlerError Unit := do
  validateBinding context binding
  let handler ← Fallible.get
  Fallible.failWhen (payload.length > handler.maximumPacketSize)
    (.invalidPacket (.oversized payload.length handler.maximumPacketSize))
  markHandled packetId

/-- The adapter is changed by the exchange, which starts once the checks have passed. -/
def handleBoundWithAdapterPayload (packetId : SessionId) (payload : Bytes)
    (context : ForwardingContext) (binding : ExitForwardingBinding) :
    Fallible (ExitPacketHandler × TcpExitNetworkAdapter) ExitPacketHandlerError Bytes := do
  Fallible.zoom Prod.fst (fun handler both => (handler, both.2)) (validateBinding context binding)
  Fallible.zoom Prod.fst (fun handler both => (handler, both.2)) (markHandled packetId)
  Fallible.zoom Prod.snd (fun adapter both => (both.1, adapter))
    (Fallible.mapError .network (TcpExitNetworkAdapter.exchange payload))

end ExitPacketHandler

end Relay
