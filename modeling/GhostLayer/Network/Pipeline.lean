import GhostLayer.Network.Channel
import GhostLayer.Network.Packet

/-! # Packets between a TUN device and the data plane

A packet on its way out is held against the limits of the tunnel and sent over
the data plane only when its destination is a public one. A frame on its way
back is opened, held against the same limits and written to the device. What the
calls on the device return is given.
-/

namespace Network

open Foundation

/-! ## Limits -/

structure MtuPolicy where
  tunnelMtu : Nat
  maximumPacketSize : Nat
  deriving DecidableEq

inductive MtuError where
  | invalidConfiguration
  | packet (reason : PacketError)
  deriving DecidableEq

namespace MtuPolicy

def new (tunnelMtu maximumPacketSize : Nat) : Except MtuError MtuPolicy := do
  Check.failWhen (tunnelMtu = 0 ∨ maximumPacketSize = 0 ∨ maximumPacketSize > tunnelMtu)
    .invalidConfiguration
  return ⟨tunnelMtu, maximumPacketSize⟩

def validate (policy : MtuPolicy) (bytes : Bytes) : Except MtuError NetworkPacket :=
  (NetworkPacket.new bytes policy.maximumPacketSize policy.tunnelMtu).mapError .packet

end MtuPolicy

/-! ## Destinations -/

inductive DestinationClass where
  | loopback
  | private'
  | linkLocal
  | multicast
  | broadcast
  | public'
  | unsupported
  deriving DecidableEq

inductive RoutingDecision where
  | throughGhostLayer
  | localSystem
  | drop
  | unsupported
  deriving DecidableEq

inductive RoutingError where
  | malformedPacket
  | unsupportedPacket
  deriving DecidableEq

/-- A byte of a packet. No packet is empty, and every other read is preceded by a check of the
length. -/
def NetworkPacket.octet (packet : NetworkPacket) (index : Nat) : UInt8 :=
  packet.bytes.getD index 0

def classifyV4 (value : Vector UInt8 4) : DestinationClass :=
  if (IpAddr.v4 value).isLoopback then .loopback
  else if Ipv4Addr.isPrivate value then .private'
  else if Ipv4Addr.isLinkLocal value then .linkLocal
  else if (IpAddr.v4 value).isMulticast then .multicast
  else if (IpAddr.v4 value).isBroadcast then .broadcast
  else if (IpAddr.v4 value).isUnspecified then .unsupported
  else .public'

def classifyV6 (value : Vector UInt8 16) : DestinationClass :=
  if (IpAddr.v6 value).isLoopback then .loopback
  else if Ipv6Addr.isUniqueLocal value then .private'
  else if Ipv6Addr.isUnicastLinkLocal value then .linkLocal
  else if (IpAddr.v6 value).isMulticast then .multicast
  else if (IpAddr.v6 value).isUnspecified then .unsupported
  else .public'

def classifyDestination (packet : NetworkPacket) : Except RoutingError DestinationClass :=
  match packet.packetType with
  | .ipv4 => do
      let headerLength := (packet.octet 0 &&& 15).toNat * 4
      Check.failWhen (packet.bytes.length < 20 ∨ headerLength > packet.bytes.length)
        .malformedPacket
      return classifyV4 (Vector.ofFn fun index => packet.octet (16 + index))
  | .ipv6 => do
      Check.failWhen (packet.bytes.length < 40) .malformedPacket
      return classifyV6 (Vector.ofFn fun index => packet.octet (24 + index))

def RoutingDecision.decide : DestinationClass → RoutingDecision
  | .public' => .throughGhostLayer
  | .loopback | .private' | .linkLocal => .localSystem
  | .multicast | .broadcast => .drop
  | .unsupported => .unsupported

/-! ## The way out -/

inductive PipelineError where
  | mtu (reason : MtuError)
  | routing (reason : RoutingError)
  | dataPlane (reason : DataPlaneError)
  | dropped (destination : DestinationClass)
  | unsupportedDestination
  deriving DecidableEq

namespace PacketPipeline

variable (ext : Externals) (mtu : MtuPolicy) (maximumPayloadSize : Nat)

def route (bytes : Bytes) : Except PipelineError (NetworkPacket × RoutingDecision) := do
  let packet ← (mtu.validate bytes).mapError .mtu
  let destination ← (classifyDestination packet).mapError .routing
  match RoutingDecision.decide destination with
  | .unsupported => throw .unsupportedDestination
  | .drop => throw (.dropped destination)
  | decision => return (packet, decision)

def send (bytes : Bytes) : Fallible EncryptedChannel PipelineError DataPlaneEnvelope := do
  let (packet, decision) ← Fallible.ofExcept (route mtu bytes)
  if decision ≠ .throughGhostLayer then
    let destination ← Fallible.ofExcept ((classifyDestination packet).mapError .routing)
    Fallible.throw (.dropped destination)
  else
    let frame ← Fallible.mapError .dataPlane (DataPlane.send ext maximumPayloadSize packet.bytes)
    let channel ← Fallible.get
    return ⟨dataPlaneKind, channel.session.sessionId, frame⟩

end PacketPipeline

/-! ## The way back -/

inductive TunError where
  | closed
  | queueFull
  | invalidPacket (reason : PacketError)
  | driverUnavailable
  | deviceUnavailable
  | deviceInitializationFailed (reason : String)
  | invalidConfiguration (reason : String)
  | readFailed (reason : String)
  | writeFailed (reason : String)
  | shutdown
  deriving DecidableEq

/-- What the calls on a TUN device return. -/
structure TunDevice where
  readPacket : Except TunError (Option NetworkPacket)
  writePacket : Except TunError Unit

inductive TunPipelineError where
  | tun (reason : TunError)
  | dataPlane (reason : DataPlaneError)
  | invalidPacket (reason : PacketError)
  deriving DecidableEq

/-- The limits that a bridge between the device and the data plane was made with. -/
structure TunDataPlane where
  maximumPacketSize : Nat
  mtu : Nat

namespace TunDataPlane

def new (maximumPacketSize mtu : Nat) : Except TunPipelineError TunDataPlane := do
  Check.failWhen (maximumPacketSize = 0 ∨ mtu = 0) (.invalidPacket .invalidLimit)
  return ⟨maximumPacketSize, mtu⟩

/-- The packet that was written to the device. -/
def writeFrame (ext : Externals) (bridge : TunDataPlane) (device : TunDevice)
    (maximumPayloadSize : Nat) (envelope : DataPlaneEnvelope) :
    Fallible EncryptedChannel TunPipelineError NetworkPacket := do
  let message ← Fallible.mapError .dataPlane (DataPlane.receive ext maximumPayloadSize envelope)
  let packet ← Fallible.ofExcept
    ((NetworkPacket.new message.payload bridge.maximumPacketSize bridge.mtu).mapError
      .invalidPacket)
  Fallible.ofExcept (device.writePacket.mapError .tun)
  return packet

end TunDataPlane

end Network
