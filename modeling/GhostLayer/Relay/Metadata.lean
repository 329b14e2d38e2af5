import GhostLayer.Foundation.Serde
import GhostLayer.Network.Externals
import Mathlib.Data.Finset.Card
import Mathlib.Data.Finset.Erase

/-! # What a relay reports about itself

The state that network events leave behind, the health class derived from it,
and the metadata a relay answers a metadata request with. Points in time are
nanoseconds from the Unix epoch and may lie before it; durations are
nanoseconds.
-/

namespace Relay

open Foundation Network

/-- What the transport tells the event loop. `channel` is the response channel of a request. -/
inductive NetworkEvent (Channel RequestId : Type) where
  | peerConnected (peerId : PeerId)
  | peerDisconnected (peerId : PeerId)
  | peerIdentified (peerId : PeerId) (agentVersion : String)
  | pingResult (peerId : PeerId) (result : Except String Nat)
  | discoveryRequest (peerId : PeerId) (payload : Bytes) (channel : Channel)
  | discoveryResponse (peerId : PeerId) (requestId : RequestId) (payload : Bytes)
  | listening (address : String)
  | networkError (message : String)

inductive RelayStatus where
  | starting
  | online
  | degraded
  | offline
  | shuttingDown
  deriving DecidableEq

structure LatencyMeasurement where
  peerId : PeerId
  timestamp : Int
  roundTrip : Option Nat
  success : Bool

structure RelayState where
  peerId : PeerId
  status : RelayStatus
  listeningAddress : Option String
  advertisedAddress : Option String
  activePeers : Finset PeerId
  lastHeartbeat : Option Int
  totalSuccessfulConnections : UInt64
  totalFailedConnections : UInt64
  latencyMeasurements : List LatencyMeasurement
  softwareVersion : String

namespace RelayState

def maxLatencySamples : Nat := 100

def new (peerId : PeerId) (advertisedAddress : Option String) (softwareVersion : String) :
    RelayState where
  peerId
  status := .starting
  listeningAddress := none
  advertisedAddress
  activePeers := ∅
  lastHeartbeat := none
  totalSuccessfulConnections := 0
  totalFailedConnections := 0
  latencyMeasurements := []
  softwareVersion

def setStatus (status : RelayStatus) (state : RelayState) : RelayState := { state with status }

def recordLatency (measurement : LatencyMeasurement) (state : RelayState) : RelayState :=
  let kept := if state.latencyMeasurements.length = maxLatencySamples
    then state.latencyMeasurements.tail else state.latencyMeasurements
  { state with latencyMeasurements := kept ++ [measurement] }

def applyNetworkEvent {Channel RequestId : Type} (event : NetworkEvent Channel RequestId)
    (timestamp : Int) (state : RelayState) : RelayState :=
  match event with
  | .listening address => { state with listeningAddress := some address, status := .online }
  | .peerConnected peerId =>
      { state with
        activePeers := insert peerId state.activePeers
        totalSuccessfulConnections := if peerId ∈ state.activePeers
          then state.totalSuccessfulConnections else state.totalSuccessfulConnections + 1
        status := .online }
  | .peerDisconnected peerId => { state with activePeers := state.activePeers.erase peerId }
  | .pingResult peerId (.ok roundTrip) =>
      state.recordLatency ⟨peerId, timestamp, some roundTrip, true⟩
  | .pingResult peerId (.error _) =>
      let state := state.recordLatency ⟨peerId, timestamp, none, false⟩
      { state with totalFailedConnections := state.totalFailedConnections + 1 }
  | .networkError _ =>
      { state with totalFailedConnections := state.totalFailedConnections + 1 }
  | .peerIdentified .. | .discoveryRequest .. | .discoveryResponse .. => state

end RelayState

/-! ## Health -/

inductive HealthClass where
  | healthy
  | degraded
  | unhealthy
  deriving DecidableEq

structure HealthThresholds where
  heartbeatFreshness : Nat
  degradedLatency : Nat
  deriving DecidableEq

structure RelayHealth where
  class' : HealthClass
  latency : Option Nat
  heartbeatFresh : Bool
  deriving DecidableEq

def RelayHealth.evaluate (state : RelayState) (thresholds : HealthThresholds) (now : Int) :
    RelayHealth :=
  let heartbeatFresh := state.lastHeartbeat.any
    (fun timestamp => (now - timestamp).toNat ≤ thresholds.heartbeatFreshness)
  let latency := (state.latencyMeasurements.filterMap LatencyMeasurement.roundTrip).getLast?
  let connectivityOk := state.activePeers.card > 0 ∨ state.totalSuccessfulConnections = 0
  let class' :=
    if (state.status = .offline ∨ state.status = .shuttingDown) ∨
        (¬ heartbeatFresh ∧ state.lastHeartbeat.isSome) ∨ ¬ connectivityOk then .unhealthy
    else if latency.any (fun value => value > thresholds.degradedLatency) ∨
        state.status = .degraded then .degraded
    else .healthy
  { class', latency, heartbeatFresh }

/-! ## Metadata -/

structure RelayMetadataRequest where
  kind : String
  protocolVersion : String
  deriving DecidableEq

structure RelayMetadata where
  peerId : PeerId
  protocolVersion : String
  softwareVersion : String
  supportedTransports : List String
  capabilities : List String
  listeningAddress : Option String
  advertisedAddress : Option String
  status : RelayStatus
  health : HealthClass
  latencyMs : Option UInt64
  timestamp : Int
  lastHeartbeat : Option Int

def RelayMetadata.fromStateWithCapabilities (state : RelayState) (protocolVersion : String)
    (health : RelayHealth) (capabilities : List String) (stamp : Int) : RelayMetadata where
  peerId := state.peerId
  protocolVersion
  softwareVersion := state.softwareVersion
  supportedTransports := ["quic"]
  capabilities
  listeningAddress := state.listeningAddress
  advertisedAddress := state.advertisedAddress
  status := state.status
  health := health.class'
  latencyMs := health.latency.map (fun latency => UInt64.ofNat (latency / 10 ^ 6))
  timestamp := stamp
  lastHeartbeat := state.lastHeartbeat

def RelayMetadataRequest.fieldNames : List String := ["kind", "protocol_version"]

def RelayMetadataRequest.toJson (request : RelayMetadataRequest) : Json :=
  .obj (RelayMetadataRequest.fieldNames.zip [.str request.kind, .str request.protocolVersion])

def RelayMetadataRequest.fromJson : Serde.Decoder RelayMetadataRequest := fun json => do
  match ← Serde.record RelayMetadataRequest.fieldNames 0 json with
  | [kind, protocolVersion] =>
      return {
        kind := ← Serde.required Serde.text kind
        protocolVersion := ← Serde.required Serde.text protocolVersion }
  | _ => none

def RelayStatus.toJson : RelayStatus → Json
  | .starting => .str "Starting"
  | .online => .str "Online"
  | .degraded => .str "Degraded"
  | .offline => .str "Offline"
  | .shuttingDown => .str "ShuttingDown"

def HealthClass.toJson : HealthClass → Json
  | .healthy => .str "Healthy"
  | .degraded => .str "Degraded"
  | .unhealthy => .str "Unhealthy"

/-- Whole seconds from the epoch; a time before it cannot be written. -/
def unixTimestamp (timestamp : Int) : Option Json :=
  if 0 ≤ timestamp then some (.num (timestamp.toNat / 10 ^ 9)) else none

def RelayMetadata.fieldNames : List String :=
  ["peer_id", "protocol_version", "software_version", "supported_transports", "capabilities",
    "listening_address", "advertised_address", "status", "health", "latency_ms", "timestamp",
    "last_heartbeat"]

/-- Writing fails on a time before the epoch. -/
def RelayMetadata.toJson (ext : Externals) (metadata : RelayMetadata) : Option Json := do
  let timestamp ← unixTimestamp metadata.timestamp
  let lastHeartbeat ← match metadata.lastHeartbeat with
    | none => some .null
    | some heartbeat => unixTimestamp heartbeat
  return .obj (RelayMetadata.fieldNames.zip [
    .str (ext.peerText metadata.peerId),
    .str metadata.protocolVersion,
    .str metadata.softwareVersion,
    .arr (metadata.supportedTransports.map .str),
    .arr (metadata.capabilities.map .str),
    Serde.ofNullable .str metadata.listeningAddress,
    Serde.ofNullable .str metadata.advertisedAddress,
    metadata.status.toJson,
    metadata.health.toJson,
    Serde.ofNullable (fun latency => .num latency.toNat) metadata.latencyMs,
    timestamp,
    lastHeartbeat])

end Relay
