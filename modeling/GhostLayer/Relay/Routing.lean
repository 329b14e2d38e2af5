import GhostLayer.Relay.Node

/-! # Candidates and routes

What a client makes of the metadata of relays: the check of one report, the
candidate it becomes, the order of candidates and the route that is selected
among them. Parsing a multiaddress is left to the dependency that does it.
-/

namespace Relay

open Foundation Network

/-! ## Reading metadata -/

namespace RelayStatus

def table : List (String × RelayStatus) :=
  [("Starting", .starting), ("Online", .online), ("Degraded", .degraded), ("Offline", .offline),
    ("ShuttingDown", .shuttingDown)]

def fromJson : Serde.Decoder RelayStatus := Serde.unitVariant table

end RelayStatus

namespace HealthClass

def table : List (String × HealthClass) :=
  [("Healthy", .healthy), ("Degraded", .degraded), ("Unhealthy", .unhealthy)]

def fromJson : Serde.Decoder HealthClass := Serde.unitVariant table

end HealthClass

/-- A point in time from whole seconds after the epoch. -/
def fromUnixTimestamp (seconds : UInt64) : Int := seconds.toNat * 10 ^ 9

/-- The time of the platform holds its seconds in 63 bits; the addition to the epoch panics when
they do not suffice. -/
def timestampOverflows (seconds : UInt64) : Bool := 2 ^ 63 ≤ seconds.toNat

namespace RelayMetadata

variable (ext : Externals)

def peerFromJson : Serde.Decoder PeerId := fun json => (Serde.text json).bind ext.parsePeer

def fromJson : Serde.Decoder RelayMetadata := fun json => do
  match ← Serde.record RelayMetadata.fieldNames 1 json with
  | [peerId, protocolVersion, softwareVersion, supportedTransports, capabilities,
      listeningAddress, advertisedAddress, status, health, latencyMs, timestamp, lastHeartbeat] =>
      return {
        peerId := ← Serde.required (peerFromJson ext) peerId
        protocolVersion := ← Serde.required Serde.text protocolVersion
        softwareVersion := ← Serde.required Serde.text softwareVersion
        supportedTransports := ← Serde.required (Serde.seq Serde.text) supportedTransports
        capabilities := ← Serde.required (Serde.seq Serde.text) capabilities
        listeningAddress := ← Serde.optional Serde.text listeningAddress
        advertisedAddress := ← Serde.optional Serde.text advertisedAddress
        status := ← Serde.required RelayStatus.fromJson status
        health := ← Serde.required HealthClass.fromJson health
        latencyMs := ← Serde.optional Serde.u64 latencyMs
        timestamp := fromUnixTimestamp (← Serde.required Serde.u64 timestamp)
        lastHeartbeat := (← Serde.optional Serde.u64 lastHeartbeat).map fromUnixTimestamp }
  | _ => none

/-- Read one field as it comes along. -/
def readField (name : String) (json : Json) : Outcome Unit Unit :=
  let check {α : Type} (value : Option α) : Outcome Unit Unit :=
    if value.isSome then .ok () else .error ()
  let time (value : Option (Option UInt64)) : Outcome Unit Unit :=
    match value with
    | some (some seconds) => if timestampOverflows seconds then .panic else .ok ()
    | some none => .ok ()
    | none => .error ()
  match name with
  | "peer_id" => check (peerFromJson ext json)
  | "protocol_version" | "software_version" => check (Serde.text json)
  | "supported_transports" | "capabilities" => check (Serde.seq Serde.text json)
  | "listening_address" | "advertised_address" => check (Serde.nullable Serde.text json)
  | "status" => check (RelayStatus.fromJson json)
  | "health" => check (HealthClass.fromJson json)
  | "latency_ms" => check (Serde.nullable Serde.u64 json)
  | "timestamp" => time ((Serde.u64 json).map some)
  | "last_heartbeat" => time (Serde.nullable Serde.u64 json)
  | _ => .ok ()

/-- Read the fields in the order of the document, up to the first that fails or is there twice. -/
def readFields : List (String × Json) → List String → Outcome Unit Unit
  | [], _ => .ok ()
  | (name, json) :: rest, seen =>
      if name ∈ RelayMetadata.fieldNames ∧ name ∈ seen then .error ()
      else match readField ext name json with
        | .ok () => readFields rest (name :: seen)
        | stopped => stopped

/-- Decode metadata. A time that overflows panics when its field is reached. -/
def decode (json : Json) : Outcome Unit RelayMetadata :=
  let fields := match json with
    | .obj fields => fields
    | .arr items => RelayMetadata.fieldNames.zip items
    | _ => []
  match readFields ext fields [] with
  | .panic => .panic
  | .ok () | .error () => match fromJson ext json with
    | some metadata => .ok metadata
    | none => .error ()

def fromSlice (payload : Bytes) : Outcome Unit RelayMetadata :=
  match ext.parseJson payload with
  | some json => decode ext json
  | none => .error ()

end RelayMetadata

/-! ## Checking metadata -/

/-- The time from `earlier` to `now`, unless it lies in the future. -/
def durationSince (now earlier : Int) : Option Nat :=
  if earlier ≤ now then some (now - earlier).toNat else none

def knownCapabilities : List String :=
  ["quic", "relay", "one_hop", "two_hop", "entry_role", "exit_role", "tcp_exit", "udp_exit",
    "dns_forwarding", "tun_boundary", "health_reporting"]

def RelayMetadata.address (metadata : RelayMetadata) : Option String :=
  metadata.advertisedAddress.or metadata.listeningAddress

section Candidates

variable (parseMultiaddr : String → Option Multiaddr)

def RelayMetadata.validate (metadata : RelayMetadata) (expectedProtocol : String) (now : Int)
    (freshness : Nat) : Except String Unit := do
  Check.failWhen (metadata.protocolVersion ≠ expectedProtocol)
    ("unsupported protocol version: " ++ metadata.protocolVersion)
  let age ← Check.orThrow (durationSince now metadata.timestamp)
    "metadata timestamp is in the future"
  Check.failWhen (age > freshness) "metadata timestamp is stale"
  Check.failWhen (metadata.lastHeartbeat.any fun timestamp =>
    (durationSince now timestamp).all fun age => age > freshness) "relay heartbeat is stale"
  let address ← Check.orThrow metadata.address "relay has no address"
  Check.failWhen (parseMultiaddr address = none) "relay address is invalid"
  Check.failWhen (metadata.supportedTransports.any fun transport => transport ≠ "quic")
    "relay advertised an unknown transport"
  Check.failWhen (metadata.capabilities.any fun capability => capability ∉ knownCapabilities)
    "relay advertised an unknown capability"

structure RelayCandidate where
  peerId : PeerId
  address : Multiaddr
  status : RelayStatus
  health : HealthClass
  latency : Option Nat
  capabilities : List String
  protocolVersion : String
  softwareVersion : String
  lastSeen : Int
  deriving DecidableEq

structure CandidateRequirements where
  protocolVersion : String
  requiredTransport : String
  requiredCapabilities : List String
  heartbeatFreshness : Nat
  deriving DecidableEq

inductive RelayCandidateError where
  | invalidMetadata (reason : String)
  | ineligible (reason : String)
  deriving DecidableEq

def RelayCandidate.fromMetadata (metadata : RelayMetadata) (requirements : CandidateRequirements)
    (now : Int) : Except RelayCandidateError RelayCandidate := do
  (metadata.validate parseMultiaddr requirements.protocolVersion now
    requirements.heartbeatFreshness).mapError .invalidMetadata
  let addressText ← Check.orThrow metadata.address (.invalidMetadata "missing address")
  let address ← Check.orThrow (parseMultiaddr addressText) (.invalidMetadata "invalid address")
  let candidate : RelayCandidate := {
    peerId := metadata.peerId
    address
    status := metadata.status
    health := metadata.health
    latency := metadata.latencyMs.map fun milliseconds => milliseconds.toNat * 10 ^ 6
    capabilities := metadata.capabilities
    protocolVersion := metadata.protocolVersion
    softwareVersion := metadata.softwareVersion
    lastSeen := metadata.timestamp }
  Check.failWhen (candidate.status = .offline) (.ineligible "relay is offline")
  Check.failWhen (requirements.requiredTransport ∉ metadata.supportedTransports)
    (.ineligible "required transport is unavailable")
  match requirements.requiredCapabilities.find?
      (fun capability => capability ∉ candidate.capabilities) with
  | some missing => throw (.ineligible ("required capability is unavailable: " ++ missing))
  | none => return candidate

end Candidates

/-! ## Ranking -/

def statusRank (status : RelayStatus) : Nat := if status = .online then 1 else 0

def healthRank : HealthClass → Nat
  | .healthy => 2
  | .degraded => 1
  | .unhealthy => 0

/-- The longest time in whole seconds. -/
def longestDuration : Nat := (2 ^ 64 - 1) * 10 ^ 9

def latencyRank (latency : Option Nat) : Nat := latency.getD longestDuration

def freshnessRank (timestamp now : Int) : Nat := (durationSince now timestamp).getD longestDuration

namespace RelayRanking

variable (ext : Externals)

def compareTexts (left right : String) : Ordering := compareOfLessAndEq left right

def compare (left right : RelayCandidate) (now : Int) : Ordering :=
  (compareOfLessAndEq (healthRank right.health) (healthRank left.health)).then <|
  (compareOfLessAndEq (statusRank right.status) (statusRank left.status)).then <|
  (compareOfLessAndEq (latencyRank left.latency) (latencyRank right.latency)).then <|
  (compareOfLessAndEq (freshnessRank right.lastSeen now) (freshnessRank left.lastSeen now)).then <|
  compareTexts (ext.peerText left.peerId) (ext.peerText right.peerId)

/-- A stable sort. -/
def rank (candidates : List RelayCandidate) (now : Int) : List RelayCandidate :=
  candidates.mergeSort (fun left right => compare ext left right now ≠ .gt)

end RelayRanking

/-! ## Routes -/

structure RelayHop where
  peerId : PeerId
  address : Multiaddr
  capabilities : List String
  health : HealthClass
  latencyMs : Option UInt64
  protocolVersion : String
  softwareVersion : String
  deriving DecidableEq

def RelayHop.ofCandidate (candidate : RelayCandidate) : RelayHop where
  peerId := candidate.peerId
  address := candidate.address
  capabilities := candidate.capabilities
  health := candidate.health
  latencyMs := candidate.latency.map fun latency => UInt64.ofNat (latency / 10 ^ 6)
  protocolVersion := candidate.protocolVersion
  softwareVersion := candidate.softwareVersion

inductive Route where
  | oneHop (relay : RelayHop)
  | twoHop (entry exit : RelayHop)
  deriving DecidableEq

structure RouteSelectionPolicy where
  mode : RouteMode
  requiredTransport : String
  requiredCapabilities : List String
  deriving DecidableEq

inductive RouteSelectionError where
  | noEligibleRelay
  | insufficientRelays (eligible : Nat)
  deriving DecidableEq

namespace RouteSelector

def eligible (clientPeerId : PeerId) (policy : RouteSelectionPolicy)
    (candidate : RelayCandidate) : Bool :=
  candidate.peerId ≠ clientPeerId ∧ candidate.status = .online ∧ candidate.health = .healthy ∧
    contains candidate.address.text "/quic-v1" ∧
    policy.requiredTransport ∈ candidate.capabilities ∧
    ∀ required ∈ policy.requiredCapabilities, required ∈ candidate.capabilities

def select (ext : Externals) (clientPeerId : PeerId) (candidates : List RelayCandidate)
    (policy : RouteSelectionPolicy) (now : Int) : Except RouteSelectionError Route :=
  match RelayRanking.rank ext (candidates.filter (eligible clientPeerId policy)) now,
    policy.mode with
  | [], _ => throw .noEligibleRelay
  | relay :: _, .oneHop => return .oneHop (.ofCandidate relay)
  | [_], .twoHop => throw (.insufficientRelays 1)
  | entry :: exit :: rest, .twoHop => do
      Check.failWhen (entry.peerId = exit.peerId) (.insufficientRelays (rest.length + 2))
      return .twoHop (.ofCandidate entry) (.ofCandidate exit)

end RouteSelector

end Relay
