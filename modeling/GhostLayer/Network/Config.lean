import GhostLayer.Foundation.Fallible
import GhostLayer.Network.Externals
import Mathlib.Data.List.Infix

/-! # The configuration of a node

A configuration is read from the environment, field by field in the order of the
record, and checked as a whole. The first field that cannot be read decides the
error. Times are in nanoseconds. Texts of addresses are read and printed by the
platform and by dependencies.
-/

namespace Network

open Foundation

/-! ## Texts -/

/-- The white space of Unicode. -/
def isWhiteSpace (character : Char) : Bool :=
  let code := character.toNat
  9 ≤ code ∧ code ≤ 13 ∨ code = 0x20 ∨ code = 0x85 ∨ code = 0xA0 ∨ code = 0x1680 ∨
    0x2000 ≤ code ∧ code ≤ 0x200A ∨ code = 0x2028 ∨ code = 0x2029 ∨ code = 0x202F ∨
    code = 0x205F ∨ code = 0x3000

def trim (text : String) : String :=
  .ofList ((text.toList.dropWhile isWhiteSpace).reverse.dropWhile isWhiteSpace).reverse

def toAsciiLowercase (text : String) : String := .ofList (text.toList.map Char.toLower)

/-- The parts of a text between separators. -/
def split (separator : Char) (text : String) : List String :=
  (text.toList.splitOn separator).map String.ofList

/-- The parts before and after the first separator. -/
def splitOnce (separator : Char) (text : String) : Option (String × String) :=
  match text.toList.span (· ≠ separator) with
  | (before, _ :: after) => some (.ofList before, .ofList after)
  | (_, []) => none

def contains (text part : String) : Bool := text.toList.tails.any (part.toList.isPrefixOf ·)

theorem contains_eq_true {text part : String} :
    contains text part = true ↔ part.toList <:+: text.toList := by
  simp only [contains, List.any_eq_true, List.mem_tails, List.isPrefixOf_iff_prefix]
  rw [List.infix_iff_prefix_suffix]
  exact exists_congr fun _ => and_comm

def readDigits (value : Nat) : List Char → Option Nat
  | [] => some value
  | digit :: rest =>
      if digit.isDigit then readDigits (value * 10 + (digit.toNat - '0'.toNat)) rest else none

/-- An unsigned number below a bound, in decimal digits after an optional plus sign. -/
def parseUnsigned (bound : Nat) (text : String) : Option Nat :=
  let digits := match text.toList with
    | '+' :: rest => rest
    | digits => digits
  if digits = [] then none else (readDigits 0 digits).filter (· < bound)

/-! ## Values of the environment -/

inductive ConfigError where
  | missing (key : String)
  | invalid (key value : String)
  deriving DecidableEq

abbrev Environment := String → Option String

/-- A value that is not blank. -/
def optional (values : Environment) (key : String) : Option String :=
  (values key).filter fun value => trim value ≠ ""

def required (values : Environment) (key : String) : Except ConfigError String :=
  Check.orThrow (optional values key) (.missing key)

/-- Read a value with a default in its place. -/
def parseOr {α : Type} (values : Environment) (key : String) (default : α)
    (parse : String → Option α) : Except ConfigError α :=
  match values key with
  | none => .ok default
  | some value => Check.orThrow (parse value) (.invalid key value)

def parseBoolOrDefault (values : Environment) (key : String) (default : Bool) :
    Except ConfigError Bool :=
  parseOr values key default fun value =>
    [("1", true), ("true", true), ("yes", true), ("on", true), ("0", false), ("false", false),
      ("no", false), ("off", false)].lookup (toAsciiLowercase value)

def parseUsizeOrDefault (values : Environment) (key : String) (default : Nat) :
    Except ConfigError Nat :=
  parseOr values key default (parseUnsigned (2 ^ 64))

def parseU64OrDefault (values : Environment) (key : String) (default : Nat) :
    Except ConfigError Nat :=
  parseOr values key default (parseUnsigned (2 ^ 64))

/-- Read a variant by its names. -/
def parseName {α : Type} (key : String) (names : List (String × α)) (value : String) :
    Except ConfigError α :=
  Check.orThrow (names.lookup (toAsciiLowercase value)) (.invalid key value)

/-- Read a value whose default has a text too. -/
def parseOrDefault {α : Type} (values : Environment) (key default : String)
    (fromStr : String → Except ConfigError α) : Except ConfigError α :=
  fromStr ((values key).getD default)

/-- The items of a list that are not blank. -/
def items (raw : String) : List String := ((split ',' raw).map trim).filter (· ≠ "")

/-! ## Keys -/

namespace Key

def nodeId : String := "GHOST_NODE_ID"
def listenAddress : String := "GHOST_LISTEN_ADDRESS"
def advertisedAddress : String := "GHOST_ADVERTISED_ADDRESS"
def networkEnvironment : String := "GHOST_NETWORK_ENVIRONMENT"
def logLevel : String := "GHOST_LOG_LEVEL"
def solanaRpcUrl : String := "GHOST_SOLANA_RPC_URL"
def magicblockEndpoint : String := "GHOST_MAGICBLOCK_ENDPOINT"
def identityPath : String := "GHOST_IDENTITY_PATH"
def bootstrapPeers : String := "GHOST_BOOTSTRAP_PEERS"
def connectionTimeoutSecs : String := "GHOST_CONNECTION_TIMEOUT_SECS"
def heartbeatIntervalSecs : String := "GHOST_HEARTBEAT_INTERVAL_SECS"
def heartbeatFreshnessSecs : String := "GHOST_HEARTBEAT_FRESHNESS_SECS"
def degradedLatencyMs : String := "GHOST_DEGRADED_LATENCY_MS"
def softwareVersion : String := "GHOST_SOFTWARE_VERSION"
def protocolVersion : String := "GHOST_PROTOCOL_VERSION"
def discoveryRequiredTransport : String := "GHOST_DISCOVERY_REQUIRED_TRANSPORT"
def discoveryRequiredCapabilities : String := "GHOST_DISCOVERY_REQUIRED_CAPABILITIES"
def routeMode : String := "GHOST_ROUTE_MODE"
def tunEnabled : String := "GHOST_TUN_ENABLED"
def tunInterfaceName : String := "GHOST_TUN_INTERFACE_NAME"
def tunMtu : String := "GHOST_TUN_MTU"
def tunMaximumPacketSize : String := "GHOST_TUN_MAXIMUM_PACKET_SIZE"
def tunReadBufferLimit : String := "GHOST_TUN_READ_BUFFER_LIMIT"
def tunWriteBufferLimit : String := "GHOST_TUN_WRITE_BUFFER_LIMIT"
def allowedExitDestinations : String := "GHOST_ALLOWED_EXIT_DESTINATIONS"
def natEnabled : String := "GHOST_NAT_ENABLED"
def dnsEnabled : String := "GHOST_DNS_ENABLED"
def externalTestDestination : String := "GHOST_EXTERNAL_TEST_DESTINATION"
def osRoutingEnabled : String := "GHOST_OS_ROUTING_ENABLED"
def osRoutes : String := "GHOST_OS_ROUTES"
def dnsServer : String := "GHOST_DNS_SERVER"
def dnsTimeoutMs : String := "GHOST_DNS_TIMEOUT_MS"
def udpEnabled : String := "GHOST_UDP_ENABLED"
def vpnMode : String := "GHOST_VPN_MODE"
def maxConnectedPeers : String := "GHOST_MAX_CONNECTED_PEERS"
def maxActiveSessions : String := "GHOST_MAX_ACTIVE_SESSIONS"
def maxActiveFlows : String := "GHOST_MAX_ACTIVE_FLOWS"
def maxQueuedPackets : String := "GHOST_MAX_QUEUED_PACKETS"
def maxExitConnections : String := "GHOST_MAX_EXIT_CONNECTIONS"
def sessionTimeoutSecs : String := "GHOST_SESSION_TIMEOUT_SECS"
def flowTimeoutSecs : String := "GHOST_FLOW_TIMEOUT_SECS"
def healthListenAddress : String := "GHOST_HEALTH_LISTEN_ADDRESS"
def relayRole : String := "GHOST_RELAY_ROLE"

end Key

/-! ## Parts of the record -/

inductive RouteMode where
  | oneHop
  | twoHop
  deriving DecidableEq

def RouteMode.fromStr : String → Except ConfigError RouteMode :=
  parseName Key.routeMode [("one-hop", .oneHop), ("one_hop", .oneHop), ("two-hop", .twoHop),
    ("two_hop", .twoHop)]

inductive NetworkEnvironment where
  | development
  | staging
  | production
  deriving DecidableEq

def NetworkEnvironment.fromStr : String → Except ConfigError NetworkEnvironment :=
  parseName Key.networkEnvironment [("development", .development), ("dev", .development),
    ("staging", .staging), ("stage", .staging), ("production", .production), ("prod", .production)]

inductive LogLevel where
  | error
  | warn
  | info
  | debug
  | trace
  deriving DecidableEq

def LogLevel.fromStr : String → Except ConfigError LogLevel :=
  parseName Key.logLevel [("error", .error), ("warn", .warn), ("warning", .warn), ("info", .info),
    ("debug", .debug), ("trace", .trace)]

inductive RelayRole where
  | entry
  | exit
  | both
  deriving DecidableEq

def RelayRole.fromStr : String → Except ConfigError RelayRole :=
  parseName Key.relayRole [("entry", .entry), ("exit", .exit), ("both", .both),
    ("entry_exit", .both), ("entry-exit", .both)]

structure RelayResourceLimits where
  maximumConnectedPeers : Nat
  maximumActiveSessions : Nat
  maximumActiveFlows : Nat
  maximumQueuedPackets : Nat
  maximumExitConnections : Nat
  sessionTimeout : Nat
  flowTimeout : Nat
  deriving DecidableEq

def RelayResourceLimits.validate (limits : RelayResourceLimits) : Except ConfigError Unit := do
  Check.failWhen (limits.maximumConnectedPeers = 0)
    (.invalid Key.maxConnectedPeers "must be non-zero")
  Check.failWhen (limits.maximumActiveSessions = 0)
    (.invalid Key.maxActiveSessions "must be non-zero")
  Check.failWhen (limits.maximumActiveFlows = 0 ∨ limits.maximumQueuedPackets = 0 ∨
    limits.maximumExitConnections = 0)
    (.invalid Key.maxActiveFlows "resource limits must be non-zero")
  Check.failWhen (limits.sessionTimeout = 0 ∨ limits.flowTimeout = 0)
    (.invalid Key.sessionTimeoutSecs "timeouts must be non-zero")

structure TunConfig where
  enabled : Bool
  interfaceName : String
  mtu : Nat
  maximumPacketSize : Nat
  readBufferLimit : Nat
  writeBufferLimit : Nat
  deriving DecidableEq

def TunConfig.validate (tun : TunConfig) : Except ConfigError Unit := do
  Check.failWhen (trim tun.interfaceName = "") (.invalid Key.tunInterfaceName tun.interfaceName)
  Check.failWhen (tun.mtu = 0 ∨ tun.mtu > 65535) (.invalid Key.tunMtu (toString tun.mtu))
  Check.failWhen (tun.maximumPacketSize = 0 ∨ tun.maximumPacketSize > tun.mtu)
    (.invalid Key.tunMaximumPacketSize (toString tun.maximumPacketSize))
  Check.failWhen (tun.readBufferLimit = 0)
    (.invalid Key.tunReadBufferLimit (toString tun.readBufferLimit))
  Check.failWhen (tun.writeBufferLimit = 0)
    (.invalid Key.tunWriteBufferLimit (toString tun.writeBufferLimit))

/-! ## Prefixes of addresses -/

inductive RouteError where
  | invalidPrefix
  | defaultRouteRejected
  | invalidInterface
  | duplicateRoute
  | routeUnavailable (reason : String)
  | routeOperationFailed (reason : String)
  deriving DecidableEq

structure IpPrefix where
  address : IpAddr
  prefixLength : UInt8
  deriving DecidableEq

namespace IpPrefix

def maximum : IpAddr → UInt8
  | .v4 _ => 32
  | .v6 _ => 128

/-- The octets of an IPv4 address under a mask. -/
def maskV4 (octets : Vector UInt8 4) (prefixLength : UInt8) : Vector UInt8 4 :=
  let mask : UInt32 := if prefixLength = 32 then 0xFFFFFFFF
    else 0xFFFFFFFF <<< (32 - prefixLength.toUInt32)
  let bits := UInt32.ofNat (Bytes.toNat octets.toList) &&& mask
  Vector.ofFn fun index => (bits >>> UInt32.ofNat (8 * (3 - index))).toUInt8

/-- The octets of an IPv6 address of which the bits behind the prefix are cleared. -/
def maskV6 (octets : Vector UInt8 16) (prefixLength : UInt8) : Vector UInt8 16 :=
  let fullBytes := (prefixLength / 8).toNat
  let remainingBits := prefixLength % 8
  Vector.ofFn fun index =>
    if index < fullBytes then octets[index]
    else if index = fullBytes ∧ remainingBits ≠ 0 then
      octets[index] &&& (0xff <<< (8 - remainingBits))
    else 0

def new (address : IpAddr) (prefixLength : UInt8) : Except RouteError IpPrefix := do
  Check.failWhen (prefixLength = 0 ∨ prefixLength > maximum address) .defaultRouteRejected
  match address with
  | .v4 octets => return ⟨.v4 (maskV4 octets prefixLength), prefixLength⟩
  | .v6 octets => return ⟨.v6 (maskV6 octets prefixLength), prefixLength⟩

def fromStr (parseIp : String → Option IpAddr) (value : String) : Except RouteError IpPrefix := do
  let (address, prefixLength) ← Check.orThrow (splitOnce '/' value) .invalidPrefix
  let address ← Check.orThrow (parseIp address) .invalidPrefix
  let prefixLength ← Check.orThrow (parseUnsigned (2 ^ 8) prefixLength) .invalidPrefix
  new address (UInt8.ofNat prefixLength)

end IpPrefix

/-! ## The record -/

/-- An address of a peer as its canonical text. -/
structure Multiaddr where
  text : String
  deriving DecidableEq

structure NodeConfig where
  nodeId : String
  listenAddress : String
  advertisedAddress : Option String
  networkEnvironment : NetworkEnvironment
  logLevel : LogLevel
  solanaRpcUrl : String
  magicblockEndpoint : Option String
  identityPath : String
  bootstrapPeers : List String
  connectionTimeout : Nat
  heartbeatInterval : Nat
  heartbeatFreshness : Nat
  degradedLatency : Nat
  softwareVersion : String
  protocolVersion : String
  discoveryRequiredTransport : String
  discoveryRequiredCapabilities : List String
  routeMode : RouteMode
  tun : TunConfig
  allowedExitDestinations : List String
  natEnabled : Bool
  dnsEnabled : Bool
  externalTestDestination : Option String
  osRoutingEnabled : Bool
  osRoutes : List IpPrefix
  dnsServer : Option String
  dnsTimeout : Nat
  udpEnabled : Bool
  vpnMode : Bool
  resourceLimits : RelayResourceLimits
  healthListenAddress : Option String
  relayRole : RelayRole
  deriving DecidableEq

/-- Seconds and milliseconds in nanoseconds. -/
def fromSecs (seconds : Nat) : Nat := seconds * 10 ^ 9

def fromMillis (milliseconds : Nat) : Nat := milliseconds * 10 ^ 6

namespace NodeConfig

section Reading

variable (ext : Externals) (parseIp : String → Option IpAddr)
  (parseMultiaddr : String → Option Multiaddr) (values : Environment)

/-- The canonical text of a socket address that passes a check. -/
def parseAddress (key text : String) (refused : SocketAddr → Bool) (shown : String) :
    Except ConfigError String := do
  let address ← Check.orThrow (ext.parseSocket text) (.invalid key text)
  Check.failWhen (refused address) (.invalid key shown)
  return ext.socketText address

/-- An address that may be left out. -/
def parseOptionalAddress (key : String) (parse : String → Except ConfigError String) :
    Except ConfigError (Option String) :=
  match optional values key with
  | none => .ok none
  | some text => (parse text).map some

def parseExternalTestDestination : Except ConfigError (Option String) :=
  parseOptionalAddress values Key.externalTestDestination fun destination =>
    parseAddress ext Key.externalTestDestination destination
      (fun address => address.port = 0 ∨ address.ip.isUnspecified) destination

def parseDnsServer : Except ConfigError (Option String) :=
  parseOptionalAddress values Key.dnsServer fun server =>
    parseAddress ext Key.dnsServer server
      (fun address => address.port = 0 ∨ address.ip.isUnspecified) server

def parseHealthListenAddress : Except ConfigError (Option String) :=
  parseOptionalAddress values Key.healthListenAddress fun address =>
    parseAddress ext Key.healthListenAddress address (fun address => address.port = 0)
      "health endpoint must use a non-zero port"

/-- Unspecified addresses are not refused here. -/
def parseAllowedDestinations : Except ConfigError (List String) :=
  match optional values Key.allowedExitDestinations with
  | none => .ok []
  | some raw => (items raw).mapM fun destination =>
      parseAddress ext Key.allowedExitDestinations destination (fun address => address.port = 0)
        destination

def parseOsRoutes : Except ConfigError (List IpPrefix) :=
  match optional values Key.osRoutes with
  | none => .ok []
  | some raw => (items raw).mapM fun route =>
      (IpPrefix.fromStr parseIp route).mapError fun _ => .invalid Key.osRoutes route

/-- Whether a QUIC address is on the loopback interface. -/
def validateQuicMultiaddr (address key : String) : Except ConfigError Bool := do
  let multiaddr ← Check.orThrow (parseMultiaddr address) (.invalid key address)
  let rendered := multiaddr.text
  Check.failWhen (¬ contains rendered "/udp/" ∨ ¬ contains rendered "/quic-v1")
    (.invalid key "listen address must be a QUIC multiaddr")
  return contains rendered "/ip4/127.0.0.1/" || contains rendered "/ip6/::1/"

/-- Every bootstrap peer names its identity and is there once. -/
def validateProductionBootstrapPeers : List String → List String → Except ConfigError Unit
  | [], _ => .ok ()
  | peer :: rest, unique => do
      let multiaddr ← Check.orThrow (parseMultiaddr peer) (.invalid Key.bootstrapPeers peer)
      Check.failWhen (¬ contains multiaddr.text "/p2p/" ∨ peer ∈ unique)
        (.invalid Key.bootstrapPeers peer)
      validateProductionBootstrapPeers rest (peer :: unique)

/-- Read the fields, the first that fails deciding. -/
def readFields : Except ConfigError NodeConfig := do
  return {
    nodeId := (optional values Key.nodeId).getD "node"
    listenAddress := ← required values Key.listenAddress
    advertisedAddress := optional values Key.advertisedAddress
    networkEnvironment := ← parseOrDefault values Key.networkEnvironment "development"
      NetworkEnvironment.fromStr
    logLevel := ← parseOrDefault values Key.logLevel "info" LogLevel.fromStr
    solanaRpcUrl := (optional values Key.solanaRpcUrl).getD ""
    magicblockEndpoint := optional values Key.magicblockEndpoint
    identityPath := (optional values Key.identityPath).getD "./ghost-layer.key"
    bootstrapPeers := ((optional values Key.bootstrapPeers).map items).getD []
    connectionTimeout := fromSecs (← parseU64OrDefault values Key.connectionTimeoutSecs 10)
    heartbeatInterval := fromSecs (← parseU64OrDefault values Key.heartbeatIntervalSecs 10)
    heartbeatFreshness := fromSecs (← parseU64OrDefault values Key.heartbeatFreshnessSecs 30)
    degradedLatency := fromMillis (← parseU64OrDefault values Key.degradedLatencyMs 500)
    softwareVersion := (optional values Key.softwareVersion).getD "0.1.0"
    protocolVersion := (optional values Key.protocolVersion).getD "1.0"
    discoveryRequiredTransport := (optional values Key.discoveryRequiredTransport).getD "quic"
    discoveryRequiredCapabilities :=
      ((optional values Key.discoveryRequiredCapabilities).map items).getD ["relay"]
    routeMode := ← parseOrDefault values Key.routeMode "one-hop" RouteMode.fromStr
    tun := {
      enabled := ← parseBoolOrDefault values Key.tunEnabled false
      interfaceName := (optional values Key.tunInterfaceName).getD "ghost0"
      mtu := ← parseUsizeOrDefault values Key.tunMtu 1500
      maximumPacketSize := ← parseUsizeOrDefault values Key.tunMaximumPacketSize 1500
      readBufferLimit := ← parseUsizeOrDefault values Key.tunReadBufferLimit 16
      writeBufferLimit := ← parseUsizeOrDefault values Key.tunWriteBufferLimit 16 }
    allowedExitDestinations := ← parseAllowedDestinations ext values
    natEnabled := ← parseBoolOrDefault values Key.natEnabled false
    dnsEnabled := ← parseBoolOrDefault values Key.dnsEnabled false
    externalTestDestination := ← parseExternalTestDestination ext values
    osRoutingEnabled := ← parseBoolOrDefault values Key.osRoutingEnabled false
    osRoutes := ← parseOsRoutes parseIp values
    dnsServer := ← parseDnsServer ext values
    dnsTimeout := fromMillis (← parseU64OrDefault values Key.dnsTimeoutMs 1000)
    udpEnabled := ← parseBoolOrDefault values Key.udpEnabled false
    vpnMode := ← parseBoolOrDefault values Key.vpnMode false
    resourceLimits := {
      maximumConnectedPeers := ← parseUsizeOrDefault values Key.maxConnectedPeers 128
      maximumActiveSessions := ← parseUsizeOrDefault values Key.maxActiveSessions 256
      maximumActiveFlows := ← parseUsizeOrDefault values Key.maxActiveFlows 256
      maximumQueuedPackets := ← parseUsizeOrDefault values Key.maxQueuedPackets 1024
      maximumExitConnections := ← parseUsizeOrDefault values Key.maxExitConnections 64
      sessionTimeout := fromSecs (← parseU64OrDefault values Key.sessionTimeoutSecs 300)
      flowTimeout := fromSecs (← parseU64OrDefault values Key.flowTimeoutSecs 60) }
    healthListenAddress := ← parseHealthListenAddress ext values
    relayRole := ← parseOrDefault values Key.relayRole "both" RelayRole.fromStr }

/-- The checks of a production environment. -/
def validateProduction (config : NodeConfig) : Except ConfigError Unit := do
  Check.failWhen (← validateQuicMultiaddr parseMultiaddr config.listenAddress Key.listenAddress)
    (.invalid Key.listenAddress "production relays must not bind to loopback")
  let address ← Check.orThrow config.advertisedAddress (.missing Key.advertisedAddress)
  Check.failWhen (← validateQuicMultiaddr parseMultiaddr address Key.advertisedAddress)
    (.invalid Key.advertisedAddress "production relays must not advertise loopback")
  Check.failWhen ((config.externalTestDestination.isSome ∨ config.udpEnabled ∨ config.dnsEnabled) ∧
    config.allowedExitDestinations = []) (.missing Key.allowedExitDestinations)
  validateProductionBootstrapPeers parseMultiaddr config.bootstrapPeers []

def validateEnvironment (config : NodeConfig) : Except ConfigError Unit :=
  if config.networkEnvironment = .production then validateProduction parseMultiaddr config
  else .ok ()

def validateTestDestination (config : NodeConfig) : Except ConfigError Unit :=
  match config.externalTestDestination with
  | some destination => Check.failWhen (destination ∉ config.allowedExitDestinations)
      (.invalid Key.externalTestDestination destination)
  | none => .ok ()

/-- The checks of the record as a whole. -/
def validate (config : NodeConfig) : Except ConfigError Unit := do
  config.tun.validate
  config.resourceLimits.validate
  config.validateTestDestination
  Check.failWhen (config.osRoutingEnabled ∧ config.osRoutes = []) (.invalid Key.osRoutes
    "at least one explicit route is required when OS routing is enabled")
  Check.failWhen (config.dnsEnabled ∧ config.dnsServer = none) (.invalid Key.dnsServer
    "an explicit IP:PORT DNS server is required when DNS is enabled")
  Check.failWhen (config.dnsEnabled ∧
    ¬ config.dnsServer.any fun server => server ∈ config.allowedExitDestinations)
    (.invalid Key.dnsServer "DNS server must be an exact allowed exit destination")
  Check.failWhen (config.dnsTimeout = 0) (.invalid Key.dnsTimeoutMs "timeout must be non-zero")
  Check.failWhen (config.udpEnabled ∧ ¬ config.natEnabled) (.invalid Key.udpEnabled
    "UDP runtime requires GHOST_NAT_ENABLED=true")
  validateEnvironment parseMultiaddr config
  Check.failWhen (config.vpnMode ∧
    (¬ config.tun.enabled ∨ ¬ config.osRoutingEnabled ∨ config.osRoutes = []))
    (.invalid Key.vpnMode "VPN mode requires enabled TUN and explicit OS routes")

def fromMap : Except ConfigError NodeConfig := do
  let config ← readFields ext parseIp values
  config.validate parseMultiaddr
  return config

end Reading

end NodeConfig

end Network
