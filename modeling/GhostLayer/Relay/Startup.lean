import GhostLayer.Network.ConfigLaws
import GhostLayer.Relay.Destinations

/-! # Starting a relay

A relay makes its exit handler, the policy of its destinations, the timer of its
heartbeats and its resolver from an accepted configuration. Each of them checks
its values again, by rules of its own.
-/

namespace Relay

open Foundation Network

inductive StartUpError where
  | exitHandler (reason : ExitPacketHandlerError)
  | destinationPolicy (reason : ExitNetworkError)
  | resolver (reason : DnsError)
  | message (text : String)
  deriving DecidableEq

/-- A timer that fires once in every period. A period of zero is a panic. -/
def interval {σ ε : Type} (period : Nat) : Fallible σ ε Nat :=
  if period = 0 then Fallible.panic else pure period

section StartUp

variable (ext : Externals) (config : NodeConfig)

/-- The resolver of the configured server, where DNS is enabled. -/
def openResolver : Except StartUpError (Option UdpDnsResolver) :=
  if config.dnsEnabled then do
    let configured ← Check.orThrow config.dnsServer (.message "DNS server is not configured")
    let server ← Check.orThrow (ext.parseSocket configured) (.message "invalid DNS server")
    let resolver ← (UdpDnsResolver.new server ⟨config.tun.maximumPacketSize,
      config.tun.maximumPacketSize, config.dnsTimeout⟩ true).mapError .resolver
    return some resolver
  else .ok none

structure Startup where
  exitHandler : ExitPacketHandler
  destinationPolicy : Option DestinationPolicy
  heartbeatTimer : Nat
  resolver : Option UdpDnsResolver

def startUp : Fallible Unit StartUpError Startup := do
  let exitHandler ← Fallible.ofExcept ((ExitPacketHandler.open config.tun.maximumPacketSize
    config.tun.mtu config.tun.writeBufferLimit).mapError .exitHandler)
  let destinationPolicy ← Fallible.ofExcept
    ((loadDestinationPolicy ext config).mapError .destinationPolicy)
  let heartbeatTimer ← interval config.heartbeatInterval
  let resolver ← Fallible.ofExcept (openResolver ext config)
  return { exitHandler, destinationPolicy, heartbeatTimer, resolver }

end StartUp

variable {ext : Externals} {parseIp : String → Option IpAddr}
  {parseMultiaddr : String → Option Multiaddr} {values : Environment} {config : NodeConfig}

theorem startUp_succeeds :
    (∃ started next, startUp ext config () = (.ok started, next)) ↔
      (∃ handler, ExitPacketHandler.open config.tun.maximumPacketSize config.tun.mtu
        config.tun.writeBufferLimit = .ok handler) ∧
      (∃ policy, loadDestinationPolicy ext config = .ok policy) ∧
      config.heartbeatInterval ≠ 0 ∧ ∃ resolver, openResolver ext config = .ok resolver := by
  have hinterval {timer : Nat} {state next : Unit} :
      (interval config.heartbeatInterval : Fallible Unit StartUpError Nat) state =
          (.ok timer, next) ↔
        config.heartbeatInterval ≠ 0 ∧ timer = config.heartbeatInterval := by
    rw [interval]
    split_ifs with hzero
    · simp [Fallible.panic, hzero]
    · simp [hzero, eq_comm]
  simp only [startUp, Fallible.bind_eq_ok, Fallible.ofExcept_eq_ok, Check.mapError_eq_ok, hinterval]
  constructor
  · rintro ⟨_, _, handler, _, ⟨hhandler, -⟩, policy, _, ⟨hpolicy, -⟩, _, _,
      ⟨hperiod, -⟩, resolver, _,
      ⟨hresolver, -⟩, -⟩
    exact ⟨⟨handler, hhandler⟩, ⟨policy, hpolicy⟩, hperiod, resolver, hresolver⟩
  · rintro ⟨⟨handler, hhandler⟩, ⟨policy, hpolicy⟩, hperiod, resolver, hresolver⟩
    exact ⟨_, (), handler, (), ⟨hhandler, trivial⟩, policy, (), ⟨hpolicy, trivial⟩, _, (),
      ⟨hperiod, rfl⟩, resolver, (), ⟨hresolver, trivial⟩, rfl⟩

/-! ## The steps of an accepted configuration -/

theorem exists_exitHandler (hlimited : NodeConfig.Limited config) :
    ∃ handler, ExitPacketHandler.open config.tun.maximumPacketSize config.tun.mtu
      config.tun.writeBufferLimit = .ok handler := by
  have hlimits : ¬ (config.tun.maximumPacketSize = 0 ∨ config.tun.mtu = 0 ∨
      config.tun.writeBufferLimit = 0) := by
    rw [not_or, not_or]
    exact ⟨hlimited.maximumPacketSize, hlimited.mtu, hlimited.writeBufferLimit⟩
  exact ⟨_, Check.bind_eq_ok.mpr ⟨(), Check.failWhen_eq_ok.mpr hlimits, rfl⟩⟩

theorem exists_resolver (hsockets : ext.ReadsSockets) (hlimited : NodeConfig.Limited config)
    (hread : NodeConfig.parseDnsServer ext values = .ok config.dnsServer) :
    ∃ resolver, openResolver ext config = .ok resolver := by
  rw [openResolver]
  split_ifs with henabled
  · obtain ⟨server, hserver⟩ := Option.ne_none_iff_exists'.mp (hlimited.dnsServer henabled)
    rw [hserver] at hread ⊢
    obtain ⟨address, rfl, hport, hspecified⟩ := NodeConfig.exists_server_of_parse hread
    have hnew : ∃ resolver, UdpDnsResolver.new address ⟨config.tun.maximumPacketSize,
        config.tun.maximumPacketSize, config.dnsTimeout⟩ true = .ok resolver := by
      refine ⟨_, UdpDnsResolver.new_eq_ok.mpr ⟨?_, ⟨hport, hspecified⟩, rfl⟩⟩
      simp [hlimited.maximumPacketSize, hlimited.dnsTimeout]
    obtain ⟨resolver, hnew⟩ := hnew
    refine ⟨some resolver, ?_⟩
    simp only [Check.bind_eq_ok, Check.orThrow_eq_ok, Check.mapError_eq_ok]
    exact ⟨_, rfl, address, hsockets address, resolver, hnew, rfl⟩
  · exact ⟨none, rfl⟩

/-- The destinations of an accepted environment are printed, and read again for the policy. -/
theorem fromStrings_succeeds (hsockets : ext.ReadsSockets) {destinations : List String}
    (hread : NodeConfig.parseAllowedDestinations ext values = .ok destinations) :
    (∃ policy, DestinationPolicy.fromStrings ext destinations = .ok policy) ↔
      ∀ text ∈ NodeConfig.listedDestinations values, ∀ address,
        ext.parseSocket text = some address → address.ip.isUnspecified = false := by
  rw [NodeConfig.parseAllowedDestinations_eq] at hread
  have hloads : (∃ policy, DestinationPolicy.fromStrings ext destinations = .ok policy) ↔
      ∀ text ∈ destinations, ∃ address, DestinationPolicy.parse ext text = .ok address := by
    rw [← Check.exists_mapM_eq_ok]
    constructor
    · rintro ⟨_, hpolicy⟩
      obtain ⟨allowed, hallowed, -⟩ := Check.bind_eq_ok.mp hpolicy
      exact ⟨allowed, hallowed⟩
    · rintro ⟨allowed, hallowed⟩
      exact ⟨_, Check.bind_eq_ok.mpr ⟨allowed, hallowed, rfl⟩⟩
  rw [hloads]
  constructor
  · intro hparses text hlisted address haddress
    obtain ⟨_, hdestination, hprinted⟩ := Check.exists_mem_of_mapM hread hlisted
    obtain ⟨other, hother, -, rfl⟩ := NodeConfig.parseAddress_eq_ok.mp hprinted
    obtain rfl := Option.some.inj (haddress.symm.trans hother)
    obtain ⟨again, hagain⟩ := hparses _ hdestination
    obtain ⟨hread, -, hspecified⟩ := DestinationPolicy.parse_eq_ok.mp hagain
    obtain rfl := Option.some.inj ((hsockets address).symm.trans hread)
    exact hspecified
  · intro hspecified printed hdestination
    obtain ⟨text, hlisted, hprinted⟩ := Check.mem_of_mapM hread hdestination
    obtain ⟨address, haddress, hport, rfl⟩ := NodeConfig.parseAddress_eq_ok.mp hprinted
    have hspecified := hspecified text hlisted address haddress
    exact ⟨address, DestinationPolicy.parse_eq_ok.mpr
      ⟨hsockets address, of_decide_eq_false hport, hspecified⟩⟩

/-- The environment asks for a policy of destinations. -/
def UsesPolicy (values : Environment) : Prop :=
  (optional values Key.externalTestDestination).isSome ∨
    parseBoolOrDefault values Key.udpEnabled false = .ok true ∨
    parseBoolOrDefault values Key.dnsEnabled false = .ok true

theorem exists_policy (hsockets : ext.ReadsSockets)
    (hread : NodeConfig.ReadFrom ext parseIp values config) :
    (∃ policy, loadDestinationPolicy ext config = .ok policy) ↔
      (UsesPolicy values → ∀ text ∈ NodeConfig.listedDestinations values, ∀ address,
        ext.parseSocket text = some address → address.ip.isUnspecified = false) := by
  have huses : (config.externalTestDestination.isSome ∨ config.udpEnabled ∨ config.dnsEnabled) ↔
      UsesPolicy values := by
    rw [UsesPolicy, hread.udpEnabled, hread.dnsEnabled, Except.ok.injEq, Except.ok.injEq,
      NodeConfig.isSome_of_parseOptionalAddress hread.externalTestDestination]
  rw [← fromStrings_succeeds hsockets hread.allowedExitDestinations, ← huses, loadDestinationPolicy]
  split_ifs with hpolicy
  · simp only [Check.map_eq_ok, hpolicy, true_implies]
    exact ⟨fun ⟨_, policy, hloaded, _⟩ => ⟨policy, hloaded⟩,
      fun ⟨policy, hloaded⟩ => ⟨some policy, policy, hloaded, rfl⟩⟩
  · exact iff_of_true ⟨none, rfl⟩ fun hwanted => absurd hwanted hpolicy

/-- What the environment must not say for a relay to start: a heartbeat interval of zero, and an
unspecified destination for a policy that is asked for. -/
structure Startable (ext : Externals) (values : Environment) : Prop where
  heartbeat : parseU64OrDefault values Key.heartbeatIntervalSecs 10 ≠ .ok 0
  destinations : UsesPolicy values → ∀ text ∈ NodeConfig.listedDestinations values, ∀ address,
    ext.parseSocket text = some address → address.ip.isUnspecified = false

/-- A relay starts from an accepted environment exactly when its heartbeat interval is not zero and
the destinations of its policy are specified. -/
theorem startUp_succeeds_iff (hsockets : ext.ReadsSockets)
    (haccepted : NodeConfig.fromMap ext parseIp parseMultiaddr values = .ok config) :
    (∃ started next, startUp ext config () = (.ok started, next)) ↔ Startable ext values := by
  obtain ⟨hfields, hvalid⟩ := NodeConfig.fromMap_eq_ok.mp haccepted
  have hread := NodeConfig.readFrom_of_readFields hfields
  have hlimited := NodeConfig.limited_of_validate hvalid
  have hheartbeat : config.heartbeatInterval ≠ 0 ↔
      parseU64OrDefault values Key.heartbeatIntervalSecs 10 ≠ .ok 0 := by
    obtain ⟨seconds, hseconds, hinterval⟩ := hread.heartbeatInterval
    simp [hseconds, hinterval, fromSecs]
  rw [startUp_succeeds, exists_policy hsockets hread, hheartbeat]
  constructor
  · rintro ⟨-, hdestinations, hheartbeat, -⟩
    exact ⟨hheartbeat, hdestinations⟩
  · rintro ⟨hheartbeat, hdestinations⟩
    exact ⟨exists_exitHandler hlimited, hdestinations, hheartbeat,
      exists_resolver hsockets hlimited hread.dnsServer⟩

/-- The relay of an exit starts. -/
theorem startUp_succeeds_exit : ∃ config,
    NodeConfig.fromMap reference (fun _ => none) (fun _ => none) Node.environment = .ok config ∧
      ∃ started next, startUp reference config () = (.ok started, next) := by
  refine ⟨_, Node.fromMap_environment,
    (startUp_succeeds_iff reference.readsSockets Node.fromMap_environment).mpr ?_⟩
  have hlisted : NodeConfig.listedDestinations Node.environment = [Node.destinationText] := by
    decide +kernel
  constructor
  · rw [show parseU64OrDefault Node.environment Key.heartbeatIntervalSecs 10 = .ok 10 from rfl]
    exact fun hzero => absurd (Except.ok.inj hzero) (by decide)
  · intro _ text htext address haddress
    rw [hlisted] at htext
    obtain rfl := List.mem_singleton.mp htext
    obtain rfl := Option.some.inj
      ((reference.readsSockets ReferenceRelay.destination).symm.trans haddress)
    rfl

/-- A node whose heartbeats are sent without a pause. -/
def hurried : Environment := fun key => List.lookup key [
  (Key.listenAddress, "/ip4/0.0.0.0/udp/9000/quic-v1"),
  (Key.heartbeatIntervalSecs, "0")]

/-- An accepted environment that ends in a panic. -/
theorem startUp_panics : ∃ config,
    NodeConfig.fromMap reference (fun _ => none) (fun _ => none) hurried = .ok config ∧
      (startUp reference config ()).1 = .panic :=
  ⟨_, rfl, rfl⟩

end Relay
