import GhostLayer.Network.Config

/-! # What a configuration was read from

The fields of an accepted configuration come from the values of the environment,
and together they pass the checks of the record.
-/

namespace Network

open Foundation

namespace NodeConfig

variable {ext : Externals} {parseIp : String → Option IpAddr}
  {parseMultiaddr : String → Option Multiaddr} {values : Environment} {config : NodeConfig}

/-- The values that the fields of a configuration were read from. -/
structure ReadFrom (ext : Externals) (parseIp : String → Option IpAddr) (values : Environment)
    (config : NodeConfig) : Prop where
  listenAddress : required values Key.listenAddress = .ok config.listenAddress
  advertisedAddress : optional values Key.advertisedAddress = config.advertisedAddress
  networkEnvironment : parseOrDefault values Key.networkEnvironment "development"
    NetworkEnvironment.fromStr = .ok config.networkEnvironment
  heartbeatInterval : ∃ seconds, parseU64OrDefault values Key.heartbeatIntervalSecs 10 =
    .ok seconds ∧ config.heartbeatInterval = fromSecs seconds
  allowedExitDestinations : parseAllowedDestinations ext values =
    .ok config.allowedExitDestinations
  dnsEnabled : parseBoolOrDefault values Key.dnsEnabled false = .ok config.dnsEnabled
  externalTestDestination : parseExternalTestDestination ext values =
    .ok config.externalTestDestination
  osRoutes : parseOsRoutes parseIp values = .ok config.osRoutes
  dnsServer : parseDnsServer ext values = .ok config.dnsServer
  udpEnabled : parseBoolOrDefault values Key.udpEnabled false = .ok config.udpEnabled

theorem readFrom_of_readFields (hread : readFields ext parseIp values = .ok config) :
    ReadFrom ext parseIp values config := by
  -- The reads stand in the order of the record, and the first of them that fails decides.
  simp only [readFields, Check.bind_eq_ok] at hread
  obtain ⟨_, hlisten, _, henvironment, _, -, _, -, seconds, hseconds, _, -, _, -, _, -, _, -, _, -,
    _, -, _, -, _, -, _, hdestinations, _, -, _, hdns, _, hexternal, _, -, _, hroutes, _, hserver,
    _, -, _, hudp, hread⟩ := hread
  obtain ⟨_, -, _, -, _, -, _, -, _, -, _, -, _, -, _, -, _, -, _, -, hread⟩ := hread
  cases hread
  exact ⟨hlisten, rfl, henvironment, ⟨seconds, hseconds, rfl⟩, hdestinations, hdns, hexternal,
    hroutes, hserver, hudp⟩

theorem relayRole_of_readFields (hread : readFields ext parseIp values = .ok config) :
    parseOrDefault values Key.relayRole "both" RelayRole.fromStr = .ok config.relayRole := by
  simp only [readFields, Check.bind_eq_ok] at hread
  -- The role is the last of the 32 reads.
  obtain ⟨_, -, _, -, _, -, _, -, _, -, _, -, _, -, _, -, _, -, _, -, _, -, _, -, _, -, _, -, _, -,
    _, -, hread⟩ := hread
  obtain ⟨_, -, _, -, _, -, _, -, _, -, _, -, _, -, _, -, _, -, _, -, _, -, _, -, _, -, _, -, _, -,
    _, hrole, hread⟩ := hread
  cases hread
  exact hrole

theorem fromMap_eq_ok : fromMap ext parseIp parseMultiaddr values = .ok config ↔
    readFields ext parseIp values = .ok config ∧ config.validate parseMultiaddr = .ok () := by
  simp only [fromMap, Check.bind_eq_ok]
  constructor
  · rintro ⟨read, hread, _, hvalid, hsame⟩
    cases hsame
    exact ⟨hread, hvalid⟩
  · rintro ⟨hread, hvalid⟩
    exact ⟨config, hread, (), hvalid, rfl⟩

/-! ## Addresses of destinations -/

theorem parseAddress_eq_ok {key text shown canonical : String} {refused : SocketAddr → Bool} :
    parseAddress ext key text refused shown = .ok canonical ↔
      ∃ address, ext.parseSocket text = some address ∧ refused address = false ∧
        canonical = ext.socketText address := by
  simp only [parseAddress, Check.bind_eq_ok, Check.orThrow_eq_ok, Check.failWhen_eq_ok,
    exists_const, Bool.not_eq_true, pure, Except.pure, Except.ok.injEq, @eq_comm _ canonical]

/-- The destinations that the environment lists. -/
def listedDestinations (values : Environment) : List String :=
  ((optional values Key.allowedExitDestinations).map items).getD []

theorem parseAllowedDestinations_eq : parseAllowedDestinations ext values =
    (listedDestinations values).mapM fun destination =>
      parseAddress ext Key.allowedExitDestinations destination (fun address => address.port = 0)
        destination := by
  rw [parseAllowedDestinations, listedDestinations]
  cases optional values Key.allowedExitDestinations <;> rfl

/-- An address is read when its value is there. -/
theorem isSome_of_parseOptionalAddress {key : String} {parse : String → Except ConfigError String}
    {address : Option String} (hread : parseOptionalAddress values key parse = .ok address) :
    address.isSome = (optional values key).isSome := by
  rw [parseOptionalAddress] at hread
  cases htext : optional values key with
  | none =>
      rw [htext] at hread
      obtain rfl := Except.ok.inj hread
      rfl
  | some text =>
      rw [htext] at hread
      obtain ⟨_, -, rfl⟩ := Check.map_eq_ok.mp hread
      rfl

/-- The server that an accepted environment names has a port and is not unspecified. -/
theorem exists_server_of_parse {server : String}
    (hread : parseDnsServer ext values = .ok (some server)) :
    ∃ address, server = ext.socketText address ∧ address.port ≠ 0 ∧
      address.ip.isUnspecified = false := by
  rw [parseDnsServer, parseOptionalAddress] at hread
  cases htext : optional values Key.dnsServer with
  | none =>
      rw [htext] at hread
      cases hread
  | some text =>
      rw [htext] at hread
      obtain ⟨_, haddress, hsame⟩ := Check.map_eq_ok.mp hread
      obtain rfl := Option.some.inj hsame
      obtain ⟨address, -, hrefused, hcanonical⟩ := parseAddress_eq_ok.mp haddress
      simp only [decide_eq_false_iff_not, not_or, Bool.not_eq_true] at hrefused
      exact ⟨address, hcanonical, hrefused⟩

/-! ## Checks of the record -/

/-- What the checks say about limits and DNS. -/
structure Limited (config : NodeConfig) : Prop where
  mtu : config.tun.mtu ≠ 0
  maximumPacketSize : config.tun.maximumPacketSize ≠ 0
  writeBufferLimit : config.tun.writeBufferLimit ≠ 0
  dnsTimeout : config.dnsTimeout ≠ 0
  dnsServer : config.dnsEnabled = true → config.dnsServer ≠ none

theorem limited_of_validate (hvalid : config.validate parseMultiaddr = .ok ()) :
    Limited config := by
  simp only [validate, Check.bind_eq_ok, Check.failWhen_eq_ok, exists_const] at hvalid
  obtain ⟨_, htun, _, -, _, -, -, hserver, -, htimeout, -⟩ := hvalid
  simp only [TunConfig.validate, Check.bind_eq_ok, Check.failWhen_eq_ok, exists_const,
    not_or] at htun
  obtain ⟨-, ⟨hmtu, -⟩, ⟨hsize, -⟩, -, hlimit⟩ := htun
  exact ⟨hmtu, hsize, hlimit, htimeout, fun henabled hnone => hserver ⟨henabled, hnone⟩⟩

/-! ## Production -/

theorem validateQuicMultiaddr_eq_ok {address key : String} {loopback : Bool} :
    validateQuicMultiaddr parseMultiaddr address key = .ok loopback ↔
      ∃ multiaddr, parseMultiaddr address = some multiaddr ∧
        contains multiaddr.text "/udp/" = true ∧ contains multiaddr.text "/quic-v1" = true ∧
        (contains multiaddr.text "/ip4/127.0.0.1/" || contains multiaddr.text "/ip6/::1/") =
          loopback := by
  simp only [validateQuicMultiaddr, Check.bind_eq_ok, Check.orThrow_eq_ok, Check.failWhen_eq_ok,
    not_or, not_not, exists_const, pure, Except.pure, Except.ok.injEq, and_assoc]

/-- Both addresses of an accepted production environment pass the checks, and are not found to be
loopback. -/
theorem validate_production (hproduction : config.networkEnvironment = .production)
    (hvalid : config.validate parseMultiaddr = .ok ()) :
    validateQuicMultiaddr parseMultiaddr config.listenAddress Key.listenAddress = .ok false ∧
      ∃ address, config.advertisedAddress = some address ∧
        validateQuicMultiaddr parseMultiaddr address Key.advertisedAddress = .ok false := by
  simp only [validate, Check.bind_eq_ok, Check.failWhen_eq_ok, exists_const] at hvalid
  obtain ⟨_, -, _, -, _, -, -, -, -, -, -, _, henvironment, -⟩ := hvalid
  rw [validateEnvironment, if_pos hproduction] at henvironment
  simp only [validateProduction, Check.bind_eq_ok, Check.orThrow_eq_ok, Check.failWhen_eq_ok,
    exists_const, Bool.not_eq_true] at henvironment
  obtain ⟨_, hlisten, rfl, address, haddress, _, hadvertised, rfl, -⟩ := henvironment
  exact ⟨hlisten, address, haddress, hadvertised⟩

end NodeConfig

end Network
