import GhostLayer.Network.Handshake
import GhostLayer.Network.Reference
import GhostLayer.Relay.Soundness

/-! # How peers join a relay

A relay that has room accepts every handshake that an honest peer starts with
it, under a session id it has not seen, and opens a channel. A relay over the
reference instance of the dependencies shows the runs of this development to be
possible.
-/

namespace Relay

open Foundation Network

variable {ext : Externals}

namespace Node

variable {node : Node} {setup : Setup ext} {inputs : Inputs} {initiator : SessionInitiator}
  {channel : ResponseChannel}

/-- A handshake that is meant for this relay and new to it. -/
structure Joins (setup : Setup ext) (node : Node) (inputs : Inputs)
    (initiator : SessionInitiator) : Prop where
  identity : node.sessionResponder.identity = setup.identity
  expected : initiator.expectedPeer = setup.peerId
  version : initiator.protocolVersion = setup.config.protocolVersion
  valid : initiator.route.Valid
  member : setup.peerId ∈ initiator.route.peers
  negotiating : initiator.state = .negotiating
  unseen : initiator.sessionId ∉ node.sessionResponder.seenSessions
  shared : allZero (ext.diffieHellman inputs.secret (ext.ephemeralPublic initiator.secret)) = false

/-- The event that brings a handshake. -/
def joining (ext : Externals) (initiator : SessionInitiator) (channel : ResponseChannel) :
    LoopEvent :=
  .network (.discoveryRequest (ext.peerOf initiator.identity)
    ((initiator.initOf ext).toJson ext).render channel)

/-- The session of the relay with a peer that joined. -/
def joinedSession (ext : Externals) (inputs : Inputs) (initiator : SessionInitiator) :
    SecureSession :=
  deriveSession ext initiator.sessionId (ext.peerOf initiator.identity) initiator.route .responder
    (ext.diffieHellman inputs.secret (ext.ephemeralPublic initiator.secret))
    initiator.protocolVersion

def joinedResponder (node : Node) (initiator : SessionInitiator) : SessionResponder :=
  { node.sessionResponder with
    seenSessions := insert initiator.sessionId node.sessionResponder.seenSessions }

/-- The response of the relay to a peer that joined. -/
def joinedResponse (setup : Setup ext) (inputs : Inputs) (initiator : SessionInitiator) :
    HandshakeResponse :=
  handshakeResponse ext setup.identity (initiator.initOf ext) inputs.secret
    initiator.protocolVersion

theorem Joins.acceptInit (hjoins : Joins setup node inputs initiator)
    (hreads : ext.ReadsIdentities) (hsigns : ext.SignaturesVerify) :
    SessionResponder.acceptInit ext (initiator.initOf ext) (ext.peerOf initiator.identity)
        setup.config.protocolVersion inputs.secret node.sessionResponder =
      (.ok (joinedResponse setup inputs initiator, joinedSession ext inputs initiator),
        node.joinedResponder initiator) := by
  have hnew : SessionInitiator.new initiator.identity (ext.peerOf setup.identity) initiator.route
      initiator.protocolVersion initiator.sessionId initiator.secret = .ok initiator := by
    refine SessionInitiator.new_eq_ok.mpr ⟨hjoins.valid, hjoins.member, ?_⟩
    have hexpected : ext.peerOf setup.identity = initiator.expectedPeer := hjoins.expected.symm
    obtain ⟨identity, expectedPeer, route, protocolVersion, sessionId, secret, state⟩ := initiator
    rw [hexpected, ← (hjoins.negotiating : state = .negotiating)]
  have hvalid := validateInit_buildInit hreads hsigns hnew
    (SessionInitiator.buildInit_eq_ok.mpr ⟨hjoins.negotiating, rfl⟩)
  rw [← hjoins.version]
  refine SessionResponder.acceptInit_eq_ok.mpr ⟨hjoins.unseen, ?_, ?_, hjoins.shared, ?_, rfl, rfl⟩
  · rw [hjoins.identity]
    exact hvalid
  · rw [hjoins.identity]
    exact hjoins.member
  · rw [hjoins.identity]
    rfl

theorem readRequest_initOf (hparse : ext.ParsesJson) (hreads : ext.ReadsIdentities) :
    readRequest ext ((initiator.initOf ext).toJson ext).render =
      .handshake (initiator.initOf ext) := by
  simp only [readRequest, Externals.fromSlice_render hparse (HandshakeInit.readable_toJson _)
    (HandshakeInit.fromJson_toJson hreads _)]

variable (channel) in
/-- The handshake of a peer is handled by opening its session. -/
theorem Joins.handle_run (hjoins : Joins setup node inputs initiator) (hparse : ext.ParsesJson)
    (hreads : ext.ReadsIdentities) (hsigns : ext.SignaturesVerify) : ∃ state, ∀ final,
    handle ext setup inputs (joining ext initiator channel) node = (.ok (), final) ↔
      openSession ext setup inputs (initiator.initOf ext) (ext.peerOf initiator.identity) channel
        (joinedResponse setup inputs initiator) (joinedSession ext inputs initiator)
        { ({ node with state } : Node) with sessionResponder := node.joinedResponder initiator } =
          (.ok (), final) := by
  obtain ⟨state, hrun⟩ := handle_discoveryRequest ext node setup inputs
    ((initiator.initOf ext).toJson ext).render (ext.peerOf initiator.identity) channel
  refine ⟨state, fun final => ?_⟩
  rw [joining, hrun, handleRequest_run, readRequest_initOf hparse hreads]
  simp only [acceptHandshake_eq_ok (show (initiator.initOf ext).kind = "secure_session_init" from
    rfl), hjoins.acceptInit hreads hsigns]
  constructor
  · rintro (⟨_, _, hrefused, _⟩ | ⟨_, _, _, haccepted, hopen⟩)
    · cases hrefused
    · obtain ⟨hsame, rfl⟩ := Prod.mk.inj haccepted
      obtain ⟨rfl, rfl⟩ := Prod.mk.inj (Outcome.ok.inj hsame)
      exact hopen
  · intro hopen
    exact .inr ⟨_, _, _, rfl, hopen⟩

/-- What a handshake leaves behind that opened a session. -/
structure Joined (ext : Externals) (inputs : Inputs) (initiator : SessionInitiator)
    (node final : Node) : Prop where
  core : final.core = node.core.withSession initiator.sessionId
  responder : final.sessionResponder = node.joinedResponder initiator
  channels : final.channels = node.channels.insert initiator.sessionId
    (freshChannel (joinedSession ext inputs initiator))
  clients : final.clientForwarding = node.clientForwarding
  exits : final.exitForwarding = node.exitForwarding
  forwards : final.pendingClientForwards = node.pendingClientForwards
  active : final.activeExitRelaySession = node.activeExitRelaySession
  nat : final.udpNat = node.udpNat
  handler : final.exitHandler = node.exitHandler

variable (channel) in
/-- A relay that is not the entry of the route answers at once. -/
theorem Joins.joined (hjoins : Joins setup node inputs initiator) (hparse : ext.ParsesJson)
    (hreads : ext.ReadsIdentities) (hsigns : ext.SignaturesVerify)
    (htakes : node.core.TakesSession) (hopen : inputs.channelOpen = true)
    (hexit : isEntry ext setup (ext.peerOf initiator.identity) initiator.route = false) :
    ∃ final, handle ext setup inputs (joining ext initiator channel) node = (.ok (), final) ∧
      Joined ext inputs initiator node final ∧
      final.pendingRelayHandshakes = node.pendingRelayHandshakes ∧
      final.effects = node.effects ++
        [.respond channel ((joinedResponse setup inputs initiator).toJson ext).render] := by
  obtain ⟨state, hrun⟩ := hjoins.handle_run channel hparse hreads hsigns
  refine ⟨_, (hrun _).mpr ((openSession_eq_ok rfl).mpr (.inr ⟨htakes, .inr ⟨hexit, hopen, rfl⟩⟩)),
    ⟨rfl, rfl, rfl, rfl, rfl, rfl, rfl, rfl, rfl⟩, rfl, rfl⟩

variable (channel) in
/-- The entry of a route first starts a handshake with the exit. -/
theorem Joins.awaits (hjoins : Joins setup node inputs initiator) (hparse : ext.ParsesJson)
    (hreads : ext.ReadsIdentities) (hsigns : ext.SignaturesVerify)
    (htakes : node.core.TakesSession) {exit : PeerId} {exitAddress : String}
    (hroute : initiator.route = .twoHop setup.peerId exit exitAddress)
    (hrole : setup.config.relayRole ≠ .exit) :
    ∃ final, handle ext setup inputs (joining ext initiator channel) node = (.ok (), final) ∧
      Joined ext inputs initiator node final ∧
      final.pendingRelayHandshakes = node.pendingRelayHandshakes.insert inputs.relaySessionId {
        initiator := relayInitiator setup inputs exit
        clientSessionId := initiator.sessionId
        clientPeer := ext.peerOf initiator.identity
        route := initiator.route
        clientResponse := joinedResponse setup inputs initiator
        clientResponseChannel := some channel
        relayInit := (((relayInitiator setup inputs exit).initOf ext).toJson ext).render } ∧
      final.effects = node.effects ++ [.dial exitAddress] := by
  obtain ⟨state, hrun⟩ := hjoins.handle_run channel hparse hreads hsigns
  have hentry : isEntry ext setup (ext.peerOf initiator.identity)
      (initiator.initOf ext).routeContext = true := by
    simp [isEntry, SessionInitiator.initOf, hroute, hrole]
  refine ⟨_, (hrun _).mpr ((openSession_eq_ok rfl).mpr (.inr ⟨htakes, .inl ⟨setup.peerId, exit,
    exitAddress, hroute, hentry, rfl⟩⟩)), ⟨rfl, rfl, rfl, rfl, rfl, rfl, rfl, rfl, rfl⟩, rfl, rfl⟩

/-- The response of an exit to the handshake that this relay started with it. -/
def exitAnswer (setup : Setup ext) (inputs : Inputs) (exit : Keypair) (secret : Bytes32) :
    HandshakeResponse :=
  handshakeResponse ext exit ((relayInitiator setup inputs (ext.peerOf exit)).initOf ext) secret
    setup.config.protocolVersion

/-- The session of the relay with an exit that answered. -/
def relaySession (setup : Setup ext) (inputs : Inputs) (exit : Keypair) (secret : Bytes32) :
    SecureSession :=
  deriveSession ext inputs.relaySessionId (ext.peerOf exit) (.oneHop (ext.peerOf exit)) .initiator
    (ext.diffieHellman inputs.relaySecret (ext.ephemeralPublic secret)) setup.config.protocolVersion

theorem complete_exitAnswer (hreads : ext.ReadsIdentities) (hsigns : ext.SignaturesVerify)
    {exit : Keypair} {secret : Bytes32}
    (hshared : allZero (ext.diffieHellman inputs.relaySecret
      (ext.ephemeralPublic secret)) = false) :
    (relayInitiator setup inputs (ext.peerOf exit)).complete ext
      (exitAnswer setup inputs exit secret) =
      .ok (relaySession setup inputs exit secret) :=
  SessionInitiator.complete_eq_ok.mpr ⟨rfl,
    validateResponse_handshakeResponse setup.identity _ _ _ hreads hsigns rfl,
    hshared, rfl⟩

/-- The event that brings it. -/
def answering (setup : Setup ext) (inputs : Inputs) (exit : Keypair) (secret : Bytes32)
    (requestId : RequestId) : LoopEvent :=
  .network (.discoveryResponse (ext.peerOf exit) requestId
    ((exitAnswer setup inputs exit secret).toJson ext).render)

variable (setup inputs) in
/-- A client that waits for the handshake with its exit is forwarded when the exit answers. -/
theorem served (current : Inputs) (exit : Keypair) (secret : Bytes32) (requestId : RequestId)
    {pending : PendingRelayHandshake} {entry : PeerId} (hparse : ext.ParsesJson)
    (hreads : ext.ReadsIdentities) (hsigns : ext.SignaturesVerify)
    (hshared : allZero (ext.diffieHellman inputs.relaySecret (ext.ephemeralPublic secret)) = false)
    (hfound : node.pendingRelayHandshakes.lookup inputs.relaySessionId = some pending)
    (hpending : pending.initiator = relayInitiator setup inputs (ext.peerOf exit))
    (hbinds : ForwardingContext.Bindable pending.route pending.clientPeer entry (ext.peerOf exit))
    (hopen : current.channelOpen = true) :
    ∃ final, handle ext setup current (answering setup inputs exit secret requestId) node =
        (.ok (), final) ∧
      final.channels = node.channels.insert inputs.relaySessionId
        (freshChannel (relaySession setup inputs exit secret)) ∧
      final.clientForwarding = node.clientForwarding.insert pending.clientSessionId
        ⟨pending.clientPeer, .bound current.forwardingId pending.clientSessionId pending.clientPeer
          entry (ext.peerOf exit) pending.route inputs.relaySessionId, inputs.relaySessionId⟩ ∧
      final.pendingRelayHandshakes = node.pendingRelayHandshakes.erase inputs.relaySessionId ∧
      final.effects = node.effects ++ handshakeAnswer ext pending := by
  have hestablishes : Establishes ext current pending (exitAnswer setup inputs exit secret)
      (relaySession setup inputs exit secret) entry (ext.peerOf exit) :=
    ⟨by rw [hpending]; exact complete_exitAnswer hreads hsigns hshared, hbinds, fun _ => hopen⟩
  obtain ⟨state, hrun⟩ := handle_discoveryResponse ext node setup current
    ((exitAnswer setup inputs exit secret).toJson ext).render (ext.peerOf exit) requestId
  have hdecoded := Externals.fromSlice_render hparse
    (HandshakeResponse.readable_toJson (exitAnswer setup inputs exit secret))
    (HandshakeResponse.fromJson_toJson hreads _)
  exact ⟨_, hrun.trans (handleResponse_establishes hdecoded hfound hestablishes), rfl,
    rfl, rfl, rfl⟩

end Node

/-! ## A relay over the reference instance -/

namespace ReferenceRelay

def destination : SocketAddr := .v4 (Ipv4Addr.new 127 0 0 1) 7

/-- Limits of a relay on peers, sessions and flows. -/
def bounds (peers sessions flows : Nat) : RelayResourceLimits :=
  ⟨peers, sessions, flows, 1024, 64, fromSecs 300, fromSecs 60⟩

/-- A relay that reaches one destination over TCP and has a TUN device. -/
noncomputable def config (role : RelayRole) (limits : RelayResourceLimits) : NodeConfig where
  nodeId := "node"
  listenAddress := "/ip4/0.0.0.0/udp/9000/quic-v1"
  advertisedAddress := none
  networkEnvironment := .development
  logLevel := .info
  solanaRpcUrl := ""
  magicblockEndpoint := none
  identityPath := "./ghost-layer.key"
  bootstrapPeers := []
  connectionTimeout := fromSecs 10
  heartbeatInterval := fromSecs 10
  heartbeatFreshness := fromSecs 30
  degradedLatency := fromMillis 500
  softwareVersion := "0.1.0"
  protocolVersion := "1.0"
  discoveryRequiredTransport := "quic"
  discoveryRequiredCapabilities := ["relay"]
  routeMode := .twoHop
  tun := ⟨true, "ghost0", 1500, 1500, 16, 16⟩
  allowedExitDestinations := [reference.socketText destination]
  natEnabled := false
  dnsEnabled := false
  externalTestDestination := some (reference.socketText destination)
  osRoutingEnabled := false
  osRoutes := []
  dnsServer := none
  dnsTimeout := fromMillis 1000
  udpEnabled := false
  vpnMode := false
  resourceLimits := limits
  healthListenAddress := none
  relayRole := role

variable (role : RelayRole) (limits : RelayResourceLimits)

theorem parse_destination :
    DestinationPolicy.parse reference (reference.socketText destination) = .ok destination := by
  rw [DestinationPolicy.parse, reference.readsSockets]
  rfl

noncomputable def setup : Setup reference where
  config := config role limits
  identity := ⟨[2]⟩
  destinationPolicy := some ⟨[destination]⟩
  loaded := by
    simp [loadDestinationPolicy, config, DestinationPolicy.fromStrings, parse_destination,
      DestinationPolicy.new, dedup, Except.map, bind, Except.bind, pure, Except.pure]
  tunWriter := true

/-- Sockets on which every call comes back, and a stream that answers. -/
def inputs (index : UInt8) : Inputs where
  secret := Vector.replicate 32 2
  relaySessionId := ⟨Vector.replicate 16 (index + 100)⟩
  relaySecret := Vector.replicate 32 index
  forwardingId := ⟨Vector.replicate 16 (index + 200)⟩
  requestId := index.toNat
  channelOpen := true
  now := 0
  stamp := 0
  natNow := 0
  natStamp := 0
  natReturn := 0
  tcp := ⟨.ok (), .ok (), .ok (), .ok (), .ok [9], .ok ()⟩
  udp := ⟨.ok (), .ok (), .ok (), .ok (), .ok 0, .ok []⟩
  dns := ⟨.ok (), .ok (), .ok (), .ok (), .ok 0, .ok []⟩
  iteration := 0

noncomputable def started : Node where
  core := .new limits
  state := .new (setup role limits).peerId none "0.1.0"
  sessionResponder := .new ⟨[2]⟩
  channels := ∅
  pendingRelayHandshakes := ∅
  clientForwarding := ∅
  pendingClientForwards := ∅
  exitForwarding := ∅
  activeExitRelaySession := none
  udpNat := none
  exitHandler := ⟨1500, 1500, 16, [], ∅, false⟩
  contacted := []
  effects := []

theorem isStarted : Node.Started reference (setup role limits) (started role limits) where
  core := rfl
  state := rfl
  sessionResponder := rfl
  channels := rfl
  pendingRelayHandshakes := rfl
  clientForwarding := rfl
  pendingClientForwards := rfl
  exitForwarding := rfl
  activeExitRelaySession := rfl
  udpNat := by rw [if_neg (by simp [setup, config])]; rfl
  exitHandler := rfl
  contacted := rfl
  effects := rfl

/-- The relay listens. -/
noncomputable def ready : Node :=
  { started role limits with
    core := { RelayCore.new limits with lifecycle := .ready }
    state := (started role limits).state.applyNetworkEvent
      (.listening "" : NetworkEvent ResponseChannel RequestId) 0 }

theorem ready_reachable :
    (Node.loop reference (setup role limits)).Reachable (ready role limits) :=
  (System.Reachable.of_init (isStarted role limits)).tail ⟨inputs 0, .network (.listening ""), rfl⟩

/-- The handshake of a peer with the relay. -/
def initiator (peer index : UInt8) (route : RouteBinding) : SessionInitiator :=
  ⟨⟨[peer]⟩, ⟨[2]⟩, route, "1.0", ⟨Vector.replicate 16 index⟩, Vector.replicate 32 1, .negotiating⟩

theorem joins {node : Node} {peer index : UInt8} {route : RouteBinding} {current : Inputs}
    (hidentity : node.sessionResponder.identity = ⟨[2]⟩)
    (hunseen : ⟨Vector.replicate 16 index⟩ ∉ node.sessionResponder.seenSessions)
    (hvalid : route.Valid) (hmember : ⟨[2]⟩ ∈ route.peers)
    (hsecret : current.secret = Vector.replicate 32 2) :
    Node.Joins (setup role limits) node current (initiator peer index route) where
  identity := hidentity
  expected := rfl
  version := rfl
  valid := hvalid
  member := hmember
  negotiating := rfl
  unseen := hunseen
  shared := by
    rw [hsecret]
    show allZero (reference.diffieHellman (Vector.replicate 32 2) (Vector.replicate 32 1)) = false
    decide +kernel

end ReferenceRelay

end Relay
