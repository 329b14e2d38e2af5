import GhostLayer.Client.Steps
import GhostLayer.Network.Handshake
import GhostLayer.Network.Reference
import GhostLayer.Relay.MetadataLaws

/-! # How a client joins a route

A client that is shown enough relays starts a handshake with the first relay of
its route, an honest relay completes it, and the packets of the TUN device are
then sent over the session. A client over the reference instance of the
dependencies shows the runs of this development to be possible.
-/

namespace Client

open Foundation Network Relay

variable {ext : Externals}

namespace Engine

variable {setup : Setup} {inputs : Inputs} {engine : Engine} {peerId : PeerId}
  {requestId : RequestId} {payload : Bytes} {metadata : RelayMetadata} {candidate : RelayCandidate}

theorem handle_report
    (hresponse : ext.fromSlice (HandshakeResponse.fromJson ext) payload = none)
    (hmessage : ext.fromSlice (ForwardingMessage.fromJson ext) payload = none)
    (hmetadata : RelayMetadata.fromSlice ext payload = .ok metadata) :
    handle ext setup inputs (.network (.discoveryResponse peerId requestId payload)) engine =
      considerRelay ext setup inputs metadata engine := by
  show handleResponse ext setup inputs payload engine = _
  simp only [handleResponse, hresponse, hmessage, hmetadata]

/-- A relay that makes no route with the relays known before is kept. -/
theorem considerRelay_kept {reason : RouteSelectionError}
    (haccepted : RelayCandidate.fromMetadata setup.parseMultiaddr metadata setup.requirements
      inputs.checkedAt = .ok candidate)
    (hselected : RouteSelector.select ext (ext.peerOf setup.identity)
      (RelayRanking.rank ext (engine.candidates ++ [candidate]) inputs.rankedAt)
      setup.routePolicy inputs.selectedAt = .error reason) :
    considerRelay ext setup inputs metadata engine =
      (.ok (), { engine with candidates := engine.candidates ++ [candidate] }) := by
  simp only [considerRelay, haccepted, Fallible.modify_bind_run, Fallible.get_bind_run, hselected]
  rfl

/-- A route that was found begins a session. -/
theorem considerRelay_begins {route : Route} {initiator : SessionInitiator}
    (haccepted : RelayCandidate.fromMetadata setup.parseMultiaddr metadata setup.requirements
      inputs.checkedAt = .ok candidate)
    (hselected : RouteSelector.select ext (ext.peerOf setup.identity)
      (RelayRanking.rank ext (engine.candidates ++ [candidate]) inputs.rankedAt)
      setup.routePolicy inputs.selectedAt = .ok route)
    (hfree : engine.pendingSession = none)
    (hstarts : SessionInitiator.new setup.identity (bindingOf route).1 (bindingOf route).2
      setup.protocolVersion inputs.sessionId inputs.secret = .ok initiator) :
    considerRelay ext setup inputs metadata engine =
      (.ok (), { engine with
        candidates := engine.candidates ++ [candidate]
        pendingSession := some initiator }.withEffect
          (.request (bindingOf route).1 ((initiator.initOf ext).toJson ext).render)) := by
  have hbuilt : initiator.buildInit ext = .ok (initiator.initOf ext) := by
    obtain ⟨_, _, rfl⟩ := SessionInitiator.new_eq_ok.mp hstarts
    rfl
  simp only [considerRelay, haccepted, Fallible.modify_bind_run, Fallible.get_bind_run, hselected,
    startSession, hfree, Option.isNone_none, if_true, hstarts, hbuilt]
  rfl

/-- The session of a client with a relay that answers its handshake. -/
def answeredSession (ext : Externals) (initiator : SessionInitiator) (secret : Bytes32) :
    SecureSession :=
  deriveSession ext initiator.sessionId initiator.expectedPeer initiator.route .initiator
    (ext.diffieHellman initiator.secret (ext.ephemeralPublic secret)) initiator.protocolVersion

variable (setup inputs peerId requestId) in
/-- An honest relay that answers a handshake completes it. -/
theorem handle_answer (relay : Keypair) (secret : Bytes32) {initiator : SessionInitiator}
    (hparse : ext.ParsesJson) (hreads : ext.ReadsIdentities) (hsigns : ext.SignaturesVerify)
    (hpending : engine.pendingSession = some initiator)
    (hexpected : initiator.expectedPeer = ext.peerOf relay)
    (hnegotiating : initiator.state = .negotiating)
    (hshared : allZero (ext.diffieHellman initiator.secret (ext.ephemeralPublic secret)) = false) :
    handle ext setup inputs (.network (.discoveryResponse peerId requestId
        ((handshakeResponse ext relay (initiator.initOf ext) secret
          initiator.protocolVersion).toJson ext).render)) engine =
      (.ok (), engine.withSession (answeredSession ext initiator secret)) := by
  have hdecoded := Externals.fromSlice_render hparse
    (HandshakeResponse.readable_toJson (handshakeResponse ext relay (initiator.initOf ext) secret
      initiator.protocolVersion))
    (HandshakeResponse.fromJson_toJson hreads _)
  have hcompletes : initiator.complete ext
    (handshakeResponse ext relay (initiator.initOf ext) secret
      initiator.protocolVersion) = .ok (answeredSession ext initiator secret) := by
    refine SessionInitiator.complete_eq_ok.mpr ⟨hnegotiating, ?_, hshared, rfl⟩
    rw [hexpected]
    exact validateResponse_handshakeResponse initiator.identity _ _ _ hreads hsigns rfl
  show handleResponse ext setup inputs _ engine = _
  simp only [handleResponse, hdecoded, completeSession]
  rw [if_pos (show (handshakeResponse ext relay (initiator.initOf ext) secret
    initiator.protocolVersion).kind = "secure_session_response" from rfl)]
  simp only [Fallible.get_bind_run, hpending, Fallible.modify_bind_run, hcompletes]
  rfl

variable (setup inputs) in
/-- A packet is sent over the session when the channel seals it. -/
theorem handle_sends {packet frame : Bytes} {item : Outgoing} {channel next : EncryptedChannel}
    {route : RouteBinding} {exit : PeerId} {sessionId : SessionId}
    (hitem : outgoing packet = some item) (hactive : engine.activeChannel = some channel)
    (hroute : engine.activeRoute = some route) (hexit : engine.exitPeer = some exit)
    (hsession : engine.currentSessionId = some sessionId)
    (hopen : DataPlane.open defaultMaximumPayloadSize channel = (.ok (), channel))
    (hsends : DataPlane.send ext defaultMaximumPayloadSize item.payload channel =
      (.ok frame, next)) :
    handle ext setup inputs (.tun packet) engine =
      (.ok (), { engine with activeChannel := some next }.withEffect
        (.request exit ((messageFor ext setup route sessionId frame item).toJson ext).render)) := by
  have hforward : forward ext setup channel route exit sessionId item.protocol item.sourcePort
      item.destination item.payload engine =
        (.ok (), { engine with activeChannel := some next }.withEffect
          (.request exit ((messageFor ext setup route sessionId frame item).toJson
            ext).render)) := by
    simp only [forward, sendOn, onChannel, Fallible.bind_run, hopen, hsends]
    rfl
  show handleTun ext setup packet engine = _
  rw [← hforward, handleTun, Fallible.get_bind_run]
  simp only [hactive, hroute, hexit, hsession]
  rw [outgoing] at hitem
  rcases hdns : extractDnsPayload packet with _ | ⟨destination, sourcePort, query⟩
  · by_cases hlong : 20 ≤ packet.length
    · simp only [hdns, if_pos hlong, Option.some.injEq] at hitem
      subst hitem
      simp [Fallible.orPanic, hlong]
    · simp [hdns, hlong] at hitem
  · simp only [hdns, Option.some.injEq] at hitem
    subst hitem
    simp [Fallible.orPanic]

end Engine

/-! ## A client over the reference instance -/

namespace ReferenceClient

def setup (mode : RouteMode) : Setup where
  identity := ⟨[1]⟩
  protocolVersion := "1.0"
  discoveryRequiredTransport := "quic"
  discoveryRequiredCapabilities := ["relay"]
  heartbeatFreshness := 30 * 10 ^ 9
  routeMode := mode
  tunWriter := true
  parseMultiaddr text := some ⟨text⟩

def inputs : Inputs := ⟨⟨Vector.replicate 16 7⟩, Vector.replicate 32 1, 0, 0, 0⟩

def address : String := "/ip4/127.0.0.1/udp/9000/quic-v1"

/-- What a relay reports of itself. -/
def metadata (peer : UInt8) : RelayMetadata where
  peerId := ⟨[peer]⟩
  protocolVersion := "1.0"
  softwareVersion := ""
  supportedTransports := ["quic"]
  capabilities := ["quic", "relay"]
  listeningAddress := some address
  advertisedAddress := none
  status := .online
  health := .healthy
  latencyMs := none
  timestamp := 0
  lastHeartbeat := none

def candidate (peer : UInt8) : RelayCandidate where
  peerId := ⟨[peer]⟩
  address := ⟨address⟩
  status := .online
  health := .healthy
  latency := none
  capabilities := ["quic", "relay"]
  protocolVersion := "1.0"
  softwareVersion := ""
  lastSeen := 0

noncomputable def reportValues (peer : UInt8) : List Json :=
  [.str (reference.peerText ⟨[peer]⟩), .str "1.0", .str "", .arr [.str "quic"],
    .arr [.str "quic", .str "relay"], .str address, .null, .str "Online", .str "Healthy", .null,
    .num 0, .null]

noncomputable def report (peer : UInt8) : Json :=
  .obj (RelayMetadata.fieldNames.zip (reportValues peer))

theorem report_eq (peer : UInt8) : (metadata peer).toJson reference = some (report peer) := by
  simp [RelayMetadata.toJson, metadata, unixTimestamp, report, reportValues, Serde.ofNullable,
    RelayStatus.toJson, HealthClass.toJson]

theorem metadata_writable (peer : UInt8) : (metadata peer).Writable where
  timestamp := ⟨by simp [metadata], by simp [metadata]⟩
  lastHeartbeat := nofun

theorem parse_report (peer : UInt8) :
    reference.parseJson (report peer).render = some (report peer) :=
  invert_apply Json.render_injective _

theorem fromSlice_report (peer : UInt8) :
    RelayMetadata.fromSlice reference (report peer).render = .ok (metadata peer) :=
  (metadata_writable peer).fromSlice_toJson reference.parsesJson reference.readsIdentities
    (report_eq peer)

/-- The client takes what a relay reports. -/
theorem handle_report (mode : RouteMode) (engine : Engine) (peer : UInt8) :
    Engine.handle reference (setup mode) inputs
        (.network (.discoveryResponse ⟨[peer]⟩ 0 (report peer).render)) engine =
      Engine.considerRelay reference (setup mode) inputs (metadata peer) engine := by
  refine Engine.handle_report ?_ ?_ (fromSlice_report peer)
  · rw [Externals.fromSlice, parse_report]
    rfl
  · rw [Externals.fromSlice, parse_report]
    exact ForwardingMessage.fromJson_missing rfl

theorem accepts (mode : RouteMode) (peer : UInt8) :
    RelayCandidate.fromMetadata (setup mode).parseMultiaddr (metadata peer)
      (setup mode).requirements inputs.checkedAt = .ok (candidate peer) := rfl

theorem eligible (mode : RouteMode) {peer : UInt8} (hforeign : peer ≠ 1) :
    RouteSelector.eligible (reference.peerOf (setup mode).identity) (setup mode).routePolicy
      (candidate peer) = true := by
  have hpeer : (⟨[peer]⟩ : PeerId) ≠ ⟨[1]⟩ := by simpa using hforeign
  simp only [RouteSelector.eligible, decide_eq_true_eq]
  exact ⟨hpeer, rfl, rfl, show contains address "/quic-v1" = true by decide,
    by simp [candidate, setup, Setup.routePolicy], by simp [candidate, setup, Setup.routePolicy]⟩

/-- Relays that differ in their peers only are in the order of these. -/
theorem rank_pair (now : Int) :
    RelayRanking.rank reference [candidate 2, candidate 3] now = [candidate 2, candidate 3] := by
  have horder : RelayRanking.compareTexts (reference.peerText ⟨[2]⟩) (reference.peerText ⟨[3]⟩) ≠
      .gt := by decide
  refine List.mergeSort_of_pairwise ?_
  simpa [List.pairwise_cons, RelayRanking.compare, candidate, compareOfLessAndEq] using horder

/-- The route to the relays that the client is shown. -/
def route : RouteMode → RouteBinding
  | .oneHop => .oneHop ⟨[2]⟩
  | .twoHop => .twoHop ⟨[2]⟩ ⟨[3]⟩ address

def initiator (mode : RouteMode) : SessionInitiator :=
  ⟨⟨[1]⟩, ⟨[2]⟩, route mode, "1.0", inputs.sessionId, inputs.secret, .negotiating⟩

theorem starts (mode : RouteMode) (first : PeerId) (hfirst : first = ⟨[2]⟩) :
    SessionInitiator.new (setup mode).identity first (route mode) (setup mode).protocolVersion
      inputs.sessionId inputs.secret = .ok (initiator mode) := by
  subst hfirst
  cases mode <;> rfl

theorem selects_oneHop :
    RouteSelector.select reference (reference.peerOf (setup .oneHop).identity)
      (RelayRanking.rank reference [candidate 2] inputs.rankedAt) (setup .oneHop).routePolicy
      inputs.selectedAt = .ok (.oneHop (.ofCandidate (candidate 2))) := by
  simp [RelayRanking.rank, RouteSelector.select, eligible]
  rfl

theorem selects_none :
    RouteSelector.select reference (reference.peerOf (setup .twoHop).identity)
      (RelayRanking.rank reference [candidate 2] inputs.rankedAt) (setup .twoHop).routePolicy
      inputs.selectedAt = .error (.insufficientRelays 1) := by
  simp [RelayRanking.rank, RouteSelector.select, eligible]
  rfl

theorem selects_twoHop :
    RouteSelector.select reference (reference.peerOf (setup .twoHop).identity)
      (RelayRanking.rank reference [candidate 2, candidate 3] inputs.rankedAt)
      (setup .twoHop).routePolicy inputs.selectedAt =
        .ok (.twoHop (.ofCandidate (candidate 2)) (.ofCandidate (candidate 3))) := by
  rw [rank_pair, RouteSelector.select]
  simp [rank_pair, eligible]
  rfl

/-- The handshake that the client sends to the first relay of its route. -/
noncomputable def handshake (mode : RouteMode) : Effect :=
  .request ⟨[2]⟩ (((initiator mode).initOf reference).toJson reference).render

/-- The client begins a session over its route. -/
theorem begins (mode : RouteMode) : ∃ engine,
    (Engine.loop reference (setup mode)).Reachable engine ∧
      engine.pendingSession = some (initiator mode) ∧ engine.effects = [handshake mode] := by
  have hstart := System.Reachable.of_init (show (Engine.loop reference (setup mode)).init
    Engine.new from rfl)
  cases mode with
  | oneHop =>
      have hbegins : Engine.considerRelay reference (setup .oneHop) inputs (metadata 2) Engine.new =
          (.ok (), _) :=
        Engine.considerRelay_begins (accepts .oneHop 2) selects_oneHop rfl (starts .oneHop _ rfl)
      exact ⟨_, hstart.tail ⟨inputs, _, (handle_report _ _ 2).trans hbegins⟩, rfl, rfl⟩
  | twoHop =>
      have hkept : Engine.considerRelay reference (setup .twoHop) inputs (metadata 2) Engine.new =
          (.ok (), _) :=
        Engine.considerRelay_kept (accepts .twoHop 2) selects_none
      have hmet := hstart.tail ⟨inputs, _, (handle_report _ _ 2).trans hkept⟩
      have hbegins : Engine.considerRelay reference (setup .twoHop) inputs (metadata 3)
          { Engine.new with candidates := [candidate 2] } = (.ok (), _) :=
        Engine.considerRelay_begins (accepts .twoHop 3) selects_twoHop rfl (starts .twoHop _ rfl)
      exact ⟨_, hmet.tail ⟨inputs, _, (handle_report _ _ 3).trans hbegins⟩, rfl, rfl⟩

noncomputable def session (mode : RouteMode) : SecureSession :=
  Engine.answeredSession reference (initiator mode) (Vector.replicate 32 2)

/-- The session is established when the relay answers. -/
theorem joins (mode : RouteMode) : ∃ engine : Engine,
    (Engine.loop reference (setup mode)).Reachable (engine.withSession (session mode)) ∧
      engine.effects = [handshake mode] := by
  obtain ⟨engine, hreach, hpending, heffects⟩ := begins mode
  have hshared : allZero (reference.diffieHellman (Vector.replicate 32 1) (Vector.replicate 32 2)) =
      false := by decide +kernel
  have hanswer := Engine.handle_answer (setup mode) inputs ⟨[2]⟩ 0 ⟨[2]⟩ (Vector.replicate 32 2)
    reference.parsesJson reference.readsIdentities reference.signaturesVerify hpending rfl rfl
    hshared
  exact ⟨engine, hreach.tail ⟨inputs, _, hanswer⟩, heffects⟩

/-- A DNS query without content. -/
def query : Bytes :=
  [0x45, 0, 0, 28, 0, 0, 0x40, 0, 64, 17, 0, 0, 10, 8, 0, 1, 8, 8, 8, 8,
    0x30, 0x39, 0, 53, 0, 8, 0, 0]

/-- The channel after a number of queries. -/
noncomputable def channelAfter (mode : RouteMode) : Nat → EncryptedChannel
  | 0 => Node.freshChannel (session mode)
  | count + 1 => (DataPlane.send reference defaultMaximumPayloadSize [] (channelAfter mode count)).2

/-- Eight queries fit into the queue of the channel. -/
theorem seals (mode : RouteMode) : ∀ count < 8,
    (DataPlane.send reference defaultMaximumPayloadSize [] (channelAfter mode count)).1.IsOk := by
  cases mode <;> decide +kernel

/-- The client with a session on which queries were sent. -/
structure Established (mode : RouteMode) (count : Nat) (engine : Engine) : Prop where
  reachable : (Engine.loop reference (setup mode)).Reachable engine
  channel : engine.activeChannel = some (channelAfter mode count)
  along : engine.activeRoute = some (route mode)
  exit : engine.exitPeer = some (Engine.exitOf (route mode))
  session : engine.currentSessionId = some inputs.sessionId

/-- The message for a query over the session. -/
noncomputable def message (mode : RouteMode) (frame : Bytes) : ForwardingMessage :=
  Engine.messageFor reference (setup mode) (route mode) inputs.sessionId frame
    ⟨.dns, 12345, .v4 (Ipv4Addr.new 8 8 8 8) 53, []⟩

/-- One more query is sent. -/
theorem Established.sends {mode : RouteMode} {count : Nat} {engine : Engine}
    (hestablished : Established mode count engine) (hcount : count < 8) : ∃ frame final,
      Engine.handle reference (setup mode) inputs (.tun query) engine = (.ok (), final) ∧
      final.effects = engine.effects ++ [.request (Engine.exitOf (route mode))
        ((message mode frame).toJson reference).render] ∧
      Established mode (count + 1) final := by
  obtain ⟨frame, next, hsends⟩ := Fallible.isOk_iff.mp (seals mode count hcount)
  have hopen : DataPlane.open defaultMaximumPayloadSize (channelAfter mode count) =
      (.ok (), channelAfter mode count) :=
    DataPlane.open_eq_ok.mpr ⟨⟨(DataPlane.send_isOk.mp (seals mode count hcount)).established,
      by decide⟩, rfl⟩
  have hitem : outgoing query = some ⟨.dns, 12345, .v4 (Ipv4Addr.new 8 8 8 8) 53, []⟩ := rfl
  have hrun := Engine.handle_sends (setup mode) inputs hitem hestablished.channel
    hestablished.along hestablished.exit hestablished.session hopen hsends
  refine ⟨frame, _, hrun, rfl, hestablished.reachable.tail ⟨_, _, hrun⟩, ?_, hestablished.along,
    hestablished.exit, hestablished.session⟩
  rw [channelAfter, hsends]
  rfl

/-- A session on which nothing was sent. -/
theorem established_begun (mode : RouteMode) : ∃ engine, Established mode 0 engine ∧
    engine.effects = [handshake mode] := by
  obtain ⟨engine, hreach, heffects⟩ := joins mode
  exact ⟨_, ⟨hreach, rfl, rfl, rfl, rfl⟩, heffects⟩

theorem established (mode : RouteMode) : ∃ engine, Established mode 0 engine := by
  obtain ⟨engine, hestablished, _⟩ := established_begun mode
  exact ⟨engine, hestablished⟩

/-- The client sends as many queries as fit into the queue. -/
theorem established_after (mode : RouteMode) {count : Nat} (hcount : count ≤ 8) :
    ∃ engine, Established mode count engine := by
  induction count with
  | zero => exact established mode
  | succ count ih =>
      obtain ⟨engine, hestablished⟩ := ih (by omega)
      obtain ⟨_, final, _, _, hfinal⟩ := hestablished.sends (by omega)
      exact ⟨final, hfinal⟩

end ReferenceClient

end Client
