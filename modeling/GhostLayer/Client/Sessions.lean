import GhostLayer.Client.Carrying
import GhostLayer.Client.Endings
import GhostLayer.Client.Joining
import GhostLayer.Relay.Admission
import GhostLayer.Relay.Dialing

/-! # A session over two relays

The handshake of a client comes to its entry, which opens a session with the exit
before it answers. The client and the entry, and the entry and the exit, are then
the two ends of a session each. The client sends its packet over them, and
finishes on the answer that it waits for.
-/

namespace Client

open Foundation Network Relay

variable {ext : Externals}

/-! ## What a session needs -/

/-- What the platform gives to the entry when the handshake comes, when the exit connects and when
the exit has answered, and to the exit in between. -/
structure Openings where
  accepting : Relay.Inputs
  greeting : Relay.Inputs
  joining : Relay.Inputs
  completing : Relay.Inputs

section Statement

variable (parties : Parties ext) (initiator : SessionInitiator) (openings : Openings)

/-- The handshake of the entry with the exit. -/
def entryInitiator : SessionInitiator :=
  Node.relayInitiator parties.entry openings.accepting parties.exit.peerId

def flowOf (exitAddress : String) : Flow where
  forwardingId := openings.completing.forwardingId
  clientSessionId := initiator.sessionId
  clientPeer := ext.peerOf initiator.identity
  entryPeer := parties.entry.peerId
  exitAddress
  relaySessionId := openings.accepting.relaySessionId

def endsOf : Ends where
  client := Node.freshChannel (Engine.answeredSession ext initiator openings.accepting.secret)
  near := Node.freshChannel (Node.joinedSession ext openings.accepting initiator)
  far := Node.freshChannel (Node.relaySession parties.entry openings.accepting
    parties.exit.identity openings.joining.secret)
  exit := Node.freshChannel (Node.joinedSession ext openings.joining
    (entryInitiator parties openings))

/-- A client and two relays that have room for its session. No other client waits for the exit. -/
structure CanOpen (exitAddress : String) (circuit : Circuit) : Prop where
  route : initiator.route = .twoHop parties.entry.peerId parties.exit.peerId exitAddress
  joins : Node.Joins parties.entry circuit.entry.node openings.accepting initiator
  joinsExit : Node.Joins parties.exit circuit.exit.node openings.joining
    (entryInitiator parties openings)
  takes : circuit.entry.node.core.TakesSession
  takesExit : circuit.exit.node.core.TakesSession
  role : parties.entry.config.relayRole ≠ .exit
  roleExit : parties.exit.config.relayRole ≠ .entry
  alone : ∀ pending, ¬ circuit.entry.node.WaitsFor parties.exit.peerId pending
  apart : initiator.sessionId ≠ openings.accepting.relaySessionId
  notEntry : ext.peerOf initiator.identity ≠ parties.entry.peerId
  notExit : ext.peerOf initiator.identity ≠ parties.exit.peerId
  answering : openings.joining.channelOpen = true
  completing : openings.completing.channelOpen = true
  accepted : circuit.Unused parties openings.accepting.requestId
  greeted : circuit.Unused parties openings.greeting.requestId
  completed : circuit.Unused parties openings.completing.requestId
  numbered : openings.completing.requestId ≠ openings.greeting.requestId

/-- What has happened when both sessions are open. -/
structure Opened (exitAddress : String) (channel : ResponseChannel) (circuit opened : Circuit) :
    Prop where
  steps : (Circuit.system parties).Steps circuit opened
  running : opened.Running
  ready : Ready parties.entry parties.exit (flowOf parties initiator openings exitAddress)
    (endsOf parties initiator openings) opened.entry.node opened.exit.node
  effects : opened.entry.node.effects = circuit.entry.node.effects ++ [.dial exitAddress,
    .request openings.greeting.requestId parties.exit.peerId
      (((entryInitiator parties openings).initOf ext).toJson ext).render,
    .respond channel ((Node.joinedResponse parties.entry openings.accepting
      initiator).toJson ext).render]
  effectsExit : opened.exit.node.effects = circuit.exit.node.effects ++ [.respond
    ⟨parties.entry.peerId, openings.greeting.requestId⟩ ((Node.joinedResponse parties.exit
      openings.joining (entryInitiator parties openings)).toJson ext).render]
  room : ∀ flow, opened.entry.node.core.HasRoom flow ↔ circuit.entry.node.core.HasRoom flow
  roomExit : ∀ flow, opened.exit.node.core.HasRoom flow ↔ circuit.exit.node.core.HasRoom flow
  flows : opened.exit.node.exitForwarding = circuit.exit.node.exitForwarding
  nat : opened.exit.node.udpNat = circuit.exit.node.udpNat
  sent : opened.sent = circuit.sent
  unused : ∀ requestId, requestId ≠ openings.greeting.requestId →
    circuit.Unused parties requestId → opened.Unused parties requestId

end Statement

/-! ## The steps of the relays -/

theorem hasRoom_withSession (core : RelayCore) (session flow : SessionId) :
    (core.withSession session).HasRoom flow ↔ core.HasRoom flow := Iff.rfl

theorem hasRoom_noted (core : RelayCore) (peer : PeerId) (flow : SessionId) :
    (core.noted peer).HasRoom flow ↔ core.HasRoom flow := by
  unfold RelayCore.noted
  split_ifs <;> rfl

variable {parties : Parties ext} {initiator : SessionInitiator} {openings : Openings}
  {exitAddress : String} {circuit : Circuit}

variable (parties initiator openings) in
/-- The client has a session with the entry, and the entry one with the exit. -/
theorem endsOf_paired (hcommutes : ext.DiffieHellmanCommutes) :
    DataPlane.Paired (endsOf parties initiator openings).client
        (endsOf parties initiator openings).near ∧
      DataPlane.Paired (endsOf parties initiator openings).far
        (endsOf parties initiator openings).exit := by
  constructor
  · refine DataPlane.paired_of_open initiator.sessionId (ext.peerOf initiator.identity)
      initiator.expectedPeer initiator.route _ initiator.protocolVersion
      (Program.freshChannel_open rfl) ?_
    rw [hcommutes]
    exact Program.freshChannel_open rfl
  · refine DataPlane.paired_of_open openings.accepting.relaySessionId parties.entry.peerId
      parties.exit.peerId (.oneHop parties.exit.peerId) _ parties.entry.config.protocolVersion
      (Program.freshChannel_open rfl) ?_
    rw [hcommutes]
    exact Program.freshChannel_open rfl

/-- The only handshake that waits for the exit is the new one. -/
theorem CanOpen.waitingFor {node : Node} {pending : PendingRelayHandshake}
    (hcan : CanOpen parties initiator openings exitAddress circuit)
    (hpending : node.pendingRelayHandshakes = circuit.entry.node.pendingRelayHandshakes.insert
      openings.accepting.relaySessionId pending)
    (hroute : pending.route = initiator.route) :
    Node.waitingFor openings.greeting parties.exit.peerId node = some pending := by
  have hfound : node.pendingRelayHandshakes.lookup openings.accepting.relaySessionId =
      some pending := hpending ▸ AList.lookup_insert _
  have hwaits : node.WaitsFor parties.exit.peerId pending :=
    ⟨⟨_, hfound⟩, by rw [hroute, hcan.route]; rfl⟩
  obtain ⟨first, hfirst⟩ := hwaits.waitingFor openings.greeting
  obtain ⟨⟨sessionId, hlookup⟩, hexit⟩ := Node.waitsFor_of_waitingFor hfirst
  by_cases hsame : sessionId = openings.accepting.relaySessionId
  · subst hsame
    obtain rfl := Option.some.inj (hfound.symm.trans hlookup)
    exact hfirst
  · rw [hpending, AList.lookup_insert_ne hsame] at hlookup
    exact absurd ⟨⟨sessionId, hlookup⟩, hexit⟩ (hcan.alone first)

/-- The entry sends its handshake to the exit that connects. -/
theorem CanOpen.greets {node : Node} {pending : PendingRelayHandshake}
    (hcan : CanOpen parties initiator openings exitAddress circuit)
    (hpending : node.pendingRelayHandshakes = circuit.entry.node.pendingRelayHandshakes.insert
      openings.accepting.relaySessionId pending)
    (hroute : pending.route = initiator.route) :
    ∃ next, Node.handle ext parties.entry openings.greeting
        (.network (.peerConnected parties.exit.peerId)) node = (.ok (), next) ∧
      next.core = node.core.noted parties.exit.peerId ∧
      next.channels = node.channels ∧
      next.pendingRelayHandshakes = node.pendingRelayHandshakes ∧
      next.effects = node.effects ++
        [.request openings.greeting.requestId parties.exit.peerId pending.relayInit] := by
  obtain ⟨state, hrun⟩ := Node.handle_greeted ext parties.entry (hcan.waitingFor hpending hroute)
  exact ⟨_, hrun, rfl, rfl, rfl, rfl⟩

/-- The entry completes its handshake with the exit and answers the client. -/
theorem CanOpen.completes (node : Node) {pending : PendingRelayHandshake} (requestId : RequestId)
    (hparse : ext.ParsesJson) (hreads : ext.ReadsIdentities) (hsigns : ext.SignaturesVerify)
    (hcommutes : ext.DiffieHellmanCommutes)
    (hcan : CanOpen parties initiator openings exitAddress circuit)
    (hfound : node.pendingRelayHandshakes.lookup openings.accepting.relaySessionId = some pending)
    (hinitiator : pending.initiator = entryInitiator parties openings)
    (hroute : pending.route = initiator.route)
    (hclient : pending.clientPeer = ext.peerOf initiator.identity) :
    ∃ state, Node.handle ext parties.entry openings.completing
        (.network (.discoveryResponse parties.exit.peerId requestId ((Node.joinedResponse
          parties.exit openings.joining (entryInitiator parties openings)).toJson ext).render))
        node =
      (.ok (), { ({ node with state } : Node).established openings.completing pending
          (Node.relaySession parties.entry openings.accepting parties.exit.identity
            openings.joining.secret) parties.entry.peerId parties.exit.peerId with
        pendingRelayHandshakes :=
          node.pendingRelayHandshakes.erase openings.accepting.relaySessionId
        effects := node.effects ++ Node.handshakeAnswer ext pending }) := by
  have hshared := hcan.joinsExit.shared
  rw [hcommutes] at hshared
  obtain ⟨state, hrun⟩ := Node.handle_discoveryResponse ext node parties.entry openings.completing
    ((Node.joinedResponse parties.exit openings.joining
      (entryInitiator parties openings)).toJson ext).render parties.exit.peerId requestId
  have hdecoded := Externals.fromSlice_render hparse (HandshakeResponse.readable_toJson
      (Node.joinedResponse parties.exit openings.joining (entryInitiator parties openings)))
    (HandshakeResponse.fromJson_toJson hreads _)
  have hestablishes : Node.Establishes ext openings.completing pending
      (Node.joinedResponse parties.exit openings.joining (entryInitiator parties openings))
      (Node.relaySession parties.entry openings.accepting parties.exit.identity
        openings.joining.secret) parties.entry.peerId parties.exit.peerId :=
    ⟨by rw [hinitiator]; exact Node.complete_exitAnswer hreads hsigns hshared,
      ⟨⟨exitAddress, hroute.trans hcan.route⟩, parties.distinct, hclient ▸ hcan.notEntry,
        hclient ▸ hcan.notExit⟩, fun _ => hcan.completing⟩
  exact ⟨state, hrun.trans (Node.handleResponse_establishes hdecoded hfound hestablishes)⟩

theorem made_handshake (hparse : ext.ParsesJson) (hreads : ext.ReadsIdentities) (client : PeerId) :
    circuit.Made ext client ((initiator.initOf ext).toJson ext).render := by
  intro envelope hdata
  rw [Node.readRequest_initOf hparse hreads] at hdata
  cases hdata

/-- The handshake of a client with an entry ends in a session over both relays. -/
theorem CanOpen.opened {channel : ResponseChannel} (hparse : ext.ParsesJson)
    (hreads : ext.ReadsIdentities) (hsigns : ext.SignaturesVerify)
    (hcommutes : ext.DiffieHellmanCommutes)
    (hreach : (Circuit.system parties).Reachable circuit) (hrunning : circuit.Running)
    (hcan : CanOpen parties initiator openings exitAddress circuit)
    (hchannel : channel.peer = ext.peerOf initiator.identity) :
    ∃ opened, Opened parties initiator openings exitAddress channel circuit opened := by
  have htraced := Circuit.traced_of_reachable hreach
  -- The entry takes the handshake and dials the exit.
  obtain ⟨first, haccepting, hjoined, hpending, heffects⟩ := hcan.joins.awaits channel hparse hreads
    hsigns hcan.takes hcan.route hcan.role
  have hdialed := Circuit.emitted_of_effects htraced.entry.now.sound haccepting heffects
  have hfirst := Circuit.step_atEntry circuit hrunning hcan.accepted
    (.asked hchannel hcan.notEntry (made_handshake hparse hreads _)) haccepting
  have htraced₁ := Circuit.traced_of_reachable (hreach.tail hfirst)
  -- The exit connects, and the entry sends it a handshake.
  obtain ⟨second, hgreeting, hcore, hchannels, hwaiting, hrequest⟩ := hcan.greets hpending rfl
  have hgreeted := Circuit.emitted_of_effects htraced₁.entry.now.sound hgreeting hrequest
  have hsecond := Circuit.step_atEntry (circuit.atEntry openings.accepting _ first)
    ⟨rfl, hrunning.exit⟩ (hcan.greeted.atEntry first hdialed (by simp)) (.connected _) hgreeting
  -- The exit takes it and answers.
  obtain ⟨joined, hjoining, hjoinedExit, -, heffectsExit⟩ := hcan.joinsExit.joined
    ⟨parties.entry.peerId, openings.greeting.requestId⟩ hparse hreads hsigns hcan.takesExit
    hcan.answering rfl
  have hanswered := Circuit.emitted_of_effects htraced.exit.now.sound hjoining heffectsExit
  have hthird := Circuit.step_atExit
    ((circuit.atEntry openings.accepting _ first).atEntry openings.greeting _ second)
    ⟨rfl, hrunning.exit⟩ (.asked hgreeted (List.mem_singleton_self _)) hjoining
  -- The entry has a session with the exit and answers the client.
  obtain ⟨state, hcompleting⟩ := hcan.completes second openings.greeting.requestId hparse
    hreads hsigns hcommutes (by rw [hwaiting, hpending]; exact AList.lookup_insert _) rfl rfl rfl
  have hunused := (hcan.completed.atEntry first hdialed (by simp)).atEntry second hgreeted
    fun peer payload hmem =>
      hcan.numbered (Relay.Effect.request.inj (List.mem_singleton.mp hmem)).1
  have hfourth := Circuit.step_atEntry (((circuit.atEntry openings.accepting _
    first).atEntry openings.greeting _ second).atExit openings.joining _ joined)
    ⟨rfl, rfl⟩ hunused (.answered hanswered (List.mem_singleton_self _)) hcompleting
  have hsteps := (((Relation.ReflTransGen.single hfirst).tail hsecond).tail hthird).tail hfourth
  have htraced₂ := Circuit.traced_of_reachable ((hreach.tail hfirst).tail hsecond)
  have hcompleted := Circuit.emitted_of_effects htraced₂.entry.now.sound hcompleting rfl
  obtain ⟨houter, hinner⟩ := endsOf_paired parties initiator openings hcommutes
  refine ⟨_, hsteps, ⟨rfl, rfl⟩, ?_, ?_, heffectsExit, fun flow => ?_, fun flow => ?_,
    hjoinedExit.exits, hjoinedExit.nat, rfl, fun requestId hother hbefore => ?_⟩
  · have hends : (flowOf parties initiator openings exitAddress).EndsAt parties.exit :=
      ⟨hcan.roleExit, ⟨⟨exitAddress, rfl⟩, parties.distinct, hcan.notEntry, hcan.notExit⟩⟩
    refine ⟨rfl, hends, hcan.apart, (AList.lookup_insert _).trans ?_, ?_, AList.lookup_insert _, ?_,
      houter, hinner, rfl, rfl⟩
    · rw [hcan.route]
      rfl
    · refine (AList.lookup_insert_ne hcan.apart).trans ?_
      rw [hchannels, hjoined.channels]
      exact AList.lookup_insert _
    · exact (congrArg (AList.lookup _) hjoinedExit.channels).trans (AList.lookup_insert _)
  · refine (congrArg (· ++ _) (hrequest.trans (congrArg (· ++ _) heffects))).trans ?_
    simp [Node.handshakeAnswer, entryInitiator]
  · show RelayCore.HasRoom second.core flow ↔ _
    rw [hcore, hasRoom_noted, hjoined.core, hasRoom_withSession]
  · show RelayCore.HasRoom joined.core flow ↔ _
    rw [hjoinedExit.core, hasRoom_withSession]
  · refine ((hbefore.atEntry first hdialed (by simp)).atEntry second hgreeted
      fun peer payload hmem => ?_).atEntry _ hcompleted fun peer payload hmem => ?_
    · exact hother (Relay.Effect.request.inj (List.mem_singleton.mp hmem)).1
    · cases List.mem_singleton.mp hmem

/-! ## The steps of the client -/

section Program

variable {setup : Program.Setup} {inputs : Program.Inputs} {program : Program}
  {payload frame request : Bytes} {packet : ForwardedPacket} {client : EncryptedChannel}

/-- The answer of a destination that ends the program, and what is done with it. -/
inductive Expects (setup : Program.Setup) (inputs : Program.Inputs) (packet : ForwardedPacket)
    (response : Bytes) : List Effect → Prop
  | payload (plain : setup.tunWriter = false)
      (expected : Program.verdict (some packet) response = some .finished) :
      Expects setup inputs packet response []
  | packet (written : NetworkPacket) (device : setup.tunWriter = true)
      (limits : setup.tun.maximumPacketSize ≠ 0 ∧ setup.tun.mtu ≠ 0)
      (fits : NetworkPacket.new response setup.tun.maximumPacketSize setup.tun.mtu = .ok written)
      (writes : inputs.device.writePacket = .ok ()) :
      Expects setup inputs packet response [.tun response]

variable (openings program request) in
/-- The answer that comes back over the session concludes it. -/
theorem Expects.concludes {response : Bytes} {sent : List Effect} {received : DataPlaneMessage}
    {opened : EncryptedChannel} (hexpects : Expects setup inputs packet response sent)
    (hidentity : setup.identity = initiator.identity)
    (hroute : initiator.route = .twoHop parties.entry.peerId parties.exit.peerId exitAddress)
    (hsession : client.session.sessionId = initiator.sessionId)
    (hreceive : DataPlane.receive ext defaultMaximumPayloadSize
      ⟨dataPlaneKind, initiator.sessionId, frame⟩ client = (.ok received, opened))
    (hpayload : received.payload = response) :
    Program.Concludes ext setup inputs (Program.askedOf program initiator client request)
      (.forwarding (answerOf parties.exit (flowOf parties initiator openings exitAddress) packet
        frame)) opened sent := by
  subst hpayload
  have hbound : Program.bound ext setup (answerOf parties.exit
      (flowOf parties initiator openings exitAddress) packet frame) client initiator.route =
        true := by
    simp only [Program.bound, decide_eq_true_eq, hsession, hidentity, hroute]
    exact ⟨rfl, rfl, rfl, rfl⟩
  cases hexpects with
  | payload plain expected =>
      exact .payload _ client opened initiator.route received rfl rfl rfl hbound plain hreceive
        expected
  | packet written device limits fits writes =>
      have hbytes : written.bytes = received.payload := (NetworkPacket.new_eq_ok.mp fits).2.2.2
      rw [← hbytes]
      exact .packet _ client opened initiator.route received written rfl rfl rfl hbound device
        limits hreceive fits writes

end Program

/-! ## From the handshake to the end -/

section Whole

variable {setup : Program.Setup} {sending concluding : Program.Inputs} {program : Program}
  {asking answering returning : Relay.Inputs} {payload frame request response : Bytes}
  {packet : ForwardedPacket} {client : EncryptedChannel} {joining channel : ResponseChannel}
  {sent : List Effect}

/-- The relays can carry the packet of the session and the answer to it. -/
structure CanCarry (parties : Parties ext) (initiator : SessionInitiator) (openings : Openings)
    (exitAddress : String) (asking answering returning : Relay.Inputs) (packet : ForwardedPacket)
    (response : Bytes) (circuit : Circuit) : Prop where
  port : packet.destination.port ≠ 0
  far : DataPlane.CanSend ext (endsOf parties initiator openings).far packet.payload
  near : DataPlane.CanSend ext (endsOf parties initiator openings).near response
  answers : CanAnswer parties.exit (flowOf parties initiator openings exitAddress) answering packet
    response (endsOf parties initiator openings).exit circuit.exit.node
  returnable : returning.channelOpen = true
  asked : circuit.Unused parties asking.requestId ∧
    asking.requestId ≠ openings.greeting.requestId
  returned : circuit.Unused parties returning.requestId ∧
    returning.requestId ≠ openings.greeting.requestId
  distinct : returning.requestId ≠ asking.requestId

theorem Asks.mono {entrySetup exitSetup : Relay.Setup ext} {flow : Flow} {entry next : Node}
    (hasks : Asks entrySetup exitSetup flow entry payload frame request packet)
    (hroom : ∀ flow, next.core.HasRoom flow ↔ entry.core.HasRoom flow) :
    Asks entrySetup exitSetup flow next payload frame request packet := by
  cases hasks with
  | packet message packet kind data bound shown numbered sourced room =>
      exact .packet message packet kind data bound shown numbered sourced ((hroom _).mpr room)
  | bare first destination allowed address => exact .bare first destination allowed address

/-- What the client asks is made of the frame that it sealed. -/
theorem Asks.made {entrySetup exitSetup : Relay.Setup ext} {flow : Flow} {entry : Node}
    {sender : EncryptedChannel} (hparse : ext.ParsesJson) (hreads : ext.ReadsIdentities)
    (hsockets : ext.ReadsSockets)
    (hasks : Asks entrySetup exitSetup flow entry payload frame request packet)
    (hsender : sender.session.sessionId = flow.clientSessionId) :
    (circuit.withSending flow.clientPeer ⟨sender, payload, frame⟩).Made ext flow.clientPeer
      request := by
  intro envelope hdata
  have hmember : (⟨sender, payload, frame⟩ : Sending) ∈ (circuit.withSending
      flow.clientPeer ⟨sender, payload, frame⟩).sent flow.clientPeer := by
    simp [Circuit.withSending]
  refine ⟨_, hmember, ?_⟩
  cases hasks with
  | packet message packet kind data =>
      rw [Node.readRequest_forwarding hparse hreads hsockets] at hdata
      obtain rfl := Option.some.inj hdata
      rw [data]
      exact ⟨hsender.symm, rfl⟩
  | bare =>
      rw [readRequest_envelope hparse] at hdata
      obtain rfl := Option.some.inj hdata
      exact ⟨hsender.symm, rfl⟩

theorem CanAnswer.mono {exitSetup : Relay.Setup ext} {flow : Flow} {last : EncryptedChannel}
    {exit next : Node} (hcan : CanAnswer exitSetup flow answering packet response last exit)
    (hflows : next.exitForwarding = exit.exitForwarding)
    (hroom : ∀ flow, next.core.HasRoom flow ↔ exit.core.HasRoom flow)
    (hnat : next.udpNat = exit.udpNat) :
    CanAnswer exitSetup flow answering packet response last next where
  size := hcan.size
  answered := hcan.answered
  unused := hflows ▸ hcan.unused
  room := (hroom _).mpr hcan.room
  translated hudp := by
    rw [Node.Translatable, hnat]
    exact hcan.translated hudp
  channelOpen := hcan.channelOpen
  sends := hcan.sends

/-- After the handshake, what the client has sealed for its session is carried there and back. -/
theorem CanOpen.carried (hparse : ext.ParsesJson) (hreads : ext.ReadsIdentities)
    (hsockets : ext.ReadsSockets) (hsigns : ext.SignaturesVerify)
    (hcommutes : ext.DiffieHellmanCommutes) (hcipher : ext.CipherOpens)
    (hreach : (Circuit.system parties).Reachable circuit) (hrunning : circuit.Running)
    (hopen : CanOpen parties initiator openings exitAddress circuit)
    (hjoining : joining.peer = ext.peerOf initiator.identity)
    (hsend : DataPlane.send ext defaultMaximumPayloadSize payload
      (endsOf parties initiator openings).client = (.ok frame, client))
    (hasks : Asks parties.entry parties.exit (flowOf parties initiator openings exitAddress)
      circuit.entry.node payload frame request packet)
    (hcarry : CanCarry parties initiator openings exitAddress asking answering returning packet
      response circuit)
    (hchannel : channel.peer = ext.peerOf initiator.identity) :
    ∃ opened answered, (Circuit.system parties).Steps circuit answered ∧
      Opened parties initiator openings exitAddress joining circuit opened ∧
      Carried parties (flowOf parties initiator openings exitAddress) channel packet response client
        (opened.withSending (ext.peerOf initiator.identity)
          ⟨(endsOf parties initiator openings).client, payload, frame⟩) answered := by
  obtain ⟨opened, hopened⟩ := hopen.opened hparse hreads hsigns hcommutes hreach hrunning hjoining
  have hsealed : (Circuit.system parties).step opened (opened.withSending
      (ext.peerOf initiator.identity)
      ⟨(endsOf parties initiator openings).client, payload, frame⟩) :=
    .sends _ _ client _ payload frame hsend
  obtain ⟨hsize, -⟩ := DataPlane.send_eq_ok.mp hsend
  have hshown := (hasks.carries hsize hcarry.port).1
  obtain ⟨answered, hcarried⟩ := Client.carried hparse hreads hsockets hcipher
    ((hreach.steps hopened.steps).tail hsealed) ⟨hopened.running.entry, hopened.running.exit⟩
    hopened.ready (hasks.mono hopened.room) (hasks.made hparse hreads hsockets rfl) hchannel hsend
    (hshown ▸ hcarry.far) hcarry.port
    (hcarry.answers.mono hopened.flows hopened.roomExit hopened.nat) hcarry.near hcarry.returnable
    (hopened.unused _ hcarry.asked.2 hcarry.asked.1)
    (hopened.unused _ hcarry.returned.2 hcarry.returned.1) hcarry.distinct
  exact ⟨opened, answered, (hopened.steps.tail hsealed).trans hcarried.steps, hopened, hcarried⟩

/-- A client that starts a handshake over two relays with room for it gets its session, its packet
is handed to the destination as it was, and where the destination answers what the client waits for
the client finishes with its channel closed. -/
theorem session_finishes (hparse : ext.ParsesJson) (hreads : ext.ReadsIdentities)
    (hsockets : ext.ReadsSockets) (hsigns : ext.SignaturesVerify)
    (hcommutes : ext.DiffieHellmanCommutes) (hcipher : ext.CipherOpens)
    (hreach : (Circuit.system parties).Reachable circuit) (hrunning : circuit.Running)
    (hopen : CanOpen parties initiator openings exitAddress circuit)
    (hjoining : joining.peer = ext.peerOf initiator.identity)
    (hpending : program.pendingSession = some initiator)
    (hidentity : setup.identity = initiator.identity)
    (hfirst : Program.firstEnvelope ext setup sending
      (Engine.answeredSession ext initiator openings.accepting.secret)
      (endsOf parties initiator openings).client =
        (.ok (⟨dataPlaneKind, initiator.sessionId, frame⟩, payload), client))
    (hrequest : Program.requestPayload ext setup
      (Engine.answeredSession ext initiator openings.accepting.secret)
      ⟨dataPlaneKind, initiator.sessionId, frame⟩ payload = .ok request)
    (hasks : Asks parties.entry parties.exit (flowOf parties initiator openings exitAddress)
      circuit.entry.node payload frame request packet)
    (hcarry : CanCarry parties initiator openings exitAddress asking answering returning packet
      response circuit)
    (hchannel : channel.peer = ext.peerOf initiator.identity)
    (hexpects : Expects setup concluding packet response sent) (number number' : RequestId) :
    ∃ opened answered asked bytes closing,
      Opened parties initiator openings exitAddress joining circuit opened ∧
      Program.handle ext setup sending (.discoveryResponse parties.entry.peerId number
        ((Node.joinedResponse parties.entry openings.accepting initiator).toJson ext).render)
          program = (.ok (), asked) ∧
      asked.effects = program.effects ++ [.request parties.entry.peerId request] ∧
      Carried parties (flowOf parties initiator openings exitAddress) channel packet response client
        (opened.withSending (ext.peerOf initiator.identity)
          ⟨(endsOf parties initiator openings).client, payload, frame⟩) answered ∧
      .respond channel bytes ∈ answered.entry.node.effects ∧
      Program.handle ext setup concluding (.discoveryResponse parties.entry.peerId number' bytes)
        asked = (.error .finished, asked.concluded closing sent) := by
  -- The answer to the handshake makes the client send its packet.
  have hshared := hopen.joins.shared
  rw [hcommutes] at hshared
  have hasked := Program.handle_opens setup sending parties.entry.identity openings.accepting.secret
    parties.entry.peerId number hparse hreads hsigns hpending hopen.joins.expected
    hopen.joins.negotiating hshared hfirst hrequest
  obtain ⟨frame', hsend, henvelope⟩ := Program.firstEnvelope_sends hfirst rfl
  obtain rfl : frame = frame' := (DataPlaneEnvelope.mk.inj henvelope).2.2
  -- The relays carry it, and the answer to it.
  obtain ⟨opened, answered, -, hopened, hcarried⟩ := hopen.carried hparse hreads hsockets hsigns
    hcommutes hcipher hreach hrunning hjoining hsend hasks hcarry hchannel
  obtain ⟨_, bytes, returned, message, closing, heffects, hreceive, hpayload⟩ := hcarried.returned
  -- The client finishes on it.
  have hconcludes := hexpects.concludes openings program request hidentity hopen.route
    (DataPlane.sentOn_of_send hsend).sessionId hreceive hpayload
  have hfinished := Program.handle_finished.mpr ⟨parties.entry.peerId, number', _, _, closing, sent,
    rfl, readResponse_forwarding hparse hreads hsockets _, hconcludes, rfl⟩
  refine ⟨opened, answered, _, _, closing, hopened, hasked, ?_, hcarried, ?_, hfinished⟩
  · rw [Program.askedOf, hopen.joins.expected]
  · rw [heffects]
    simp

end Whole

/-! ## A session over the reference relays -/

section Reference

open Circuit ReferenceRelay

def listened (node : Node) (state : RelayState) : Node :=
  { node with core := { node.core with lifecycle := .ready }, state }

theorem handle_listening (setup : Relay.Setup ext) (inputs : Relay.Inputs) {node : Node}
    (hstarting : node.core.lifecycle = .starting) : ∃ state,
      Node.handle ext setup inputs (.network (.listening "")) node =
        (.ok (), listened node state) := by
  obtain ⟨core, _, _, _, _, _, _, _, _, _, _, _, _⟩ := node
  obtain ⟨_, _, _, _, _⟩ := core
  obtain rfl : _ = RelayLifecycle.starting := hstarting
  exact ⟨_, rfl⟩

variable {parties : Parties ext} {circuit : Circuit}

/-- Relays that have just started can both listen. -/
theorem listening_reachable (hopened : Circuit.Opened parties circuit)
    (hstarting : circuit.entry.node.core.lifecycle = .starting ∧
      circuit.exit.node.core.lifecycle = .starting) : ∃ listening : Circuit,
      (Circuit.system parties).Reachable listening ∧ listening.Running ∧
        (∀ requestId, listening.Unused parties requestId) ∧
        (∃ state, listening.entry.node = listened circuit.entry.node state) ∧
        ∃ state, listening.exit.node = listened circuit.exit.node state := by
  have hstart : (Circuit.system parties).Reachable circuit := .of_init hopened
  obtain ⟨state, hentry⟩ := handle_listening parties.entry (inputs 0) hstarting.1
  obtain ⟨state', hexit⟩ := handle_listening parties.exit (inputs 0) hstarting.2
  have hunused (requestId : RequestId) : circuit.Unused parties requestId := by
    intro handled hhandled
    rw [hopened.history.1] at hhandled
    cases hhandled
  have harrives : circuit.AtEntry parties (.network (.listening "")) := ⟨nofun, nofun⟩
  have hfirst := step_atEntry circuit ⟨hopened.running.1, hopened.running.2⟩ (hunused _) harrives
    hentry
  let first := circuit.atEntry (inputs 0) (.network (.listening ""))
    (listened circuit.entry.node state)
  have harrivesExit : first.AtExit parties (.network (.listening "")) := ⟨nofun⟩
  have hsecond := step_atExit first ⟨rfl, hopened.running.2⟩ harrivesExit hexit
  have hnothing := emitted_of_effects (Circuit.traced_of_reachable hstart).entry.now.sound hentry
    (List.append_nil _).symm
  exact ⟨_, (hstart.tail hfirst).tail hsecond, ⟨rfl, rfl⟩,
    fun requestId => (hunused requestId).atEntry _ hnothing nofun, ⟨state, rfl⟩, state', rfl⟩

def referenceOpenings : Openings := ⟨inputs 1, inputs 2, inputs 3, inputs 4⟩

def testPayload : Bytes := Bytes.ofText "ghost-layer-external-test"

/-- The destination gives back what it gets. -/
def answeringInputs : Relay.Inputs :=
  { inputs 7 with tcp := ⟨.ok (), .ok (), .ok (), .ok (), .ok testPayload, .ok ()⟩ }

noncomputable def referenceEnds : Ends :=
  endsOf (referenceParties fun _ => True) (ReferenceClient.initiator .twoHop) referenceOpenings

noncomputable def referenceFlow : Flow :=
  flowOf (referenceParties fun _ => True) (ReferenceClient.initiator .twoHop) referenceOpenings
    ReferenceClient.address

theorem canOpen_reference {circuit : Circuit} {state state' : RelayState}
    (hunused : ∀ requestId, circuit.Unused (referenceParties fun _ => True) requestId)
    (hentry : circuit.entry.node = listened referenceCircuit.entry.node state)
    (hexit : circuit.exit.node = listened referenceCircuit.exit.node state') :
    CanOpen (referenceParties fun _ => True) (ReferenceClient.initiator .twoHop) referenceOpenings
      ReferenceClient.address circuit where
  route := rfl
  joins := by
    rw [hentry]
    refine ⟨rfl, rfl, rfl, ?_, ?_, rfl, Finset.notMem_empty _, ?_⟩
    · show (⟨[2]⟩ : PeerId) ≠ ⟨[3]⟩
      decide
    · exact List.mem_cons_self
    · decide +kernel
  joinsExit := by
    rw [hexit]
    refine ⟨rfl, rfl, rfl, trivial, List.mem_singleton_self _, rfl, Finset.notMem_empty _, ?_⟩
    decide +kernel
  takes := by
    rw [hentry]
    exact ⟨.inl rfl, (by decide : 0 < 8)⟩
  takesExit := by
    rw [hexit]
    exact ⟨.inl rfl, (by decide : 0 < 8)⟩
  role := by decide
  roleExit := by decide
  alone pending hwaits := by
    obtain ⟨⟨sessionId, hlookup⟩, _⟩ := hwaits
    rw [hentry] at hlookup
    cases hlookup
  apart := by decide
  notEntry := by decide
  notExit := by decide
  answering := rfl
  completing := rfl
  accepted := hunused _
  greeted := hunused _
  completed := hunused _
  numbered := by decide

noncomputable def referencePacket : ForwardedPacket :=
  Node.barePacket (referenceFlow.context (referenceParties fun _ => True).exit) destination
    testPayload

theorem canCarry_reference {circuit : Circuit} {state' : RelayState}
    (hunused : ∀ requestId, circuit.Unused (referenceParties fun _ => True) requestId)
    (hexit : circuit.exit.node = listened referenceCircuit.exit.node state') :
    CanCarry (referenceParties fun _ => True) (ReferenceClient.initiator .twoHop) referenceOpenings
      ReferenceClient.address (inputs 5) answeringInputs (inputs 6) referencePacket testPayload
      circuit where
  port := by decide
  far := DataPlane.send_isOk.mp (by decide +kernel)
  near := DataPlane.send_isOk.mp (by decide +kernel)
  answers := {
    size := by decide
    answered := by
      let limits : TcpAdapterConfig :=
        ⟨1500, 1500, Node.exchangeTimeout, Node.exchangeTimeout, Node.exchangeTimeout⟩
      refine .tcp (reference.socketText destination) ⟨[destination]⟩ testPayload
        ⟨answeringInputs.tcp, limits, false, []⟩ ⟨answeringInputs.tcp, limits, false, [testPayload]⟩
        ⟨answeringInputs.tcp, limits, true, [testPayload]⟩ [destination] rfl rfl
        (reference.readsSockets destination) rfl ?_ rfl rfl
      have hvalid : DestinationPolicy.validate reference ⟨[destination]⟩
          (reference.socketText destination) = .ok destination := by
        simp [DestinationPolicy.validate, parse_destination, bind, Except.bind, Check.failWhen,
          pure, Except.pure]
      rw [TcpExitNetworkAdapter.connect, hvalid]
      rfl
    unused := by
      rw [hexit]
      rfl
    room := by
      rw [hexit]
      exact .inr (by decide : 0 < 8)
    translated := nofun
    channelOpen := rfl
    sends := DataPlane.send_isOk.mp (by decide +kernel) }
  returnable := rfl
  asked := ⟨hunused _, by decide⟩
  returned := ⟨hunused _, by decide⟩
  distinct := by decide

theorem referenceEnds_sends : ∃ frame client,
    DataPlane.send reference defaultMaximumPayloadSize testPayload referenceEnds.client =
      (.ok frame, client) := by
  have hsends : (DataPlane.send reference defaultMaximumPayloadSize testPayload
      referenceEnds.client).1.IsOk := by
    decide +kernel
  exact Fallible.isOk_iff.mp hsends

/-- A client finishes over the reference relays. -/
theorem session_finishes_reference : ∃ (circuit answered : Circuit) (asked final : Program)
    (bytes : Bytes), (Circuit.system (referenceParties fun _ => True)).Reachable circuit ∧
      .dispatch (handedOver referenceFlow referencePacket) ∈ answered.exit.node.effects ∧
      .respond ⟨⟨[1]⟩, 1⟩ bytes ∈ answered.entry.node.effects ∧
      Program.handle reference (ReferenceClient.programSetup .twoHop) ReferenceClient.programInputs
        (.discoveryResponse ⟨[2]⟩ 2 bytes) asked = (.error .finished, final) := by
  obtain ⟨circuit, hreach, hrunning, hunused, ⟨state, hentry⟩, state', hexit⟩ :=
    listening_reachable (referenceCircuit_opened fun _ => True) ⟨rfl, rfl⟩
  obtain ⟨frame, client, hsend⟩ := referenceEnds_sends
  have hfirst : Program.firstEnvelope reference (ReferenceClient.programSetup .twoHop)
      ReferenceClient.programInputs (ReferenceClient.session .twoHop) referenceEnds.client =
        (.ok (⟨dataPlaneKind, ReferenceClient.inputs.sessionId, frame⟩, testPayload), client) :=
    Program.firstEnvelope_plain rfl hsend
  let program := { Program.new with pendingSession := some (ReferenceClient.initiator .twoHop) }
  have hpending : program.pendingSession = some (ReferenceClient.initiator .twoHop) := rfl
  have hpeer (number : Nat) :
      (⟨⟨[1]⟩, number⟩ : ResponseChannel).peer = reference.peerOf ⟨[1]⟩ := rfl
  have hexpects : Expects (ReferenceClient.programSetup .twoHop) ReferenceClient.programInputs
      referencePacket testPayload [] := .payload rfl (if_pos rfl)
  obtain ⟨opened, answered, asked, bytes, closing, -, -, -, hcarried, hresponds, hfinished⟩ :=
    session_finishes reference.parsesJson reference.readsIdentities reference.readsSockets
      reference.signaturesVerify reference.diffieHellmanCommutes reference.cipherOpens hreach
      hrunning (canOpen_reference hunused hentry hexit) (hpeer 0) hpending rfl hfirst rfl
      (.bare (reference.socketText destination) destination rfl (reference.readsSockets _))
      (canCarry_reference hunused hexit) (hpeer 1) hexpects 1 2
  obtain ⟨_, _, hhanded⟩ := hcarried.handed
  refine ⟨circuit, answered, asked, _, bytes, hreach, ?_, hresponds, hfinished⟩
  rw [hhanded]
  exact List.mem_append_right _ List.mem_cons_self

end Reference

end Client
