import GhostLayer.Network.NatHistory
import GhostLayer.Relay.Admission
import GhostLayer.Relay.CoreLaws
import GhostLayer.Relay.StateLaws
import GhostLayer.Relay.Tolerance

/-! # What a relay holds at most

Every table of the loop that a peer can make grow is paid for: the entries of a
client by a session that the policy counted, those of a flow at the exit by a
flow that it counted, the requests to exits by the contexts of their clients.
The limits of the policy bound the tables with them.
-/

namespace Relay

open Foundation Network

variable {ext : Externals}

/-! ## The policy -/

namespace RelayCore

variable {core next : RelayCore}

/-- The policy stays within its limits and forgets no session and no flow. -/
structure Keeps (core next : RelayCore) : Prop where
  limits : next.limits = core.limits
  balanced : core.Balanced → next.Balanced
  sessions : core.sessions ⊆ next.sessions
  flows : core.flows ⊆ next.flows

namespace Keeps

theorem refl (core : RelayCore) : core.Keeps core := ⟨rfl, id, subset_rfl, subset_rfl⟩

theorem lifecycle (core : RelayCore) (state : RelayLifecycle) :
    core.Keeps { core with lifecycle := state } :=
  ⟨rfl, fun hbalanced => { hbalanced with }, subset_rfl, subset_rfl⟩

theorem countSessionError (core : RelayCore) : core.Keeps core.countSessionError :=
  ⟨rfl, fun hbalanced => { hbalanced with }, subset_rfl, subset_rfl⟩

theorem removePeer (core : RelayCore) (peer : PeerId) : core.Keeps (core.removePeer peer) :=
  ⟨rfl, fun hbalanced => hbalanced.advance (.removePeer peer), subset_rfl, subset_rfl⟩

theorem withSession (htakes : core.TakesSession) (session : SessionId) :
    core.Keeps (core.withSession session) where
  limits := rfl
  balanced hbalanced := hbalanced.advance (.session session htakes)
  sessions := Finset.subset_insert _ _
  flows := subset_rfl

theorem noted (core : RelayCore) (peer : PeerId) : core.Keeps (core.noted peer) := by
  unfold RelayCore.noted
  split_ifs with hknown htakes
  · exact refl core
  · exact ⟨rfl, fun hbalanced => hbalanced.advance (.peer peer hknown htakes.1 htakes.2),
      subset_rfl, subset_rfl⟩
  · exact ⟨rfl, fun hbalanced => hbalanced.advance .rejectPacket, subset_rfl, subset_rfl⟩

theorem withFlow {flow : SessionId} (hroom : core.HasRoom flow) (bytes : Nat) :
    core.Keeps (core.withFlow flow bytes) := by
  by_cases hknown : flow ∈ core.flows
  · rw [RelayCore.withFlow, if_pos hknown]
    exact refl core
  · refine ⟨withFlow_limits core flow bytes, ?_, (withFlow_sessions core flow bytes).ge, ?_⟩
    · exact fun hbalanced => hbalanced.advance (.flow flow bytes hknown (hroom.resolve_left hknown))
    · rw [RelayCore.withFlow, if_neg hknown]
      exact Finset.subset_insert _ _

end Keeps

theorem mem_withFlow (core : RelayCore) (flow : SessionId) (bytes : Nat) :
    flow ∈ (core.withFlow flow bytes).flows := by
  unfold withFlow
  split_ifs with hknown
  · exact hknown
  · exact Finset.mem_insert_self _ _

end RelayCore

namespace Node

variable {node final : Node} {setup : Setup ext} {inputs : Inputs} {payload : Bytes}
  {peerId : PeerId} {channel : ResponseChannel} {event : LoopEvent} {sessionId : SessionId}
  {forwarding : ClientForwarding} {next : EncryptedChannel}

/-! ## What pays for an entry -/

/-- A session with the exit of some client. -/
def RelaysOn (node : Node) (relaySessionId : SessionId) : Prop :=
  ∃ sessionId forwarding, node.clientForwarding.lookup sessionId = some forwarding ∧
    forwarding.relaySessionId = relaySessionId

/-- The exit was asked for a client and has not answered. -/
def AwaitsExit (node : Node) (sessionId : SessionId) : Prop :=
  ∃ forwarding, node.clientForwarding.lookup sessionId = some forwarding ∧
    forwarding.context.lastRequest = some (forwarding.context.forwardingId, .clientToExit)

/-- Every entry of a table is paid for. -/
structure Accounted (setup : Setup ext) (node : Node) : Prop where
  limits : node.core.limits = setup.config.resourceLimits
  balanced : node.core.Balanced
  clients : EveryEntry (fun sessionId _ => sessionId ∈ node.core.sessions) node.clientForwarding
  pending : EveryEntry (fun _ pending => pending.clientSessionId ∈ node.core.sessions)
    node.pendingRelayHandshakes
  channels : EveryEntry (fun sessionId _ =>
    sessionId ∈ node.core.sessions ∨ node.RelaysOn sessionId) node.channels
  asked : EveryEntry (fun _ pending => node.AwaitsExit pending.clientSessionId)
    node.pendingClientForwards
  alone : TellsApart (fun _ pending => pending.clientSessionId) node.pendingClientForwards
  exits : EveryEntry (fun flow _ => flow ∈ node.core.flows) node.exitForwarding
  nat : ∀ table ∈ node.udpNat, NatTable.Within localhost 1024 table

namespace Accounted

theorem withCore (haccounted : Accounted setup node) {core : RelayCore}
    (hkeeps : node.core.Keeps core) : Accounted setup { node with core } :=
  { haccounted with
    limits := hkeeps.limits.trans haccounted.limits
    balanced := hkeeps.balanced haccounted.balanced
    clients := haccounted.clients.imp fun _ _ _ hcounted => hkeeps.sessions hcounted
    pending := haccounted.pending.imp fun _ _ _ hcounted => hkeeps.sessions hcounted
    channels := haccounted.channels.imp fun _ _ _ hcounted =>
      hcounted.imp_left fun hsession => hkeeps.sessions hsession
    exits := haccounted.exits.imp fun _ _ _ hcounted => hkeeps.flows hcounted }

/-- A channel takes the place of one that was there. -/
theorem withChannel (haccounted : Accounted setup node)
    (hknown : (node.channels.lookup sessionId).isSome) :
    Accounted setup (node.withChannel sessionId next) := by
  obtain ⟨current, hcurrent⟩ := Option.isSome_iff_exists.mp hknown
  have hpaid : sessionId ∈ node.core.sessions ∨ node.RelaysOn sessionId :=
    haccounted.channels _ _ hcurrent
  exact { haccounted with channels := haccounted.channels.insert hpaid }

theorem opened (haccounted : Accounted setup node) {envelope : DataPlaneEnvelope}
    {message : DataPlaneMessage} (hopens : node.Opens ext envelope message next) :
    Accounted setup (node.withChannel envelope.sessionId next) := by
  obtain ⟨current, hcurrent, -⟩ := hopens
  exact haccounted.withChannel (by rw [hcurrent, Option.isSome_some])

theorem sealed (haccounted : Accounted setup node) {frame : Bytes}
    (hseals : node.Seals ext sessionId payload frame next) :
    Accounted setup (node.withChannel sessionId next) := by
  obtain ⟨current, hcurrent, -⟩ := hseals
  exact haccounted.withChannel (by rw [hcurrent, Option.isSome_some])

end Accounted

/-! ## The contexts of clients -/

/-- A client keeps its session with the exit. -/
theorem RelaysOn.withClientContext {relaySessionId : SessionId} {context : ForwardingContext}
    (hfound : node.clientForwarding.lookup sessionId = some forwarding)
    (hrelays : node.RelaysOn relaySessionId) :
    (node.withClientContext sessionId forwarding context).RelaysOn relaySessionId := by
  obtain ⟨other, held, hheld, hrelay⟩ := hrelays
  by_cases hsame : other = sessionId
  · subst hsame
    obtain rfl := Option.some.inj (hfound.symm.trans hheld)
    exact ⟨other, _, AList.lookup_insert _, hrelay⟩
  · exact ⟨other, held, (AList.lookup_insert_ne hsame).trans hheld, hrelay⟩

theorem AwaitsExit.withClientContext {other : SessionId} {context : ForwardingContext}
    (hother : other ≠ sessionId) (hawaits : node.AwaitsExit other) :
    (node.withClientContext sessionId forwarding context).AwaitsExit other := by
  obtain ⟨held, hheld, hlast⟩ := hawaits
  exact ⟨held, (AList.lookup_insert_ne hother).trans hheld, hlast⟩

/-- Whoever is asked for is not a client that can be asked for. -/
theorem Accounted.not_asked (haccounted : Accounted setup node)
    (hfound : node.clientForwarding.lookup sessionId = some forwarding)
    (hbegin : forwarding.context.CanBegin forwarding.context.forwardingId .clientToExit)
    {requestId : RequestId} {pending : PendingClientForward}
    (hpending : node.pendingClientForwards.lookup requestId = some pending) :
    pending.clientSessionId ≠ sessionId := by
  rintro rfl
  obtain ⟨held, hheld, hlast⟩ := haccounted.asked _ _ hpending
  obtain rfl := Option.some.inj (hfound.symm.trans hheld)
  exact hbegin.fresh hlast

/-- A request for a client that no other request was made for. -/
theorem Accounted.relayed (haccounted : Accounted setup node) {sealed : EncryptedChannel}
    {message : ForwardingMessage} {frame : Bytes}
    (hfound : node.clientForwarding.lookup sessionId = some forwarding)
    (hbegin : forwarding.context.CanBegin forwarding.context.forwardingId .clientToExit)
    (hseals : node.Seals ext forwarding.relaySessionId payload frame sealed) :
    Accounted setup (relayed ext inputs node sessionId forwarding sealed message channel) := by
  have hsealed := haccounted.sealed hseals
  have hcounted : sessionId ∈ node.core.sessions := haccounted.clients _ _ hfound
  have hother : EveryEntry (fun _ pending => pending.clientSessionId ≠ sessionId)
      node.pendingClientForwards := fun _ _ hpending =>
    haccounted.not_asked hfound hbegin hpending
  exact { hsealed with
    clients := haccounted.clients.insert hcounted
    channels := hsealed.channels.imp fun _ _ _ hpaid =>
      hpaid.imp_right fun hrelays => RelaysOn.withClientContext hfound hrelays
    asked := by
      refine EveryEntry.insert ?_ ⟨_, AList.lookup_insert _, rfl⟩
      exact haccounted.asked.imp fun requestId pending hpending hawaits =>
        hawaits.withClientContext (hother requestId pending hpending)
    alone := haccounted.alone.insert (hother.imp fun _ _ _ hne _ => hne) }

/-- The response that a client was waiting for. -/
theorem Accounted.returned (haccounted : Accounted setup node) {requestId : RequestId}
    {pending : PendingClientForward} {response : ForwardingMessage} {message : DataPlaneMessage}
    {opened sealed : EncryptedChannel} {frame : Bytes}
    (hpending : node.pendingClientForwards.lookup requestId = some pending)
    (hfound : node.clientForwarding.lookup pending.clientSessionId = some forwarding)
    (hopens : node.Opens ext response.data message opened)
    (hseals : (node.withChannel response.data.sessionId opened).Seals ext pending.clientSessionId
      message.payload frame sealed) :
    Accounted setup { Node.returned ext node pending forwarding response opened frame sealed with
      pendingClientForwards := node.pendingClientForwards.erase requestId } := by
  have hsealed := (haccounted.opened hopens).sealed hseals
  have hcounted : pending.clientSessionId ∈ node.core.sessions := haccounted.clients _ _ hfound
  exact { hsealed with
    clients := haccounted.clients.insert hcounted
    channels := hsealed.channels.imp fun _ _ _ hpaid =>
      hpaid.imp_right fun hrelays => RelaysOn.withClientContext hfound hrelays
    asked := by
      -- Whoever else waits does so for another client.
      intro other held hheld
      obtain ⟨hne, hheld⟩ := lookup_erase_eq_some.mp hheld
      apply (haccounted.asked _ _ hheld).withClientContext
      exact fun hsame => hne (haccounted.alone _ _ _ _ hheld hpending hsame)
    alone := haccounted.alone.erase requestId }

/-! ## Steps -/

theorem Started.accounted (hstarted : Started ext setup node) : Accounted setup node where
  limits := by rw [hstarted.core]; rfl
  balanced := by rw [hstarted.core]; exact .new _
  clients := by rw [hstarted.clientForwarding]; exact .empty
  pending := by rw [hstarted.pendingRelayHandshakes]; exact .empty
  channels := by rw [hstarted.channels]; exact .empty
  asked := by rw [hstarted.pendingClientForwards]; exact .empty
  alone := by rw [hstarted.pendingClientForwards]; simp [TellsApart]
  exits := by rw [hstarted.exitForwarding]; exact .empty
  nat := by
    have hnat := hstarted.udpNat
    split_ifs at hnat with henabled
    · obtain ⟨table, hnew, hsome⟩ := hnat
      rintro _ htable
      obtain rfl := Option.some.inj (hsome.symm.trans htable)
      exact NatTable.new_within hnew
    · rw [hnat]
      exact nofun

/-- A handshake that is accepted is paid for by its own session. -/
theorem Accounted.admitted (haccounted : Accounted setup node) (htakes : node.core.TakesSession)
    (responder : SessionResponder) (session : SecureSession) :
    Accounted setup (node.admitted responder session) := by
  have hcounted := haccounted.withCore (RelayCore.Keeps.withSession htakes session.sessionId)
  exact { hcounted with
    channels := hcounted.channels.insert (.inl (Finset.mem_insert_self _ _)) }

/-- An exchange changes the translation table at most. -/
theorem Accounted.exchanged (haccounted : Accounted setup node) {forwarded : ForwardingMessage}
    {packet : ForwardedPacket} {answer : Option Bytes}
    (hrun : exchange ext setup inputs forwarded peerId packet payload node = (.ok answer, final)) :
    Accounted setup final := by
  obtain ⟨_, udpNat, _, _, rfl, _, hnat, _⟩ := exchange_ok hrun
  refine { haccounted with nat := ?_ }
  rcases hnat with rfl | ⟨table, mapping, created, source, context, htable, hcreate, rfl⟩
  · exact haccounted.nat
  · rintro _ ⟨⟩
    have hcreated := (haccounted.nat table htable).create inputs.natNow inputs.natStamp
      (flowKeyOf forwarded packet source context)
    rw [hcreate] at hcreated
    exact hcreated.cleanup inputs.natReturn

/-- The exit counts the flow of a context before it keeps the context. -/
theorem Accounted.reached (haccounted : Accounted setup node) {forwarded : ForwardingMessage}
    {clientPeer : PeerId} {context : ForwardingContext} {packet : ForwardedPacket}
    {message : DataPlaneMessage} {opened : EncryptedChannel}
    (hreaches : Reaches ext node forwarded peerId clientPeer context packet message opened) :
    Accounted setup (node.reached forwarded context packet opened) := by
  have hcounted := (haccounted.opened hreaches.opens).withCore
    (RelayCore.Keeps.withFlow hreaches.room packet.payload.length)
  exact { hcounted with
    exits := hcounted.exits.insert (RelayCore.mem_withFlow _ _ _) }

theorem Accounted.answered (haccounted : Accounted setup node) {forwarded : ForwardingMessage}
    {answer : Option Bytes} (hanswers : Answers ext inputs node forwarded channel answer final) :
    Accounted setup final := by
  cases answer with
  | none =>
      obtain rfl := hanswers
      exact haccounted
  | some response =>
      obtain ⟨_, _, hseals, _, rfl⟩ := hanswers
      exact { haccounted.sealed hseals with }

/-- A message that was forwarded had room for its flow, and no other request was made for its
client. -/
theorem Sound.forwards (hsound : Sound setup node) {forwarded : ForwardingMessage}
    (hdecoded : readRequest ext payload = .forwarding forwarded)
    (hkind : forwarded.kind = forwardingKind)
    (hentry : ∃ exit exitAddress, forwarded.route = .twoHop setup.peerId exit exitAddress)
    (hfound : node.clientForwarding.lookup forwarded.data.sessionId = some forwarding)
    (hrun : handleRequest ext setup inputs payload peerId channel node = (.ok (), final)) :
    node.core.HasRoom forwarded.forwardingId ∧
      forwarding.context.CanBegin forwarding.context.forwardingId .clientToExit := by
  rw [handleRequest_run, hdecoded] at hrun
  have htolerated := (handleForwarding_isOk hsound).mp (Fallible.isOk_iff.mpr ⟨(), final, hrun⟩)
  have hclient := isClientProtocolRequest_eq_true.mpr ⟨hentry, forwarding, hfound⟩
  rw [Tolerated, if_pos hclient] at htolerated
  obtain ⟨held, _, _, _, hheld, _, _, _, hroom, hcan⟩ := htolerated hkind
  obtain rfl := Option.some.inj (hfound.symm.trans hheld)
  exact ⟨hroom, hcan.begin⟩

theorem forwards_bare {envelope : DataPlaneEnvelope}
    (hdecoded : readRequest ext payload = .envelope envelope)
    (hkind : envelope.kind = dataPlaneKind)
    (hfound : node.clientForwarding.lookup envelope.sessionId = some forwarding)
    (hclient : forwarding.clientPeer = peerId)
    (hrun : handleRequest ext setup inputs payload peerId channel node = (.ok (), final)) :
    forwarding.context.CanBegin forwarding.context.forwardingId .clientToExit := by
  rw [handleRequest_run, hdecoded] at hrun
  have htolerated := handleEnvelope_isOk.mp (Fallible.isOk_iff.mpr ⟨(), final, hrun⟩)
  simp only [Tolerated, hfound] at htolerated
  obtain ⟨_, _, _, hrelays⟩ := htolerated hkind
  exact (hrelays hclient).1.begin

theorem Accounted.request (haccounted : Accounted setup node) (hsound : Sound setup node)
    (hrun : handleRequest ext setup inputs payload peerId channel node = (.ok (), final)) :
    Accounted setup final := by
  cases handleRequest_step hrun with
  | ignored | rejected | metadata => exact { haccounted with }
  | refused =>
      exact { haccounted.withCore (RelayCore.Keeps.countSessionError node.core) with }
  | accepted init response session responder decoded kind accepts takes other =>
      exact { haccounted.admitted takes responder session with }
  | started init response session responder exit exitAddress decoded kind accepts takes route
      entry =>
      have hadmitted := haccounted.admitted takes responder session
      obtain ⟨_, _, _, _, _, rfl, rfl⟩ := SessionResponder.acceptInit_eq_ok.mp accepts
      exact { hadmitted with
        pending := hadmitted.pending.insert (Finset.mem_insert_self _ _) }
  | forwarded message forwarding packet opening opened frame sealed decoded found entry bound opens
      shown seals kind =>
      obtain ⟨hroom, hbegin⟩ := hsound.forwards decoded kind entry found hrun
      exact ((haccounted.opened opens).withCore (RelayCore.Keeps.withFlow hroom _)).relayed found
        hbegin seals
  | forwardedBare envelope forwarding message opened frame sealed destination decoded found client
      opens seals kind =>
      exact (haccounted.opened opens).relayed found (forwards_bare decoded kind found client hrun)
        seals
  | received envelope current decoded found =>
      exact haccounted.withChannel (by rw [found, Option.isSome_some])
  | acknowledged envelope current message opened frame sealed decoded found =>
      have hopened : Accounted setup (node.withChannel envelope.sessionId sealed) :=
        haccounted.withChannel (by rw [found, Option.isSome_some])
      exact { hopened with }
  | exited message clientPeer context packet opening opened answer next _ decoded reaches exchanges
      answers =>
      exact ((haccounted.reached reaches).exchanged exchanges).answered answers

/-- A client that can be forwarded has a session already, and one more with its exit. -/
theorem Accounted.response {requestId : RequestId} (haccounted : Accounted setup node)
    (hsound : Sound setup node)
    (hstep : ResponseStep ext inputs payload peerId requestId node final) :
    Accounted setup final := by
  cases hstep with
  | ignored => exact haccounted
  | dropped sessionId =>
      exact { haccounted with pending := haccounted.pending.erase sessionId }
  | established response pending session entry exit exitAddress decoded found completes route
      peer =>
      have hcounted : pending.clientSessionId ∈ node.core.sessions := haccounted.pending _ _ found
      have hfresh : ∀ sessionId held, node.clientForwarding.lookup sessionId = some held →
          sessionId ≠ pending.clientSessionId := by
        rintro _ held hheld rfl
        rw [(hsound.pending _ _ found).fresh] at hheld
        cases hheld
      refine { haccounted with
        clients := haccounted.clients.insert hcounted
        pending := haccounted.pending.erase response.sessionId
        channels := EveryEntry.insert ?_ (.inr ⟨_, _, AList.lookup_insert _, rfl⟩)
        asked := ?_ }
      · exact haccounted.channels.imp fun _ _ _ hpaid => hpaid.imp_right fun hrelays => by
          obtain ⟨sessionId, held, hheld, hrelay⟩ := hrelays
          exact ⟨sessionId, held,
            (AList.lookup_insert_ne (hfresh sessionId held hheld)).trans hheld, hrelay⟩
      · exact haccounted.asked.imp fun _ _ _ hawaits => by
          obtain ⟨held, hheld, hlast⟩ := hawaits
          exact ⟨held, (AList.lookup_insert_ne (hfresh _ held hheld)).trans hheld, hlast⟩
  | returned pending response forwarding packet message opened frame sealed undecoded found decoded
      client belongs exit session opens seals =>
      exact haccounted.returned found client opens seals

theorem Accounted.step (haccounted : Accounted setup node) (hsound : Sound setup node)
    (hrun : handle ext setup inputs event node = (.ok (), final)) : Accounted setup final := by
  cases handle_step hrun with
  | idle event state quiet => exact { haccounted with }
  | listened address state lifecycle moves =>
      exact { haccounted.withCore (RelayCore.Keeps.lifecycle node.core lifecycle) with }
  | met peerId state none =>
      exact { haccounted.withCore (RelayCore.Keeps.noted node.core peerId) with }
  | left peerId state =>
      exact { haccounted.withCore (RelayCore.Keeps.removePeer node.core peerId) with }
  | beat now state =>
      refine { haccounted with nat := ?_ }
      rintro _ hcleaned
      obtain ⟨table, htable, rfl⟩ := Option.map_eq_some_iff.mp hcleaned
      exact (haccounted.nat table htable).cleanup now
  | requested payload peerId channel _ _ _ =>
      obtain ⟨state, hsame⟩ := handle_discoveryRequest ext node setup inputs payload peerId channel
      rw [hsame] at hrun
      have hnoted : Accounted setup { node with state } := { haccounted with }
      exact hnoted.request { hsound with } hrun
  | responded payload peerId requestId state _ hstep =>
      have hnoted : Accounted setup { node with state } := { haccounted with }
      exact hnoted.response { hsound with } hstep
  | greeted peerId state pending waiting =>
      exact { haccounted.withCore (RelayCore.Keeps.noted node.core peerId) with }
  | unsent payload relaySessionId current next found fails =>
      exact haccounted.withChannel (by rw [found, Option.isSome_some])
  | injected payload forwardingId forwarding relaySessionId frame sealed found active seals =>
      exact { haccounted.sealed seals with }

theorem accounted_of_reachable (hreach : (loop ext setup).Reachable node) :
    Accounted setup node := by
  refine hreach.invariant (Accounted setup) (fun _ hstarted => Started.accounted hstarted) ?_
  rintro _ _ hbefore haccounted ⟨inputs, event, hrun⟩
  exact haccounted.step (sound_of_reachable hbefore) hrun

/-! ## Latencies -/

theorem length_recordLatency_le {state : RelayState} (measurement : LatencyMeasurement)
    (hsamples : state.latencyMeasurements.length ≤ RelayState.maxLatencySamples) :
    (state.recordLatency measurement).latencyMeasurements.length ≤
      RelayState.maxLatencySamples := by
  simp only [RelayState.recordLatency, List.length_append, List.length_singleton]
  split_ifs with hfull
  · rw [List.length_tail, hfull]
    decide
  · exact Nat.lt_of_le_of_ne hsamples hfull

theorem length_stateAfter_le {state : RelayState}
    (hsamples : state.latencyMeasurements.length ≤ RelayState.maxLatencySamples) :
    (stateAfter setup inputs event state).latencyMeasurements.length ≤
      RelayState.maxLatencySamples := by
  cases event with
  | tun | heartbeat => exact hsamples
  | network event =>
      cases event with
      | pingResult peerId result =>
          cases result <;> exact length_recordLatency_le _ hsamples
      | listening | peerConnected | peerDisconnected | peerIdentified | networkError
      | discoveryRequest | discoveryResponse => exact hsamples

theorem samples_of_reachable (hreach : (loop ext setup).Reachable node) :
    node.state.latencyMeasurements.length ≤ RelayState.maxLatencySamples := by
  refine hreach.invariant
    (fun node => node.state.latencyMeasurements.length ≤ RelayState.maxLatencySamples) ?_ ?_
  · intro start hstarted
    rw [hstarted.state]
    exact Nat.zero_le _
  · rintro before after _ hsamples ⟨inputs, event, hrun⟩
    rw [handle_state hrun]
    exact length_stateAfter_le hsamples

/-! ## Counting -/

/-- The sessions with exits are as many as the contexts of clients at most. -/
theorem card_relaySessions_le (node : Node) :
    (views (fun _ forwarding => forwarding.relaySessionId) node.clientForwarding).toFinset.card ≤
      node.clientForwarding.entries.length :=
  (List.toFinset_card_le _).trans length_views.le

theorem RelaysOn.mem_views {relaySessionId : SessionId} (hrelays : node.RelaysOn relaySessionId) :
    relaySessionId ∈
      (views (fun _ forwarding => forwarding.relaySessionId) node.clientForwarding).toFinset := by
  obtain ⟨sessionId, forwarding, hfound, hrelay⟩ := hrelays
  exact List.mem_toFinset.mpr (Foundation.mem_views.mpr ⟨sessionId, forwarding, hfound, hrelay⟩)

/-- Whatever peers send, the tables of a relay stay within the limits of its configuration: its
clients and their handshakes with exits, the channels of both, the requests to exits that are not
answered, and what the exit counts. At most one request is on its way for each client. -/
theorem tables_bounded (hreach : (loop ext setup).Reachable node) :
    let limits := setup.config.resourceLimits
    node.core.peers.card ≤ limits.maximumConnectedPeers ∧
    node.clientForwarding.entries.length + node.pendingRelayHandshakes.entries.length ≤
      limits.maximumActiveSessions ∧
    node.channels.entries.length ≤ 2 * limits.maximumActiveSessions ∧
    node.pendingClientForwards.entries.length ≤ node.clientForwarding.entries.length ∧
    (∀ requestId requestId' pending pending',
      node.pendingClientForwards.lookup requestId = some pending →
      node.pendingClientForwards.lookup requestId' = some pending' →
      pending.clientSessionId = pending'.clientSessionId → requestId = requestId') ∧
    node.exitForwarding.entries.length ≤ limits.maximumActiveFlows ∧
    node.exitHandler.handledPackets.card ≤ limits.maximumActiveFlows ∧
    (∀ table ∈ node.udpNat, table.mappings.entries.length ≤ 1024) ∧
    node.state.latencyMeasurements.length ≤ 100 := by
  intro limits
  have hsound := sound_of_reachable hreach
  have haccounted := accounted_of_reachable hreach
  have hsessions : node.core.sessions.card ≤ limits.maximumActiveSessions := by
    rw [show limits = node.core.limits from haccounted.limits.symm]
    exact haccounted.balanced.sessions
  have hflows : node.core.flows.card ≤ limits.maximumActiveFlows := by
    rw [show limits = node.core.limits from haccounted.limits.symm]
    exact haccounted.balanced.flows
  have hclients : node.clientForwarding.entries.length +
      node.pendingRelayHandshakes.entries.length ≤ node.core.sessions.card := by
    refine TellsApart.keys.length_add_length_le_card hsound.awaitedOnce haccounted.clients
      haccounted.pending ?_
    rintro sessionId forwarding relaySessionId pending hfound hpending rfl
    rw [(hsound.pending _ _ hpending).fresh] at hfound
    cases hfound
  refine ⟨?_, hclients.trans hsessions, ?_, ?_, haccounted.alone, ?_, ?_, ?_,
    samples_of_reachable hreach⟩
  · rw [show limits = node.core.limits from haccounted.limits.symm]
    exact haccounted.balanced.peers
  · have hchannels : node.channels.entries.length ≤ (node.core.sessions ∪
        (views (fun _ forwarding => forwarding.relaySessionId)
          node.clientForwarding).toFinset).card := by
      refine TellsApart.keys.length_le_card (haccounted.channels.imp fun sessionId _ _ hpaid => ?_)
      exact Finset.mem_union.mpr (hpaid.imp_right RelaysOn.mem_views)
    have hrelays := card_relaySessions_le node
    have hunion := Finset.card_union_le node.core.sessions
      (views (fun _ forwarding => forwarding.relaySessionId) node.clientForwarding).toFinset
    omega
  · have hasked : node.pendingClientForwards.entries.length ≤
        node.clientForwarding.keys.toFinset.card := haccounted.alone.length_le_card
      (haccounted.asked.imp fun _ _ _ hawaits => by
        obtain ⟨held, hheld, -⟩ := hawaits
        exact List.mem_toFinset.mpr (AList.mem_keys.mp (mem_iff_lookup.mpr ⟨held, hheld⟩)))
    refine hasked.trans ((List.toFinset_card_le _).trans ?_)
    exact (List.length_map _).le
  · exact (TellsApart.keys.length_le_card haccounted.exits).trans hflows
  · refine le_trans (Finset.card_le_card ?_) hflows
    intro forwardingId hhandled
    obtain ⟨context, hcontext⟩ := Option.isSome_iff_exists.mp (hsound.handled _ hhandled)
    exact haccounted.exits _ _ hcontext
  · intro table htable
    exact (haccounted.nat table htable).size

section Carrier

open ReferenceRelay Relay.Flow

theorem tables_bounded_carries : ∃ node, (loop reference exitRelay).Reachable node ∧
    clientFlow.relaySessionId ∈ node.core.sessions ∧
    (node.channels.lookup clientFlow.relaySessionId).isSome ∧
    clientFlow.forwardingId ∈ node.core.flows ∧
    node.channels.entries.length ≤ 16 ∧ node.exitForwarding.entries.length ≤ 8 := by
  obtain ⟨node, hreach, hsession, hchannel, hflow⟩ := exit_carries
  have hbounded := tables_bounded hreach
  exact ⟨node, hreach, hsession, hchannel, hflow, hbounded.2.2.1, hbounded.2.2.2.2.2.1⟩

end Carrier

end Node

end Relay
