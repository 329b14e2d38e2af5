import GhostLayer.Foundation.Tables
import GhostLayer.Foundation.Transition
import GhostLayer.Network.NatLaws
import GhostLayer.Relay.Steps

/-! # What holds whenever a relay waits for an event

The tables of a relay belong together: channels are kept under their session
ids, a client session that is forwarded was accepted once and has one context,
and a forwarding id at the exit has been counted.
-/

namespace Relay

open Foundation Network

variable {ext : Externals}

namespace Node

/-- The runs of a relay that stays in its loop. -/
def loop (ext : Externals) (setup : Setup ext) : System Node where
  init := Started ext setup
  step node next := ∃ inputs event, handle ext setup inputs event node = (.ok (), next)

variable {node final : Node} {setup : Setup ext} {inputs : Inputs} {payload : Bytes}
  {peerId : PeerId} {channel : ResponseChannel}

/-! ## Channels -/

/-- Channels are kept under the ids of their sessions. -/
def Keyed (channels : AList (fun _ : SessionId => EncryptedChannel)) : Prop :=
  EveryEntry (fun sessionId channel => channel.session.sessionId = sessionId) channels

theorem Opens.sessionId {envelope : DataPlaneEnvelope} {message : DataPlaneMessage}
    {next : EncryptedChannel} (hopens : node.Opens ext envelope message next)
    (hkeyed : Keyed node.channels) : next.session.sessionId = envelope.sessionId := by
  obtain ⟨channel, hchannel, hreceive⟩ := hopens
  have hkeeps := DataPlane.receive_keeps ext defaultMaximumPayloadSize envelope channel
  rw [hreceive] at hkeeps
  exact hkeeps.trans (hkeyed _ _ hchannel)

theorem Seals.sessionId {sessionId : SessionId} {frame : Bytes} {next : EncryptedChannel}
    (hseals : node.Seals ext sessionId payload frame next) (hkeyed : Keyed node.channels) :
    next.session.sessionId = sessionId := by
  obtain ⟨channel, hchannel, hsend⟩ := hseals
  have hkeeps := DataPlane.send_keeps ext defaultMaximumPayloadSize payload channel
  rw [hsend] at hkeeps
  exact hkeeps.trans (hkeyed _ _ hchannel)

theorem Keyed.opened {envelope : DataPlaneEnvelope} {message : DataPlaneMessage}
    {next : EncryptedChannel} (hkeyed : Keyed node.channels)
    (hopens : node.Opens ext envelope message next) :
    Keyed (node.channels.insert envelope.sessionId next) :=
  hkeyed.insert (hopens.sessionId hkeyed)

theorem Keyed.sealed {sessionId : SessionId} {frame : Bytes} {next : EncryptedChannel}
    (hkeyed : Keyed node.channels) (hseals : node.Seals ext sessionId payload frame next) :
    Keyed (node.channels.insert sessionId next) :=
  hkeyed.insert (hseals.sessionId hkeyed)

theorem open_handler {maximumPacketSize mtu maximumPendingResponses : Nat}
    {handler : ExitPacketHandler}
    (hopen : ExitPacketHandler.open maximumPacketSize mtu maximumPendingResponses = .ok handler) :
    handler.closed = false ∧ handler.maximumPacketSize = maximumPacketSize ∧
      handler.handledPackets = ∅ := by
  simp only [ExitPacketHandler.open, Check.bind_eq_ok, pure, Except.pure,
    Except.ok.injEq] at hopen
  obtain ⟨_, _, rfl⟩ := hopen
  exact ⟨rfl, rfl, rfl⟩

/-! ## The invariant -/

/-- A client that this relay forwards for. `seen` are the sessions that were presented. -/
structure Forwards (setup : Setup ext) (seen : Finset SessionId) (clientSessionId : SessionId)
    (forwarding : ClientForwarding) : Prop where
  session : forwarding.context.clientSessionId = clientSessionId
  peer : forwarding.context.clientPeer = forwarding.clientPeer
  relay : forwarding.context.relaySessionId = some forwarding.relaySessionId
  seen : clientSessionId ∈ seen
  route : ∃ exitAddress, forwarding.context.route =
    .twoHop setup.peerId forwarding.context.exitPeer exitAddress

/-- A handshake with the exit of a client that is not forwarded yet. -/
structure Awaits (setup : Setup ext) (seen : Finset SessionId)
    (clientForwarding : AList (fun _ : SessionId => ClientForwarding)) (relaySessionId : SessionId)
    (pending : PendingRelayHandshake) : Prop where
  session : pending.initiator.sessionId = relaySessionId
  seen : pending.clientSessionId ∈ seen
  fresh : clientForwarding.lookup pending.clientSessionId = none
  route : ∃ exit exitAddress, pending.route = .twoHop setup.peerId exit exitAddress ∧
    pending.initiator.expectedPeer = exit ∧ pending.initiator.route = .oneHop exit
  relayInit : pending.relayInit = ((pending.initiator.initOf ext).toJson ext).render

/-- A context that has counted its message. -/
structure Counts (forwardingId : SessionId) (context : ForwardingContext) : Prop where
  own : context.forwardingId = forwardingId
  state : context.state = .forwarding
  lastRequest : context.lastRequest = some (forwardingId, .clientToExit)

/-- A translation table of this relay holds flows that were counted. -/
structure Translates (exitForwarding : AList (fun _ : SessionId => ForwardingContext))
    (table : NatTable) : Prop where
  coherent : table.Coherent
  flows : ∀ key mapping, table.mappings.lookup key = some mapping →
    (exitForwarding.lookup key.flowId).isSome
  lifetime : table.lifetime = 30 * 10 ^ 9
  maximum : table.maximumMappings = 1024

structure Sound (setup : Setup ext) (node : Node) : Prop where
  identity : node.sessionResponder.identity = setup.identity
  channels : Keyed node.channels
  clients : EveryEntry (Forwards setup node.sessionResponder.seenSessions) node.clientForwarding
  pending : EveryEntry (Awaits setup node.sessionResponder.seenSessions node.clientForwarding)
    node.pendingRelayHandshakes
  awaitedOnce : ∀ relaySessionId relaySessionId' pending pending',
    node.pendingRelayHandshakes.lookup relaySessionId = some pending →
    node.pendingRelayHandshakes.lookup relaySessionId' = some pending' →
    pending.clientSessionId = pending'.clientSessionId → relaySessionId = relaySessionId'
  exits : EveryEntry Counts node.exitForwarding
  handler : node.exitHandler.closed = false
  limit : node.exitHandler.maximumPacketSize = setup.config.tun.maximumPacketSize
  handled : ∀ forwardingId ∈ node.exitHandler.handledPackets,
    (node.exitForwarding.lookup forwardingId).isSome
  enabled : node.udpNat.isSome = setup.config.natEnabled
  nat : ∀ table ∈ node.udpNat, Translates node.exitForwarding table

theorem started_nat (hstarted : Started ext setup node) :
    node.udpNat.isSome = setup.config.natEnabled ∧
      ∀ table ∈ node.udpNat, Translates node.exitForwarding table := by
  have hnat := hstarted.udpNat
  split_ifs at hnat with henabled
  · obtain ⟨table, hnew, hsome⟩ := hnat
    have hcoherent := NatTable.new_coherent hnew
    simp only [NatTable.new, Check.bind_eq_ok, pure, Except.pure, Except.ok.injEq] at hnew
    obtain ⟨_, _, rfl⟩ := hnew
    refine ⟨by simp [hsome, henabled], ?_⟩
    rintro _ htable
    obtain rfl := Option.some.inj (hsome.symm.trans htable)
    exact ⟨hcoherent, by simp, rfl, rfl⟩
  · rw [hnat]
    exact ⟨by simpa using henabled, by simp⟩

theorem Started.sound (hstarted : Started ext setup node) : Sound setup node where
  identity := by rw [hstarted.sessionResponder]; rfl
  channels := by rw [hstarted.channels]; exact .empty
  clients := by rw [hstarted.clientForwarding]; exact .empty
  pending := by rw [hstarted.pendingRelayHandshakes]; exact .empty
  awaitedOnce := by rw [hstarted.pendingRelayHandshakes]; simp
  exits := by rw [hstarted.exitForwarding]; exact .empty
  handler := (open_handler hstarted.exitHandler).1
  limit := (open_handler hstarted.exitHandler).2.1
  handled := by rw [(open_handler hstarted.exitHandler).2.2]; simp
  enabled := (started_nat hstarted).1
  nat := (started_nat hstarted).2

/-! ## Steps keep it -/

/-- A session was presented, whether it was accepted or not. -/
theorem Sound.presented (hsound : Sound setup node) (responder : SessionResponder)
    (hidentity : responder.identity = node.sessionResponder.identity)
    (hseen : node.sessionResponder.seenSessions ⊆ responder.seenSessions) :
    Sound setup { node with sessionResponder := responder } :=
  { hsound with
    identity := hidentity.trans hsound.identity
    clients := hsound.clients.imp fun _ _ _ hforwards =>
      { hforwards with seen := hseen hforwards.seen }
    pending := hsound.pending.imp fun _ _ _ hawaits => { hawaits with seen := hseen hawaits.seen } }

/-- The context of a client was changed, which does not change what it is bound to. -/
theorem Sound.began (hsound : Sound setup node) {sessionId : SessionId}
    {forwarding : ClientForwarding} (requestId : SessionId) (direction : ForwardingDirection)
    (hfound : node.clientForwarding.lookup sessionId = some forwarding) :
    Sound setup (node.withClientContext sessionId forwarding
      (forwarding.context.begun requestId direction)) := by
  have hforwards := hsound.clients _ _ hfound
  refine { hsound with
    clients := hsound.clients.insert ⟨hforwards.session, hforwards.peer, hforwards.relay,
      hforwards.seen, hforwards.route⟩
    pending := hsound.pending.imp fun _ pending _ hawaits => { hawaits with fresh := ?_ } }
  have hother : pending.clientSessionId ≠ sessionId := by
    rintro rfl
    rw [hawaits.fresh] at hfound
    cases hfound
  simpa [withClientContext, hother] using hawaits.fresh

theorem Sound.relayed (hsound : Sound setup node) {sessionId : SessionId}
    {forwarding : ClientForwarding} {sealed : EncryptedChannel} {message : ForwardingMessage}
    {frame : Bytes} (hfound : node.clientForwarding.lookup sessionId = some forwarding)
    (hseals : node.Seals ext forwarding.relaySessionId payload frame sealed) :
    Sound setup (relayed ext inputs node sessionId forwarding sealed message channel) := by
  have hbegan := hsound.began forwarding.context.forwardingId .clientToExit hfound
  exact { hbegan with channels := hsound.channels.sealed hseals }

variable (node setup) in
theorem writeTun_run (forwarded : ForwardingMessage) (packet : ForwardedPacket) (payload : Bytes) :
    writeTun ext setup forwarded packet payload node = (.ok (), node) ∨
      writeTun ext setup forwarded packet payload node =
        (.ok (), node.withEffect (dispatchOf forwarded packet payload)) := by
  unfold writeTun
  cases setup.tunWriter with
  | false => exact .inl rfl
  | true =>
      cases NetworkPacket.new payload setup.config.tun.maximumPacketSize setup.config.tun.mtu with
      | error reason => exact .inl rfl
      | ok written => exact .inr rfl

theorem exchange_ok {forwarded : ForwardingMessage} {packet : ForwardedPacket}
    {answer : Option Bytes}
    (hrun : exchange ext setup inputs forwarded peerId packet payload node = (.ok answer, final)) :
    ∃ exitHandler udpNat contacted effects,
      final = { node with exitHandler, udpNat, contacted, effects } ∧
      (exitHandler = node.exitHandler ∨
        exitHandler = node.exitHandler.marked forwarded.forwardingId) ∧
      (udpNat = node.udpNat ∨ ∃ table mapping created source context,
        node.udpNat = some table ∧
        NatTable.create inputs.natNow inputs.natStamp (flowKeyOf forwarded packet source context)
          table = (.ok mapping, created) ∧
        udpNat = some (created.cleanup inputs.natReturn)) ∧
      (effects = node.effects ∨
        effects = node.effects ++ [dispatchOf forwarded packet payload]) := by
  unfold exchange at hrun
  cases hprotocol : packet.protocol with
  | udp =>
      simp only [hprotocol, Fallible.bind_eq_ok, exchangeUdp_eq_ok] at hrun
      obtain ⟨_, _, ⟨context, source, table, mapping, created, _, _, _, _, _, kept, _, _, _, _,
        htable, hcreate, _, _, _, _, hreverse, rfl⟩, hpure⟩ := hrun
      obtain ⟨_, rfl⟩ := Fallible.pure_eq_ok.mp hpure
      have hkept : created.cleanup inputs.natReturn = kept := by
        rw [← NatTable.lookupReverse_state, hreverse]
      exact ⟨_, _, _, _, rfl, .inr rfl, .inr ⟨table, mapping, created, source, context, htable,
        hcreate, by rw [hkept]⟩, .inr rfl⟩
  | dns =>
      simp only [hprotocol, Fallible.bind_eq_ok, exchangeDns_eq_ok] at hrun
      obtain ⟨_, _, ⟨_, _, _, _, _, _, _, _, _, _, _, rfl⟩, hpure⟩ := hrun
      obtain ⟨_, rfl⟩ := Fallible.pure_eq_ok.mp hpure
      exact ⟨_, node.udpNat, _, _, rfl, .inr rfl, .inl rfl, .inr rfl⟩
  | tcp =>
      simp only [hprotocol, Fallible.bind_eq_ok, exchangeTcp_eq_ok] at hrun
      obtain ⟨_, _, ⟨_, _, _, _, _, _, _, _, _, _, _, _, _, _, rfl⟩, hpure⟩ := hrun
      obtain ⟨_, rfl⟩ := Fallible.pure_eq_ok.mp hpure
      exact ⟨_, node.udpNat, _, _, rfl, .inr rfl, .inl rfl, .inr rfl⟩
  | ip =>
      simp only [hprotocol, Fallible.bind_eq_ok] at hrun
      obtain ⟨_, next, hwrite, hpure⟩ := hrun
      obtain ⟨_, rfl⟩ := Fallible.pure_eq_ok.mp hpure
      rcases writeTun_run node setup forwarded packet payload with
        hsame | hwritten
      · obtain ⟨_, rfl⟩ := Prod.mk.inj (hsame.symm.trans hwrite)
        exact ⟨node.exitHandler, node.udpNat, node.contacted, node.effects, rfl, .inl rfl, .inl rfl,
          .inl rfl⟩
      · obtain ⟨_, rfl⟩ := Prod.mk.inj (hwritten.symm.trans hwrite)
        exact ⟨node.exitHandler, node.udpNat, node.contacted, _, rfl, .inl rfl, .inl rfl, .inr rfl⟩

/-- The message that the exit counts is the first under its forwarding id. -/
theorem Sound.unused (hsound : Sound setup node) {forwarded : ForwardingMessage}
    {clientPeer : PeerId} {context : ForwardingContext} {packet : ForwardedPacket}
    (hcontext : ContextOf node forwarded clientPeer context)
    (hadmits : Admits ext context forwarded peerId packet) :
    node.exitForwarding.lookup forwarded.forwardingId = none ∧
      context = exitContext forwarded clientPeer := by
  cases hcontext with
  | known _ hknown =>
      exact absurd (hsound.exits _ _ hknown).lastRequest hadmits.begin.fresh
  | made hnone _ => exact ⟨hnone, rfl⟩

theorem Sound.counted (hsound : Sound setup node) {forwarded : ForwardingMessage}
    {context : ForwardingContext} {packet : ForwardedPacket}
    (hown : context.forwardingId = forwarded.forwardingId) :
    Sound setup (node.countedIn context forwarded packet) :=
  { hsound with
    exits := hsound.exits.insert ⟨hown, rfl, rfl⟩
    handled := fun forwardingId hhandled =>
      isSome_lookup_insert (.inr (hsound.handled forwardingId hhandled))
    nat := fun table htable =>
      { hsound.nat table htable with
        flows := fun key mapping hfound =>
          isSome_lookup_insert (.inr ((hsound.nat table htable).flows key mapping hfound)) } }

/-- A new mapping of a counted flow, and the cleanup that follows. -/
theorem Translates.create {exitForwarding : AList (fun _ : SessionId => ForwardingContext)}
    {table created : NatTable} {key : FlowKey} {mapping : NatMapping} {now stamp : Nat}
    (htranslates : Translates exitForwarding table)
    (hcreate : NatTable.create now stamp key table = (.ok mapping, created))
    (hflow : (exitForwarding.lookup key.flowId).isSome) : Translates exitForwarding created := by
  obtain ⟨_, _, _, hmappings, _⟩ := NatTable.create_ok hcreate
  refine ⟨htranslates.coherent.create hcreate, ?_, ?_, ?_⟩
  · intro key' mapping' hfound
    rw [hmappings] at hfound
    rcases lookup_insert_eq_some.mp hfound with ⟨rfl, _⟩ | ⟨_, hfound⟩
    · exact hflow
    · exact htranslates.flows _ _ (NatTable.cleanup_mappings.mp hfound).1
  · rw [(NatTable.create_limits hcreate).1, htranslates.lifetime]
  · rw [(NatTable.create_limits hcreate).2, htranslates.maximum]

theorem Translates.cleanup {exitForwarding : AList (fun _ : SessionId => ForwardingContext)}
    {table : NatTable} (htranslates : Translates exitForwarding table) (now : Nat) :
    Translates exitForwarding (table.cleanup now) where
  coherent := htranslates.coherent.cleanup now
  flows key mapping hfound :=
    htranslates.flows key mapping (NatTable.cleanup_mappings.mp hfound).1
  lifetime := (NatTable.foldl_drop_fields _ _).1.trans htranslates.lifetime
  maximum := (NatTable.foldl_drop_fields _ _).2.trans htranslates.maximum

theorem Sound.exited (hsound : Sound setup node) {forwarded : ForwardingMessage}
    {clientPeer : PeerId} {context : ForwardingContext} {packet : ForwardedPacket}
    {message : DataPlaneMessage} {opened : EncryptedChannel} {answer : Option Bytes} {next : Node}
    (hreaches : Reaches ext node forwarded peerId clientPeer context packet message opened)
    (hexchange : exchange ext setup inputs forwarded peerId packet packet.payload
      (node.reached forwarded context packet opened) = (.ok answer, next))
    (hanswers : Answers ext inputs next forwarded channel answer final) : Sound setup final := by
  have hopened : Sound setup (node.reached forwarded context packet opened) :=
    { hsound.counted hreaches.admits.belongs.forwardingId.symm with
      channels := hsound.channels.opened hreaches.opens }
  obtain ⟨exitHandler, udpNat, contacted, effects, rfl, hhandler, hnat, _⟩ := exchange_ok hexchange
  have hcounted : (((node.reached forwarded context packet opened).exitForwarding).lookup
      forwarded.forwardingId).isSome := isSome_lookup_insert (.inl rfl)
  have htranslated : udpNat.isSome = setup.config.natEnabled ∧ ∀ table ∈ udpNat, Translates
      (node.reached forwarded context packet opened).exitForwarding table := by
    rcases hnat with rfl | ⟨table, mapping, created, source, _, htable, hcreate, rfl⟩
    · exact ⟨hopened.enabled, hopened.nat⟩
    · refine ⟨by rw [← hopened.enabled, htable]; rfl, ?_⟩
      rintro _ hkept
      obtain rfl := Option.some.inj hkept
      exact ((hopened.nat table htable).create hcreate hcounted).cleanup inputs.natReturn
  have hnext : Sound setup { node.reached forwarded context packet opened with
      exitHandler, udpNat, contacted, effects } := by
    rcases hhandler with rfl | rfl
    · exact { hopened with enabled := htranslated.1, nat := htranslated.2 }
    · refine { hopened with
        enabled := htranslated.1
        nat := htranslated.2
        handled := fun forwardingId hhandled => ?_ }
      rcases Finset.mem_insert.mp hhandled with rfl | hold
      · exact hcounted
      · exact hopened.handled forwardingId hold
  cases answer with
  | none =>
      obtain rfl : _ = final := hanswers
      exact hnext
  | some response =>
      obtain ⟨frame, sealed, hseals, _, rfl⟩ := hanswers
      exact { hnext with channels := hnext.channels.sealed hseals }

/-- A request keeps the tables together. -/
theorem Sound.request (hsound : Sound setup node)
    (hstep : RequestStep ext setup inputs payload peerId channel node final) :
    Sound setup final := by
  cases hstep with
  | ignored => exact hsound
  | rejected init reason responder decoded kind rejects =>
      have hkeeps := SessionResponder.acceptInit_keeps ext init peerId
        setup.config.protocolVersion inputs.secret node.sessionResponder
      rw [rejects] at hkeeps
      rcases hkeeps with rfl | rfl
      · exact hsound
      · exact hsound.presented _ rfl (Finset.subset_insert _ _)
  | refused init response session responder decoded kind accepts full =>
      obtain ⟨_, _, _, _, _, _, rfl⟩ := SessionResponder.acceptInit_eq_ok.mp accepts
      have hpresented := hsound.presented ({ node.sessionResponder with
        seenSessions := insert init.sessionId node.sessionResponder.seenSessions }) rfl
        (Finset.subset_insert _ _)
      exact { hpresented with }
  | accepted init response session responder decoded kind accepts takes other =>
      obtain ⟨_, _, _, _, _, hsession, rfl⟩ := SessionResponder.acceptInit_eq_ok.mp accepts
      have hpresented := hsound.presented ({ node.sessionResponder with
        seenSessions := insert init.sessionId node.sessionResponder.seenSessions }) rfl
        (Finset.subset_insert _ _)
      exact { hpresented with channels := hsound.channels.insert rfl }
  | started init response session responder exit exitAddress decoded kind accepts takes route =>
      obtain ⟨hunseen, _, _, _, _, hsession, rfl⟩ := SessionResponder.acceptInit_eq_ok.mp accepts
      have hpresented := hsound.presented ({ node.sessionResponder with
        seenSessions := insert init.sessionId node.sessionResponder.seenSessions }) rfl
        (Finset.subset_insert _ _)
      -- The session was not presented before, so nobody is forwarded or waits for it.
      have hfresh : node.clientForwarding.lookup init.sessionId = none := by
        cases hfound : node.clientForwarding.lookup init.sessionId with
        | none => rfl
        | some forwarding => exact absurd (hsound.clients _ _ hfound).seen hunseen
      have hother : ∀ relaySessionId pending,
          node.pendingRelayHandshakes.lookup relaySessionId = some pending →
          pending.clientSessionId ≠ init.sessionId := by
        rintro relaySessionId pending hfound hsame
        exact hunseen (hsame ▸ (hsound.pending _ _ hfound).seen)
      refine { hpresented with
        channels := hsound.channels.insert rfl
        pending := hpresented.pending.insert ⟨rfl, Finset.mem_insert_self _ _, hfresh,
          ⟨exit, exitAddress, route, rfl, rfl⟩, rfl⟩
        awaitedOnce := ?_ }
      intro first second pending pending' hfirst hsecond hsame
      rcases lookup_insert_eq_some.mp hfirst with ⟨rfl, rfl⟩ | ⟨_, hfirst⟩ <;>
        rcases lookup_insert_eq_some.mp hsecond with ⟨rfl, rfl⟩ | ⟨_, hsecond⟩
      · rfl
      · exact absurd hsame.symm (hother _ _ hsecond)
      · exact absurd hsame (hother _ _ hfirst)
      · exact hsound.awaitedOnce _ _ _ _ hfirst hsecond hsame
  | metadata request json decoded encoded => exact { hsound with }
  | forwarded message forwarding packet opening opened frame sealed decoded found entry bound opens
      shown seals =>
      have hopened : Sound setup { node.withChannel message.data.sessionId opened with
          core := node.core.withFlow message.forwardingId opening.payload.length } :=
        { hsound with channels := hsound.channels.opened opens }
      exact hopened.relayed found seals
  | forwardedBare envelope forwarding opening opened frame sealed destination decoded found client
      opens seals =>
      have hopened : Sound setup (node.withChannel envelope.sessionId opened) :=
        { hsound with channels := hsound.channels.opened opens }
      exact hopened.relayed found seals
  | received envelope current decoded found =>
      exact { hsound with
        channels := hsound.channels.insert
          ((DataPlane.receive_keeps _ _ _ current).trans (hsound.channels _ _ found)) }
  | acknowledged envelope current opening opened frame sealed decoded found receives sends =>
      have hopens : node.Opens ext envelope opening opened := ⟨current, found, receives⟩
      have hkeeps := DataPlane.send_keeps ext defaultMaximumPayloadSize
        (acknowledgement opening) opened
      rw [sends] at hkeeps
      exact { hsound with
        channels := hsound.channels.insert (hkeeps.trans (hopens.sessionId hsound.channels)) }
  | exited message clientPeer context packet opening opened answer next _ decoded reaches exchanges
      answers => exact hsound.exited reaches exchanges answers

/-- A response keeps the tables together. -/
theorem Sound.response {requestId : RequestId} (hsound : Sound setup node)
    (hstep : ResponseStep ext inputs payload peerId requestId node final) :
    Sound setup final := by
  cases hstep with
  | ignored => exact hsound
  | dropped sessionId =>
      exact { hsound with
        pending := hsound.pending.erase sessionId
        awaitedOnce := fun first second pending pending' hfirst hsecond =>
          hsound.awaitedOnce first second pending pending'
            (lookup_erase_eq_some.mp hfirst).2 (lookup_erase_eq_some.mp hsecond).2 }
  | established response pending session entry exit exitAddress decoded found completes route
      peer =>
      have hawaits := hsound.pending _ _ found
      obtain ⟨exit', exitAddress', hroute, _⟩ := hawaits.route
      obtain ⟨rfl, rfl, rfl⟩ := RouteBinding.twoHop.inj (route.symm.trans hroute)
      refine { hsound with
        channels := hsound.channels.insert rfl
        clients := hsound.clients.insert ⟨rfl, rfl, rfl, hawaits.seen, exitAddress, route⟩
        pending := ?_
        awaitedOnce := fun first second pending pending' hfirst hsecond =>
          hsound.awaitedOnce first second pending pending'
            (lookup_erase_eq_some.mp hfirst).2 (lookup_erase_eq_some.mp hsecond).2 }
      -- Whoever else waits does so for another client.
      intro relaySessionId other hfound
      obtain ⟨hne, hfound⟩ := lookup_erase_eq_some.mp hfound
      have hother := hsound.pending _ _ hfound
      have hclient : other.clientSessionId ≠ pending.clientSessionId :=
        fun hsame => hne (hsound.awaitedOnce _ _ _ _ hfound found hsame)
      refine { hother with fresh := ?_ }
      simpa [established, hclient] using hother.fresh
  | returned pending response forwarding packet message opened frame sealed undecoded found decoded
      client belongs exit session opens seals =>
      have hopened : Sound setup (node.withChannel response.data.sessionId opened) :=
        { hsound with channels := hsound.channels.opened opens }
      have hbegan := hopened.began response.forwardingId .exitToClient client
      exact { hbegan with channels := hopened.channels.sealed seals }

/-- Every event keeps the tables together. -/
theorem Sound.step {event : LoopEvent} (hsound : Sound setup node)
    (hstep : Step ext setup inputs node event final) : Sound setup final := by
  cases hstep with
  | idle event state quiet => exact { hsound with }
  | listened address state lifecycle moves => exact { hsound with }
  | met peerId state none => exact { hsound with }
  | left peerId state => exact { hsound with }
  | beat now state =>
      refine { hsound with
        enabled := by simpa using hsound.enabled
        nat := ?_ }
      rintro _ hcleaned
      obtain ⟨table, htable, rfl⟩ := Option.map_eq_some_iff.mp hcleaned
      exact (hsound.nat table htable).cleanup now
  | requested payload peerId channel state _ hstep =>
      have hnoted : Sound setup { node with state } := { hsound with }
      exact hnoted.request hstep
  | responded payload peerId requestId state _ hstep =>
      have hnoted : Sound setup { node with state } := { hsound with }
      exact hnoted.response hstep
  | greeted peerId state pending waiting => exact { hsound with }
  | unsent payload relaySessionId current next found fails =>
      have hsame : next.session.sessionId = current.session.sessionId := by
        rcases fails with rfl | ⟨reason, hfails⟩
        · rfl
        · have hkeeps := DataPlane.send_keeps ext defaultMaximumPayloadSize payload current
          rwa [hfails] at hkeeps
      exact { hsound with
        channels := hsound.channels.insert (hsame.trans (hsound.channels _ _ found)) }
  | injected payload forwardingId forwarding relaySessionId frame sealed found active seals =>
      exact { hsound with channels := hsound.channels.sealed seals }

/-- Effects are never taken back. -/
theorem handle_effects_grow {event : LoopEvent}
    (hrun : handle ext setup inputs event node = (.ok (), final)) :
    node.effects <+: final.effects := by
  cases handle_step hrun with
  | idle | listened | met | left | beat | unsent => exact List.prefix_refl _
  | greeted | injected => exact List.prefix_append _ _
  | responded payload peerId requestId state _ hstep =>
      cases hstep with
      | ignored | dropped => exact List.prefix_refl _
      | established | returned => exact List.prefix_append _ _
  | requested payload peerId channel state _ hstep =>
      cases hstep with
      | ignored | rejected | refused | received => exact List.prefix_refl _
      | accepted | started | metadata | forwarded | forwardedBare | acknowledged =>
          exact List.prefix_append _ _
      | exited message clientPeer context packet opening opened answer next _ decoded reaches
          exchanges answers =>
          obtain ⟨_, _, _, effects, rfl, _, _, heffects⟩ := exchange_ok exchanges
          have hsent : node.effects <+: effects := by
            rcases heffects with rfl | rfl
            · exact List.prefix_refl _
            · exact List.prefix_append _ _
          cases answer with
          | none =>
              obtain rfl := answers
              exact hsent
          | some response =>
              obtain ⟨_, _, _, _, rfl⟩ := answers
              exact hsent.trans (List.prefix_append _ _)

theorem sound_of_reachable (hreach : (loop ext setup).Reachable node) : Sound setup node := by
  refine hreach.invariant (Sound setup) (fun _ hstarted => Started.sound hstarted) ?_
  rintro _ _ _ hsound ⟨inputs, event, hrun⟩
  exact hsound.step (handle_step hrun)

end Node

end Relay
