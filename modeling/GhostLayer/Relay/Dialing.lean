import GhostLayer.Relay.Admission

/-! # Handshakes that wait for an exit

An entry dials the exit of a client and sends its handshake when the exit
connects. One handshake is sent for every connection. While one waits at a time
each is sent; where several wait, which of them a connection sends is not
determined, and one that was sent before may be sent again.
-/

namespace Relay

open Foundation Network

variable {ext : Externals}

/-- The exit of a two-hop route. -/
def exitOf : RouteBinding → Option PeerId
  | .twoHop _ exit _ => some exit
  | .oneHop _ => none

namespace Node

variable {node final : Node} {setup : Setup ext} {inputs : Inputs} {payload : Bytes}
  {peerId exit : PeerId} {channel : ResponseChannel} {event : LoopEvent}

/-- The exit that an event makes the relay dial. -/
def dials (ext : Externals) (setup : Setup ext) (inputs : Inputs) (event : LoopEvent)
    (node : Node) : Option PeerId :=
  match event with
  | .network (.discoveryRequest peerId payload _) =>
      match readRequest ext payload with
      | .handshake init =>
          if (opens ext setup inputs event node).isSome ∧
              isEntry ext setup peerId init.routeContext = true then exitOf init.routeContext
          else none
      | .metadata _ | .forwarding _ | .envelope _ | .unknown => none
  | .network _ | .tun _ | .heartbeat => none

/-- An event that connects a peer. -/
def connects (peer : PeerId) : LoopEvent → Bool
  | .network (.peerConnected other) => other = peer
  | .network _ | .tun _ | .heartbeat => false

/-- The handshake of a pending entry was sent to an exit. -/
def SentTo (node : Node) (exit : PeerId) (pending : PendingRelayHandshake) : Prop :=
  ∃ requestId, Effect.request requestId exit pending.relayInit ∈ node.effects

theorem SentTo.mono {pending : PendingRelayHandshake}
    (hsent : node.SentTo exit pending) (heffects : node.effects ⊆ final.effects) :
    final.SentTo exit pending := by
  obtain ⟨requestId, hmem⟩ := hsent
  exact ⟨requestId, heffects hmem⟩

/-- A handshake waits for an exit. -/
def WaitsFor (node : Node) (exit : PeerId) (pending : PendingRelayHandshake) : Prop :=
  (∃ sessionId, node.pendingRelayHandshakes.lookup sessionId = some pending) ∧
    exitOf pending.route = some exit

/-- What an event adds to the handshakes that wait. -/
structure WaitStep (dialed : Option PeerId) (node final : Node) : Prop where
  sent : node.effects ⊆ final.effects
  waits : ∀ exit pending, final.WaitsFor exit pending →
    node.WaitsFor exit pending ∨ dialed = some exit

theorem WaitStep.kept {dialed : Option PeerId} (hsent : node.effects ⊆ final.effects)
    (hpending : final.pendingRelayHandshakes = node.pendingRelayHandshakes) :
    WaitStep dialed node final :=
  ⟨hsent, fun _ _ hwaits => .inl ⟨hpending ▸ hwaits.1, hwaits.2⟩⟩

theorem RequestStep.waits
    (hstep : RequestStep ext setup inputs payload peerId channel node final) :
    WaitStep (dials ext setup inputs
      (.network (.discoveryRequest peerId payload channel)) node) node
      final := by
  cases hstep with
  | ignored | rejected | refused | received => exact .kept (List.Subset.refl _) rfl
  | accepted | metadata | forwarded | forwardedBare | acknowledged =>
      exact .kept (List.subset_append_left _ _) rfl
  | started init response session responder exit exitAddress decoded kind accepts takes route
      entry =>
      have hopens := opens_admitted (presented_accepted channel decoded kind accepts)
        takes
      refine ⟨List.subset_append_left _ _, ?_⟩
      rintro exit' pending ⟨⟨sessionId, hfound⟩, hexit⟩
      rcases lookup_insert_eq_some.mp hfound with ⟨rfl, rfl⟩ | ⟨_, hold⟩
      · right
        simp only [dials, decoded, hopens, entry, Option.isSome_some, and_self, if_true]
        exact hexit
      · exact .inl ⟨⟨sessionId, hold⟩, hexit⟩
  | exited message clientPeer context packet opening opened answer next _ decoded reaches exchanges
      answers =>
      obtain ⟨exitHandler, udpNat, contacted, effects, rfl, _, _, heffects⟩ := exchange_ok exchanges
      have hsent : node.effects ⊆ effects := by
        rcases heffects with rfl | rfl
        · exact List.Subset.refl _
        · exact List.subset_append_left _ _
      cases answer with
      | none =>
          obtain rfl := answers
          exact .kept hsent rfl
      | some response =>
          obtain ⟨_, _, _, _, rfl⟩ := answers
          exact .kept (List.Subset.trans hsent (List.subset_append_left _ _)) rfl

/-- Every event adds to the handshakes that wait only by dialing. -/
theorem Step.waits (hstep : Step ext setup inputs node event final) :
    WaitStep (dials ext setup inputs event node) node final := by
  cases hstep with
  | idle | listened | met | left | beat | unsent => exact .kept (List.Subset.refl _) rfl
  | greeted | injected => exact .kept (List.subset_append_left _ _) rfl
  | requested payload peerId channel state _ step =>
      have hwaits := RequestStep.waits step
      exact ⟨hwaits.sent, hwaits.waits⟩
  | responded payload peerId requestId state _ step =>
      cases step with
      | ignored => exact .kept (List.Subset.refl _) rfl
      | returned => exact .kept (List.subset_append_left _ _) rfl
      | dropped sessionId =>
          refine ⟨List.Subset.refl _, fun exit pending hwaits => .inl ?_⟩
          obtain ⟨⟨other, hfound⟩, hexit⟩ := hwaits
          exact ⟨⟨other, (lookup_erase_eq_some.mp hfound).2⟩, hexit⟩
      | established =>
          refine ⟨List.subset_append_left _ _, fun exit pending hwaits => .inl ?_⟩
          obtain ⟨⟨other, hfound⟩, hexit⟩ := hwaits
          exact ⟨⟨other, (lookup_erase_eq_some.mp hfound).2⟩, hexit⟩

/-- The handshake that is sent waits for the exit that connected. -/
theorem waitsFor_of_waitingFor {pending : PendingRelayHandshake}
    (hwaiting : waitingFor inputs exit node = some pending) : node.WaitsFor exit pending := by
  refine ⟨waitingFor_eq_some hwaiting, ?_⟩
  have hmatches := List.find?_some hwaiting
  cases hroute : pending.route with
  | oneHop relay => simp [hroute] at hmatches
  | twoHop entry exit' exitAddress =>
      simp only [hroute, decide_eq_true_eq] at hmatches
      rw [exitOf, hmatches]

variable (inputs) in
/-- Where a handshake waits for the exit that connects, one is sent. -/
theorem WaitsFor.waitingFor {pending : PendingRelayHandshake}
    (hwaits : node.WaitsFor exit pending) :
    ∃ first, Node.waitingFor inputs exit node = some first := by
  obtain ⟨⟨sessionId, hfound⟩, hexit⟩ := hwaits
  refine Option.isSome_iff_exists.mp (List.find?_isSome.mpr ⟨pending, ?_, ?_⟩)
  · refine List.mem_map.mpr ⟨⟨sessionId, pending⟩, List.mem_rotate.mpr ?_, rfl⟩
    exact AList.mem_lookup_iff.mp hfound
  · cases hroute : pending.route with
    | oneHop relay => simp [hroute, exitOf] at hexit
    | twoHop entry exit' exitAddress =>
        rw [hroute] at hexit
        simpa using Option.some.inj hexit

/-- The only handshake that waits for an exit is sent when the exit connects. -/
theorem Step.sends {pending : PendingRelayHandshake}
    (hstep : Step ext setup inputs node (.network (.peerConnected exit)) final)
    (hwaits : node.WaitsFor exit pending)
    (honly : ∀ other, node.WaitsFor exit other → other = pending) : final.SentTo exit pending := by
  cases hstep with
  | idle _ _ quiet => cases quiet
  | met _ _ none =>
      obtain ⟨first, hfirst⟩ := hwaits.waitingFor inputs
      cases none.symm.trans hfirst
  | greeted _ _ first waiting =>
      obtain rfl := honly first (waitsFor_of_waitingFor waiting)
      exact ⟨inputs.requestId, by simp [withEffect]⟩

end Node

/-! ## Runs -/

/-- A relay together with how often it dialed an exit and how often the exit connected. -/
structure Dialed where
  node : Node
  dials : Nat
  connections : Nat

namespace Dialed

open Node

/-- The runs of a relay on events that are allowed, in which an exit connects once for each time
that it was dialed. -/
def run (ext : Externals) (setup : Setup ext) (exit : PeerId) (allowed : LoopEvent → Node → Prop) :
    System Dialed where
  init dialed := Started ext setup dialed.node ∧ dialed.dials = 0 ∧ dialed.connections = 0
  step dialed next := ∃ inputs event, allowed event dialed.node ∧
    (connects exit event = true → dialed.connections < dialed.dials) ∧
    handle ext setup inputs event dialed.node = (.ok (), next.node) ∧
    next.dials = dialed.dials +
      (if Node.dials ext setup inputs event dialed.node = some exit then 1 else 0) ∧
    next.connections = dialed.connections + (if connects exit event then 1 else 0)

/-- When an exit connects, a handshake that was not sent to it is the only one that waits. -/
def OneWaits (exit : PeerId) (event : LoopEvent) (node : Node) : Prop :=
  connects exit event = true → ∀ pending other, node.WaitsFor exit pending →
    ¬ node.SentTo exit pending → node.WaitsFor exit other → other = pending

/-- A handshake that was not sent has a connection to come. -/
structure Expected (exit : PeerId) (dialed : Dialed) : Prop where
  bounded : dialed.connections ≤ dialed.dials
  unsent : ∀ pending, dialed.node.WaitsFor exit pending → ¬ dialed.node.SentTo exit pending →
    dialed.connections < dialed.dials

variable {setup : Setup ext} {exit : PeerId} {dialed : Dialed}

theorem connects_eq_true {event : LoopEvent} (hconnects : connects exit event = true) :
    event = .network (.peerConnected exit) := by
  cases event with
  | tun | heartbeat => cases hconnects
  | network event =>
      cases event with
      | peerConnected other =>
          obtain rfl := of_decide_eq_true hconnects
          rfl
      | listening | peerDisconnected | peerIdentified | pingResult | networkError
      | discoveryRequest | discoveryResponse => cases hconnects

theorem expected (hreach : (run ext setup exit (OneWaits exit)).Reachable dialed) :
    Expected exit dialed := by
  refine hreach.invariant (Expected exit) ?_ ?_
  · rintro dialed ⟨hstarted, hdials, hconnections⟩
    refine ⟨by rw [hdials, hconnections], ?_⟩
    rintro pending ⟨⟨sessionId, hfound⟩, _⟩
    simp [hstarted.pendingRelayHandshakes] at hfound
  · rintro dialed next _ hexpected ⟨inputs, event, hone, hless, hrun, hdials, hconnections⟩
    have hstep := handle_step hrun
    have hwaits := hstep.waits
    by_cases hconnects : connects exit event = true
    · have hbounded := hless hconnects
      rw [if_pos hconnects] at hconnections
      refine ⟨by omega, fun pending hwaiting hunsent => ?_⟩
      -- No handshake is dialed for by a connection, and the one that waited was sent.
      obtain rfl := connects_eq_true hconnects
      have hbefore := (hwaits.waits exit pending hwaiting).resolve_right nofun
      have hold : ¬ dialed.node.SentTo exit pending := fun hsent => hunsent (hsent.mono hwaits.sent)
      exact absurd (hstep.sends hbefore fun other =>
        hone hconnects pending other hbefore hold) hunsent
    · rw [if_neg hconnects] at hconnections
      refine ⟨by have := hexpected.bounded; omega, fun pending hwaiting hunsent => ?_⟩
      rcases hwaits.waits exit pending hwaiting with hbefore | hdialed
      · have := hexpected.unsent pending hbefore fun hsent => hunsent (hsent.mono hwaits.sent)
        omega
      · rw [if_pos hdialed] at hdials
        have := hexpected.bounded
        omega

/-- Once the exit has connected for every dial, every handshake that waits for it was sent to it,
in a run in which such handshakes wait one at a time. -/
theorem waiting_sent (hreach : (run ext setup exit (OneWaits exit)).Reachable dialed)
    (hall : dialed.connections = dialed.dials) {pending : PendingRelayHandshake}
    (hwaits : dialed.node.WaitsFor exit pending) : dialed.node.SentTo exit pending := by
  by_contra hunsent
  exact absurd ((expected hreach).unsent pending hwaits hunsent) (by omega)

/-! ## Runs over the reference instance -/

theorem dials_joining {node : Node} {inputs : Inputs} {initiator : SessionInitiator}
    {channel : ResponseChannel} {exitAddress : String}
    (hjoins : Joins setup node inputs initiator) (hparse : ext.ParsesJson)
    (hreads : ext.ReadsIdentities) (hsigns : ext.SignaturesVerify)
    (htakes : node.core.TakesSession)
    (hroute : initiator.route = .twoHop setup.peerId exit exitAddress)
    (hrole : setup.config.relayRole ≠ .exit) :
    Node.dials ext setup inputs (joining ext initiator channel) node = some exit := by
  have hopens := opens_admitted (Watched.presented_joining channel hjoins hparse hreads
    hsigns) htakes
  have hown : (initiator.initOf ext).routeContext = .twoHop setup.peerId exit exitAddress := hroute
  rw [joining] at hopens ⊢
  simp only [Node.dials, readRequest_initOf hparse hreads, hopens, hown, isEntry, exitOf,
    Option.isSome_some, true_and, decide_eq_true_eq]
  simp [hrole]

section Runs

open ReferenceRelay

/-- The relay over the reference instance. -/
noncomputable def entrySetup : Setup reference := ReferenceRelay.setup .both (bounds 8 8 8)

theorem listening_reachable (allowed : LoopEvent → Node → Prop)
    (hallowed : allowed (.network (.listening "")) (started .both (bounds 8 8 8))) :
    (run reference entrySetup ⟨[3]⟩ allowed).Reachable ⟨ready .both (bounds 8 8 8), 0, 0⟩ :=
  have hstarted : (run reference entrySetup ⟨[3]⟩ allowed).Reachable
      ⟨started .both (bounds 8 8 8), 0, 0⟩ := .of_init ⟨isStarted .both (bounds 8 8 8), rfl, rfl⟩
  hstarted.tail ⟨inputs 0, .network (.listening ""), hallowed, nofun, rfl, rfl, rfl⟩

/-- A client that wants to reach the exit [3] over this relay. -/
def client (peer index : UInt8) : SessionInitiator :=
  initiator peer index (.twoHop ⟨[2]⟩ ⟨[3]⟩ "")

/-- The handshake that then waits for the exit. -/
noncomputable def waiting (peer index draw : UInt8) : PendingRelayHandshake where
  initiator := relayInitiator entrySetup (inputs draw) ⟨[3]⟩
  clientSessionId := ⟨Vector.replicate 16 index⟩
  clientPeer := ⟨[peer]⟩
  route := .twoHop ⟨[2]⟩ ⟨[3]⟩ ""
  clientResponse := joinedResponse entrySetup (inputs draw) (client peer index)
  clientResponseChannel := some ⟨⟨[peer]⟩, 0⟩
  relayInit := (((relayInitiator entrySetup (inputs draw) ⟨[3]⟩).initOf reference).toJson
    reference).render

theorem client_awaits {allowed : LoopEvent → Node → Prop} {dialed : Dialed}
    (peer index draw : UInt8)
    (hreach : (run reference entrySetup ⟨[3]⟩ allowed).Reachable dialed)
    (hidentity : dialed.node.sessionResponder.identity = ⟨[2]⟩)
    (hunseen : ⟨Vector.replicate 16 index⟩ ∉ dialed.node.sessionResponder.seenSessions)
    (htakes : dialed.node.core.TakesSession)
    (hallowed : allowed (joining reference (client peer index) ⟨⟨[peer]⟩, 0⟩) dialed.node) :
    ∃ final, (run reference entrySetup ⟨[3]⟩ allowed).Reachable
        ⟨final, dialed.dials + 1, dialed.connections⟩ ∧
      Joined reference (inputs draw) (client peer index) dialed.node final ∧
      final.pendingRelayHandshakes = dialed.node.pendingRelayHandshakes.insert
        ⟨Vector.replicate 16 (draw + 100)⟩ (waiting peer index draw) ∧
      final.effects = dialed.node.effects ++ [.dial ""] := by
  have hrole : entrySetup.config.relayRole ≠ .exit := by simp
    [entrySetup, ReferenceRelay.setup, config]
  have hjoins : Joins entrySetup dialed.node (inputs draw) (client peer index) :=
    joins .both (bounds 8 8 8) hidentity hunseen (by simp [RouteBinding.Valid])
      (by simp [RouteBinding.peers]) rfl
  obtain ⟨final, hrun, hjoined, hpending, heffects⟩ := hjoins.awaits ⟨⟨[peer]⟩, 0⟩
    reference.parsesJson reference.readsIdentities reference.signaturesVerify htakes rfl hrole
  refine ⟨final, hreach.tail ⟨inputs draw, _, hallowed, ?_, hrun, ?_, rfl⟩, hjoined, hpending,
    heffects⟩
  · intro hconnected
    cases hconnected
  rw [if_pos (dials_joining hjoins reference.parsesJson reference.readsIdentities
    reference.signaturesVerify htakes rfl hrole)]

theorem exit_connects {allowed : LoopEvent → Node → Prop} {dialed : Dialed}
    {pending : PendingRelayHandshake}
    (hreach : (run reference entrySetup ⟨[3]⟩ allowed).Reachable dialed)
    (hallowed : allowed (.network (.peerConnected ⟨[3]⟩)) dialed.node)
    (hless : dialed.connections < dialed.dials)
    (hwaiting : waitingFor (inputs 0) ⟨[3]⟩ dialed.node = some pending) :
    ∃ final, (run reference entrySetup ⟨[3]⟩ allowed).Reachable
        ⟨final, dialed.dials, dialed.connections + 1⟩ ∧
      final.pendingRelayHandshakes = dialed.node.pendingRelayHandshakes ∧
      final.effects = dialed.node.effects ++ [.request 0 ⟨[3]⟩ pending.relayInit] := by
  obtain ⟨state, hrun⟩ := handle_greeted reference entrySetup hwaiting
  exact ⟨_, hreach.tail ⟨inputs 0, .network (.peerConnected ⟨[3]⟩), hallowed, fun _ => hless, hrun,
    rfl, rfl⟩, rfl, rfl⟩

theorem waiting_differs {peer peer' index index' : UInt8} :
    (waiting peer index 0).relayInit ≠ (waiting peer' index' 1).relayInit := by
  intro hsame
  have hjson := congrArg (HandshakeInit.fromJson reference) (Json.render_injective hsame)
  rw [HandshakeInit.fromJson_toJson reference.readsIdentities,
    HandshakeInit.fromJson_toJson reference.readsIdentities] at hjson
  have hsession := congrArg HandshakeInit.sessionId (Option.some.inj hjson)
  revert hsession
  show (⟨Vector.replicate 16 (0 + 100)⟩ : SessionId) ≠ ⟨Vector.replicate 16 (1 + 100)⟩
  decide

end Runs

open ReferenceRelay in
/-- Two clients wait for one exit. It connects twice, and both times the handshake of the second
client is sent. -/
theorem waiting_skipped :
    ¬ ∀ (ext : Externals) (setup : Setup ext) (exit : PeerId) (dialed : Dialed)
        (pending : PendingRelayHandshake),
      (run ext setup exit fun _ _ => True).Reachable dialed → dialed.connections = dialed.dials →
      dialed.node.WaitsFor exit pending → dialed.node.SentTo exit pending := by
  intro hclaim
  obtain ⟨first, hfirst, hjoined, hpending, heffects⟩ :=
    client_awaits 1 5 0 (listening_reachable (fun _ _ => True) trivial) rfl
    (by simp [ready, started, SessionResponder.new]) ⟨.inl rfl, show 0 < 8 by decide⟩ trivial
  have hcore : first.core = (ready .both (bounds 8 8 8)).core.withSession ⟨Vector.replicate 16 5⟩ :=
    hjoined.core
  obtain ⟨second, hsecond, _, hpending', heffects'⟩ :=
    client_awaits 4 6 1 hfirst (congrArg SessionResponder.identity hjoined.responder)
    (by simp only [hjoined.responder]; decide)
    (by simp only [hcore]; exact ⟨.inl rfl, show 1 < 8 by decide⟩) trivial
  have hboth : second.pendingRelayHandshakes = ((∅ : AList fun _ : SessionId =>
      PendingRelayHandshake).insert ⟨Vector.replicate 16 100⟩ (waiting 1 5 0)).insert
        ⟨Vector.replicate 16 101⟩ (waiting 4 6 1) := by
    exact hpending'.trans
      (congrArg (AList.insert ⟨Vector.replicate 16 101⟩ (waiting 4 6 1)) hpending)
  -- Both rounds read the map from one point on, where the second client comes first.
  have hwaiting : ∀ node : Node, node.pendingRelayHandshakes = second.pendingRelayHandshakes →
      waitingFor (inputs 0) ⟨[3]⟩ node = some (waiting 4 6 1) := by
    intro node hsame
    rw [waitingFor, hsame, hboth]
    rfl
  obtain ⟨third, hthird, hkept, hsent⟩ := exit_connects hsecond trivial (show 0 < 2 by decide)
    (hwaiting second rfl)
  obtain ⟨fourth, hfourth, hkept', hsent'⟩ := exit_connects hthird trivial (show 1 < 2 by decide)
    (hwaiting third hkept)
  have hfound : fourth.pendingRelayHandshakes.lookup ⟨Vector.replicate 16 100⟩ =
      some (waiting 1 5 0) := by
    rw [hkept', hkept, hboth, AList.lookup_insert_ne (by decide)]
    exact AList.lookup_insert _
  obtain ⟨requestId, hmem⟩ := hclaim _ _ _ _ _ hfourth rfl ⟨⟨_, hfound⟩, rfl⟩
  simp only [hsent', hsent, heffects', heffects] at hmem
  simp [ready, started, waiting_differs] at hmem

open ReferenceRelay in
/-- A client waits alone, and its handshake is sent when the exit connects. -/
theorem waiting_sent_alone : ∃ dialed : Dialed, dialed.node.WaitsFor ⟨[3]⟩ (waiting 1 5 0) ∧
    dialed.node.SentTo ⟨[3]⟩ (waiting 1 5 0) := by
  obtain ⟨first, hfirst, _, hpending, _⟩ := client_awaits 1 5 0
    (listening_reachable (OneWaits ⟨[3]⟩) nofun) rfl
    (by simp [ready, started, SessionResponder.new]) ⟨.inl rfl, show 0 < 8 by decide⟩ nofun
  have hone : first.pendingRelayHandshakes = (∅ : AList fun _ : SessionId =>
      PendingRelayHandshake).insert ⟨Vector.replicate 16 100⟩ (waiting 1 5 0) := hpending
  have honly : OneWaits ⟨[3]⟩ (.network (.peerConnected ⟨[3]⟩)) first := by
    rintro _ pending other ⟨⟨_, hfound⟩, _⟩ _ ⟨⟨_, hfound'⟩, _⟩
    rw [hone, lookup_insert_eq_some] at hfound hfound'
    simp at hfound hfound'
    rw [← hfound.2, ← hfound'.2]
  have hwaiting : waitingFor (inputs 0) ⟨[3]⟩ first = some (waiting 1 5 0) := by
    rw [waitingFor, hone]
    rfl
  obtain ⟨second, hsecond, hkept, _⟩ := exit_connects hfirst honly (show 0 < 1 by decide) hwaiting
  have hwaits : second.WaitsFor ⟨[3]⟩ (waiting 1 5 0) :=
    ⟨⟨⟨Vector.replicate 16 100⟩, by rw [hkept, hone]; exact AList.lookup_insert _⟩, rfl⟩
  exact ⟨_, hwaits, waiting_sent hsecond rfl hwaits⟩

end Dialed

end Relay
