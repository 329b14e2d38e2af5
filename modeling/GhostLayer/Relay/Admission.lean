import GhostLayer.Relay.CoreLaws
import GhostLayer.Relay.Joining

/-! # Who gets a session

The resource policy counts connected peers and active sessions. Peers are let
go when they disconnect; their sessions are counted for as long as the relay
runs. A peer that the policy refused still gets a session when it asks for one.
-/

namespace Relay

open Foundation Network

variable {ext : Externals}

namespace RelayCore

@[simp] theorem withFlow_limits (core : RelayCore) (flow : SessionId) (bytes : Nat) :
    (core.withFlow flow bytes).limits = core.limits := by
  unfold withFlow
  split_ifs <;> rfl

@[simp] theorem withFlow_peers (core : RelayCore) (flow : SessionId) (bytes : Nat) :
    (core.withFlow flow bytes).peers = core.peers := by
  unfold withFlow
  split_ifs <;> rfl

@[simp] theorem withFlow_sessions (core : RelayCore) (flow : SessionId) (bytes : Nat) :
    (core.withFlow flow bytes).sessions = core.sessions := by
  unfold withFlow
  split_ifs <;> rfl

theorem admitSession_full {core : RelayCore} {session : SessionId} (htakes : core.TakesOn)
    (hfull : core.limits.maximumActiveSessions ≤ core.sessions.card) :
    (admitSession session core).1 = .error .sessionLimit := by
  have hlife : ¬ (core.lifecycle ≠ .ready ∧ core.lifecycle ≠ .discovering) := by
    rcases htakes with hready | hdiscovering
    · exact fun hneither => hneither.1 hready
    · exact fun hneither => hneither.2 hdiscovering
  simp only [admitSession, Fallible.get_bind_run, Fallible.failWhen_bind_run, if_neg hlife,
    if_pos hfull]

theorem sessionLimit_full {core : RelayCore} {session : SessionId}
    (hrefused : (admitSession session core).1 = .error .sessionLimit) :
    core.TakesOn ∧ core.limits.maximumActiveSessions ≤ core.sessions.card := by
  simp only [admitSession, Fallible.get_bind_run, Fallible.failWhen_bind_run,
    Fallible.modify_run] at hrefused
  split_ifs at hrefused with hlife hfull
  · simp at hrefused
  · exact ⟨by unfold TakesOn; tauto, hfull⟩

@[simp] theorem noted_limits (core : RelayCore) (peer : PeerId) :
    (core.noted peer).limits = core.limits := by
  unfold noted
  split_ifs <;> rfl

@[simp] theorem noted_lifecycle (core : RelayCore) (peer : PeerId) :
    (core.noted peer).lifecycle = core.lifecycle := by
  unfold noted
  split_ifs <;> rfl

@[simp] theorem noted_sessions (core : RelayCore) (peer : PeerId) :
    (core.noted peer).sessions = core.sessions := by
  unfold noted
  split_ifs <;> rfl

end RelayCore

namespace Node

variable {node final : Node} {setup : Setup ext} {inputs : Inputs} {payload : Bytes}
  {peerId : PeerId} {channel : ResponseChannel} {event : LoopEvent}

/-! ## What events do to the policy -/

/-- The peer and the session of the handshake that an event brings, if it is accepted. -/
def presented (ext : Externals) (setup : Setup ext) (inputs : Inputs) (event : LoopEvent)
    (node : Node) : Option (PeerId × SessionId) :=
  match event with
  | .network (.discoveryRequest peerId payload _) =>
      match readRequest ext payload with
      | .handshake init =>
          if init.kind ≠ "secure_session_init" then none
          else match (SessionResponder.acceptInit ext init peerId setup.config.protocolVersion
              inputs.secret node.sessionResponder).1 with
            | .ok (_, session) => some (peerId, session.sessionId)
            | .error _ | .panic => none
      | .metadata _ | .forwarding _ | .envelope _ | .unknown => none
  | .network _ | .tun _ | .heartbeat => none

/-- The session that an event enters in the channels, with its peer. -/
def opens (ext : Externals) (setup : Setup ext) (inputs : Inputs) (event : LoopEvent)
    (node : Node) : Option (PeerId × SessionId) :=
  (presented ext setup inputs event node).filter
    (fun entry => decide (RelayCore.admitSession entry.2 node.core).1.IsOk)

section Presented

variable {init : HandshakeInit} {response : HandshakeResponse} {session : SecureSession}
  {responder : SessionResponder}

theorem presented_eq_none
    (hother : ∀ init, readRequest ext payload = .handshake init →
      init.kind ≠ "secure_session_init") :
    presented ext setup inputs
      (.network (.discoveryRequest peerId payload channel)) node = none := by
  cases hread : readRequest ext payload with
  | handshake init => simp [presented, hread, hother init hread]
  | metadata | forwarding | envelope | unknown => simp [presented, hread]

theorem presented_rejected {reason : SessionError}
    (hdecoded : readRequest ext payload = .handshake init)
    (hrejects : SessionResponder.acceptInit ext init peerId setup.config.protocolVersion
      inputs.secret node.sessionResponder = (.error reason, responder)) :
    presented ext setup inputs
      (.network (.discoveryRequest peerId payload channel)) node = none := by
  simp [presented, hdecoded, hrejects]

variable (channel) in
theorem presented_accepted (hdecoded : readRequest ext payload = .handshake init)
    (hkind : init.kind = "secure_session_init")
    (haccepts : SessionResponder.acceptInit ext init peerId setup.config.protocolVersion
      inputs.secret node.sessionResponder = (.ok (response, session), responder)) :
    presented ext setup inputs (.network (.discoveryRequest peerId payload channel)) node =
      some (peerId, session.sessionId) := by
  simp [presented, hdecoded, hkind, haccepts]

theorem opens_eq_none
    (hpresented : presented ext setup inputs event node = none) :
    opens ext setup inputs event node = none := by
  rw [opens, hpresented, Option.filter_none]

theorem opens_refused {entry : PeerId × SessionId}
    (hpresented : presented ext setup inputs event node = some entry)
    (hfull : ¬ node.core.TakesSession) : opens ext setup inputs event node = none := by
  obtain ⟨reason, hrefused⟩ := (RelayCore.admitSession_run entry.2 node.core).2 hfull
  simp [opens, hpresented, hrefused, Outcome.IsOk]

theorem opens_admitted {entry : PeerId × SessionId}
    (hpresented : presented ext setup inputs event node = some entry)
    (htakes : node.core.TakesSession) : opens ext setup inputs event node = some entry := by
  have hadmit := (RelayCore.admitSession_run entry.2 node.core).1 htakes
  simp [opens, hpresented, hadmit, Outcome.IsOk]

end Presented

/-- The peers that the policy counts after an event. -/
def peersAfter (event : LoopEvent) (core : RelayCore) : Finset PeerId :=
  match event with
  | .network (.peerConnected peerId) => (core.noted peerId).peers
  | .network (.peerDisconnected peerId) => core.peers.erase peerId
  | .network _ | .tun _ | .heartbeat => core.peers

/-- What an event that opens at most one session does to the policy. -/
structure PolicyStep (opened : Option (PeerId × SessionId)) (counted : Finset PeerId)
    (node final : Node) : Prop where
  limits : final.core.limits = node.core.limits
  peers : final.core.peers = counted
  sessions : final.core.sessions = opened.elim node.core.sessions
    fun entry => insert entry.2 node.core.sessions
  seen : node.sessionResponder.seenSessions ⊆ final.sessionResponder.seenSessions
  unseen : ∀ entry ∈ opened, entry.2 ∉ node.sessionResponder.seenSessions
  entered : ∀ entry ∈ opened, entry.2 ∈ final.sessionResponder.seenSessions ∧
    entry.2 ∈ final.channels

/-- An event that opens no session. -/
theorem PolicyStep.kept {opened : Option (PeerId × SessionId)} {counted : Finset PeerId}
    (hopened : opened = none) (hlimits : final.core.limits = node.core.limits)
    (hpeers : final.core.peers = counted) (hsessions : final.core.sessions = node.core.sessions)
    (hresponder : node.sessionResponder.seenSessions ⊆ final.sessionResponder.seenSessions) :
    PolicyStep opened counted node final := by
  subst hopened
  exact ⟨hlimits, hpeers, hsessions, hresponder, by simp, by simp⟩

/-- A handshake that is accepted opens a session under an id that was not seen. -/
theorem PolicyStep.of_accepted {init : HandshakeInit} {response : HandshakeResponse}
    {session : SecureSession} {responder : SessionResponder}
    (haccepts : SessionResponder.acceptInit ext init peerId setup.config.protocolVersion
      inputs.secret node.sessionResponder = (.ok (response, session), responder)) :
    PolicyStep (some (peerId, session.sessionId)) node.core.peers node
      (node.admitted responder session) := by
  obtain ⟨hunseen, _, _, _, _, rfl, rfl⟩ := SessionResponder.acceptInit_eq_ok.mp haccepts
  refine ⟨rfl, rfl, rfl, Finset.subset_insert _ _, ?_, ?_⟩
  · rintro _ ⟨⟩
    exact hunseen
  · rintro _ ⟨⟩
    exact ⟨Finset.mem_insert_self _ _, AList.mem_insert _ |>.mpr (.inl rfl)⟩

theorem RequestStep.policy
    (hstep : RequestStep ext setup inputs payload peerId channel node final) :
    PolicyStep (opens ext setup inputs (.network (.discoveryRequest peerId payload channel)) node)
      node.core.peers node final := by
  cases hstep with
  -- A handshake opens a session or none; every other request leaves the policy alone.
  | ignored other =>
      exact .kept (opens_eq_none (presented_eq_none other)) rfl rfl rfl subset_rfl
  | rejected init reason responder decoded kind rejects =>
      refine .kept (opens_eq_none (presented_rejected decoded rejects)) rfl rfl rfl ?_
      have hkeeps := SessionResponder.acceptInit_keeps ext init peerId
        setup.config.protocolVersion inputs.secret node.sessionResponder
      rw [rejects] at hkeeps
      rcases hkeeps with rfl | rfl
      · exact subset_rfl
      · exact Finset.subset_insert _ _
  | refused init response session responder decoded kind accepts full =>
      refine .kept (opens_refused (presented_accepted _ decoded kind accepts) full) rfl rfl rfl ?_
      exact (PolicyStep.of_accepted accepts).seen
  | accepted init response session responder decoded kind accepts takes other =>
      rw [opens_admitted (presented_accepted _ decoded kind accepts) takes]
      exact { PolicyStep.of_accepted accepts with }
  | started init response session responder exit exitAddress decoded kind accepts takes route =>
      rw [opens_admitted (presented_accepted _ decoded kind accepts) takes]
      exact { PolicyStep.of_accepted accepts with }
  | metadata request json decoded encoded =>
      exact .kept (opens_eq_none (presented_eq_none (by simp [decoded]))) rfl rfl rfl subset_rfl
  | forwarded message forwarding packet opening opened frame sealed decoded =>
      refine .kept (opens_eq_none (presented_eq_none (by simp [decoded]))) ?_ ?_ ?_ subset_rfl <;>
        simp [relayed]
  | forwardedBare envelope forwarding message opened frame sealed destination decoded =>
      exact .kept (opens_eq_none (presented_eq_none (by simp [decoded]))) rfl rfl rfl subset_rfl
  | received envelope current decoded =>
      exact .kept (opens_eq_none (presented_eq_none (by simp [decoded]))) rfl rfl rfl subset_rfl
  | acknowledged envelope current message opened frame sealed decoded =>
      exact .kept (opens_eq_none (presented_eq_none (by simp [decoded]))) rfl rfl rfl subset_rfl
  | exited message clientPeer context packet opening opened answer next _ decoded reaches exchanges
      answers =>
      obtain ⟨_, _, _, _, rfl, _⟩ := exchange_ok exchanges
      have hopens : opens ext setup inputs (.network (.discoveryRequest peerId payload channel))
          node = none := opens_eq_none (presented_eq_none (by simp [decoded]))
      cases answer with
      | none =>
          obtain rfl := answers
          refine .kept hopens ?_ ?_ ?_ subset_rfl <;> simp [reached, openedIn, countedIn]
      | some response =>
          obtain ⟨_, _, _, _, rfl⟩ := answers
          refine .kept hopens ?_ ?_ ?_ subset_rfl <;>
            simp [withEffect, withChannel, reached, openedIn, countedIn]

/-- What every event does to the policy. -/
theorem handle_policy (hrun : handle ext setup inputs event node = (.ok (), final)) :
    PolicyStep (opens ext setup inputs event node) (peersAfter event node.core) node final := by
  cases handle_step hrun with
  | requested payload peerId channel state _ step => exact { RequestStep.policy step with }
  | responded payload peerId requestId state _ step =>
      cases step <;> exact .kept rfl rfl rfl rfl subset_rfl
  | idle event state quiet =>
      cases event with
      | network event =>
          cases event with
          | peerIdentified | pingResult | networkError => exact .kept rfl rfl rfl rfl subset_rfl
          | listening | peerConnected | peerDisconnected | discoveryRequest | discoveryResponse =>
              cases quiet
      | tun payload => exact .kept rfl rfl rfl rfl subset_rfl
      | heartbeat => cases quiet
  | met | greeted => exact .kept rfl (by simp [withEffect]) rfl (by simp [withEffect]) subset_rfl
  | listened | left | beat | unsent | injected => exact .kept rfl rfl rfl rfl subset_rfl

end Node

/-! ## Runs with their history -/

namespace RelayCore

/-- The policy admits the connection of a peer. -/
def TakesPeer (core : RelayCore) (peer : PeerId) : Prop :=
  peer ∈ core.peers ∨ (core.lifecycle = .ready ∨ core.lifecycle = .discovering) ∧
    core.peers.card < core.limits.maximumConnectedPeers

instance (core : RelayCore) (peer : PeerId) : Decidable (core.TakesPeer peer) :=
  inferInstanceAs (Decidable (_ ∨ _ ∧ _))

theorem noted_peers (core : RelayCore) (peer : PeerId) :
    (core.noted peer).peers =
      if core.TakesPeer peer then insert peer core.peers else core.peers := by
  have htakes : core.TakesPeer peer ↔ peer ∈ core.peers ∨
      (core.lifecycle = .ready ∨ core.lifecycle = .discovering) ∧
        core.peers.card < core.limits.maximumConnectedPeers := Iff.rfl
  unfold noted
  by_cases hknown : peer ∈ core.peers
  · simp [htakes, hknown]
  by_cases hroom : (core.lifecycle = .ready ∨ core.lifecycle = .discovering) ∧
      core.peers.card < core.limits.maximumConnectedPeers
  · rw [if_neg hknown, if_pos hroom, if_pos (htakes.mpr (.inr hroom))]
  · rw [if_neg hknown, if_neg hroom, if_neg (htakes.not.mpr (not_or.mpr ⟨hknown, hroom⟩))]
    rfl

end RelayCore

/-- A relay together with what happened at its door. -/
structure Watched where
  node : Node
  /-- The sessions that were admitted, with their peers. -/
  admitted : List (PeerId × SessionId)
  /-- Those of them whose peer has stayed connected. -/
  live : List (PeerId × SessionId)
  connected : Finset PeerId
  /-- The peers whose last connection the policy refused. -/
  refused : Finset PeerId

namespace Watched

open Node

variable (ext : Externals) (setup : Setup ext)

/-- The history after an event that leaves the relay as `node`. -/
def after (inputs : Inputs) (event : LoopEvent) (node : Node) (watched : Watched) : Watched where
  node
  admitted := watched.admitted ++ (opens ext setup inputs event watched.node).toList
  live := match event with
    | .network (.peerDisconnected peerId) => watched.live.filter (fun entry => entry.1 ≠ peerId)
    | .network _ | .tun _ | .heartbeat =>
        watched.live ++ (opens ext setup inputs event watched.node).toList
  connected := match event with
    | .network (.peerConnected peerId) => insert peerId watched.connected
    | .network (.peerDisconnected peerId) => watched.connected.erase peerId
    | .network _ | .tun _ | .heartbeat => watched.connected
  refused := match event with
    | .network (.peerConnected peerId) =>
        if watched.node.core.TakesPeer peerId then watched.refused.erase peerId
        else insert peerId watched.refused
    | .network _ | .tun _ | .heartbeat => watched.refused

/-- The runs of a relay on events that are allowed. -/
def run (allowed : Inputs → LoopEvent → Watched → Prop) : System Watched where
  init watched := Started ext setup watched.node ∧ watched.admitted = [] ∧ watched.live = [] ∧
    watched.connected = ∅ ∧ watched.refused = ∅
  step watched next := ∃ inputs event node, allowed inputs event watched ∧
    handle ext setup inputs event watched.node = (.ok (), node) ∧
    next = watched.after ext setup inputs event node

variable {ext setup} {allowed : Inputs → LoopEvent → Watched → Prop} {watched : Watched}

/-! ## Sessions -/

/-- The policy counts every session that was ever admitted. -/
structure CountsAll (setup : Setup ext) (watched : Watched) : Prop where
  limits : watched.node.core.limits = setup.config.resourceLimits
  sessions : watched.node.core.sessions = (watched.admitted.map Prod.snd).toFinset
  seen : ∀ entry ∈ watched.admitted, entry.2 ∈ watched.node.sessionResponder.seenSessions
  distinct : (watched.admitted.map Prod.snd).Nodup

theorem CountsAll.card (hcounts : CountsAll setup watched) :
    watched.node.core.sessions.card = watched.admitted.length := by
  rw [hcounts.sessions, List.toFinset_card_of_nodup hcounts.distinct, List.length_map]

theorem CountsAll.after {inputs : Inputs} {event : LoopEvent} {node : Node}
    (hcounts : CountsAll setup watched)
    (hrun : handle ext setup inputs event watched.node = (.ok (), node)) :
    CountsAll setup (watched.after ext setup inputs event node) := by
  have hpolicy := handle_policy hrun
  have hsessions := hpolicy.sessions
  refine ⟨hpolicy.limits.trans hcounts.limits, ?_, ?_, ?_⟩
  · rw [hcounts.sessions] at hsessions
    simp only [Watched.after, hsessions]
    cases opens ext setup inputs event watched.node <;> simp
  · intro entry hentry
    rcases List.mem_append.mp hentry with hold | hnew
    · exact hpolicy.seen (hcounts.seen entry hold)
    · exact (hpolicy.entered entry (Option.mem_toList.mp hnew)).1
  · simp only [Watched.after, List.map_append, List.nodup_append]
    refine ⟨hcounts.distinct, ?_, ?_⟩
    · cases opens ext setup inputs event watched.node <;> simp
    · rintro _ hold _ hnew rfl
      obtain ⟨entry, hentry, hsame⟩ := List.mem_map.mp hnew
      obtain ⟨entry', hentry', rfl⟩ := List.mem_map.mp hold
      refine hpolicy.unseen entry (Option.mem_toList.mp hentry) ?_
      rw [hsame]
      exact hcounts.seen entry' hentry'

theorem countsAll (hreach : (run ext setup allowed).Reachable watched) :
    CountsAll setup watched := by
  refine hreach.invariant _ ?_ ?_
  · rintro watched ⟨hstarted, hadmitted, -⟩
    refine ⟨?_, ?_, ?_, ?_⟩ <;> simp [hadmitted, hstarted.core, RelayCore.new]
  · rintro watched _ _ hcounts ⟨inputs, event, node, _, hrun, rfl⟩
    exact hcounts.after hrun

/-- A handshake was accepted, and the policy refuses its session for the limit. -/
def RefusedForLimit (ext : Externals) (setup : Setup ext) (inputs : Inputs) (event : LoopEvent)
    (node : Node) : Prop :=
  ∃ entry ∈ presented ext setup inputs event node,
    (RelayCore.admitSession entry.2 node.core).1 = .error .sessionLimit

/-- An accepted handshake is refused for the limit exactly when the relay listens and has admitted
as many sessions since it started as the limit allows at a time. -/
theorem refusedForLimit_iff {inputs : Inputs} {event : LoopEvent}
    (hreach : (run ext setup allowed).Reachable watched) :
    ¬ RefusedForLimit ext setup inputs event watched.node ↔
      ((presented ext setup inputs event watched.node).isSome → watched.node.core.TakesOn →
        watched.admitted.length < setup.config.resourceLimits.maximumActiveSessions) := by
  have hcounts := countsAll hreach
  rw [← hcounts.card, ← hcounts.limits]
  constructor
  · intro hadmits hpresented hlistens
    obtain ⟨entry, hentry⟩ := Option.isSome_iff_exists.mp hpresented
    by_contra hfull
    exact hadmits ⟨entry, hentry, RelayCore.admitSession_full hlistens (not_lt.mp hfull)⟩
  · rintro hroom ⟨entry, hentry, hrefused⟩
    obtain ⟨hlistens, hfull⟩ := RelayCore.sessionLimit_full hrefused
    exact absurd (hroom (Option.isSome_of_mem hentry) hlistens) (not_lt.mpr hfull)

/-! ## Peers -/

/-- The policy counts the peers that are connected and were not refused. -/
theorem peers_iff (hreach : (run ext setup allowed).Reachable watched) (peer : PeerId) :
    peer ∈ watched.node.core.peers ↔ peer ∈ watched.connected ∧ peer ∉ watched.refused := by
  revert peer
  refine hreach.invariant (fun watched => ∀ peer, peer ∈ watched.node.core.peers ↔
    peer ∈ watched.connected ∧ peer ∉ watched.refused) ?_ ?_
  · rintro watched ⟨hstarted, -, -, hconnected, -⟩ peer
    simp [hconnected, hstarted.core, RelayCore.new]
  · rintro watched _ _ hpeers ⟨inputs, event, node, _, hrun, rfl⟩ peer
    have hpolicy := (handle_policy hrun).peers
    simp only [Watched.after, hpolicy]
    cases event with
    | tun | heartbeat => exact hpeers peer
    | network event =>
        cases event with
        | peerConnected other =>
            simp only [peersAfter, RelayCore.noted_peers]
            split_ifs with htakes
            · simp only [Finset.mem_insert, Finset.mem_erase, hpeers peer]
              tauto
            · have hunknown : other ∉ watched.node.core.peers := fun hknown => htakes (.inl hknown)
              simp only [Finset.mem_insert, hpeers peer]
              by_cases hsame : peer = other
              · subst hsame
                simpa [hpeers peer] using hunknown
              · simp [hsame]
        | peerDisconnected other =>
            simp only [peersAfter, Finset.mem_erase, hpeers peer]
            tauto
        | listening | peerIdentified | pingResult | networkError | discoveryRequest
        | discoveryResponse => exact hpeers peer

/-- A session that the relay accepts is entered in the channels, and its peer counts exactly when
it is connected and its connection was not refused. -/
theorem opened_counted_iff {inputs : Inputs} {event : LoopEvent} {node : Node}
    {entry : PeerId × SessionId} (hreach : (run ext setup allowed).Reachable watched)
    (hrun : handle ext setup inputs event watched.node = (.ok (), node))
    (hopens : opens ext setup inputs event watched.node = some entry) :
    entry.2 ∈ node.channels ∧ (entry.1 ∈ watched.node.core.peers ↔
      entry.1 ∈ watched.connected ∧ entry.1 ∉ watched.refused) :=
  ⟨((handle_policy hrun).entered entry hopens).2, peers_iff hreach entry.1⟩

/-! ## Runs over the reference instance -/

open ReferenceRelay

theorem presented_joining {node : Node} {inputs : Inputs} {initiator : SessionInitiator}
    (channel : ResponseChannel) (hjoins : Joins setup node inputs initiator)
    (hparse : ext.ParsesJson) (hreads : ext.ReadsIdentities) (hsigns : ext.SignaturesVerify) :
    presented ext setup inputs (joining ext initiator channel) node =
      some (ext.peerOf initiator.identity, initiator.sessionId) :=
  presented_accepted _ (readRequest_initOf hparse hreads) rfl (hjoins.acceptInit hreads hsigns)

section Visits

variable {role : RelayRole} {limits : RelayResourceLimits}

/-- The relay listens, and nobody came yet. -/
noncomputable def entrance (role : RelayRole) (limits : RelayResourceLimits) : Watched :=
  ⟨ready role limits, [], [], ∅, ∅⟩

/-- A run in which peers come and go. -/
structure Visited (role : RelayRole) (limits : RelayResourceLimits)
    (allowed : Inputs → LoopEvent → Watched → Prop) (watched : Watched) : Prop where
  reachable : (run reference (ReferenceRelay.setup role limits) allowed).Reachable watched
  identity : watched.node.sessionResponder.identity = ⟨[2]⟩
  ready : watched.node.core.lifecycle = .ready
  pending : watched.node.pendingRelayHandshakes = ∅
  seen : watched.node.sessionResponder.seenSessions = (watched.admitted.map Prod.snd).toFinset

variable (allowed role limits) in
theorem entrance_visited (hallowed : allowed (inputs 0) (.network (.listening ""))
      ⟨started role limits, [], [], ∅, ∅⟩) :
    Visited role limits allowed (entrance role limits) := by
  have hstart : (run reference (ReferenceRelay.setup role limits) allowed).Reachable
      ⟨started role limits, [], [], ∅, ∅⟩ := .of_init ⟨isStarted role limits, rfl, rfl, rfl, rfl⟩
  exact ⟨hstart.tail ⟨inputs 0, .network (.listening ""), ready role limits,
    hallowed, rfl, rfl⟩, rfl,
    rfl, rfl, rfl⟩

theorem Visited.connect (hvisited : Visited role limits allowed watched) (peer : PeerId)
    (hallowed : allowed (inputs 0) (.network (.peerConnected peer)) watched) :
    ∃ next, Visited role limits allowed next ∧ next.admitted = watched.admitted ∧
      next.live = watched.live ∧ next.connected = insert peer watched.connected ∧
      next.node.core = watched.node.core.noted peer ∧
      (watched.node.core.TakesPeer peer → next.refused = watched.refused.erase peer) := by
  have hnobody : waitingFor (inputs 0) peer watched.node = none := by
    simp [waitingFor, hvisited.pending]
  obtain ⟨state, hmet⟩ := handle_met reference (ReferenceRelay.setup role limits)
    hnobody
  have hlifecycle : (watched.node.core.noted peer).lifecycle = .ready := by
    rw [RelayCore.noted_lifecycle, hvisited.ready]
  have hsame : watched.admitted ++ [] = watched.admitted := List.append_nil _
  refine ⟨_, ⟨hvisited.reachable.tail ⟨inputs 0, _, _, hallowed, hmet, rfl⟩, hvisited.identity,
    hlifecycle, hvisited.pending, ?_⟩, hsame, List.append_nil _, rfl, rfl,
      fun htakes => if_pos htakes⟩
  exact hvisited.seen.trans (congrArg (fun list => (list.map Prod.snd).toFinset) hsame.symm)

theorem Visited.disconnect (hvisited : Visited role limits allowed watched) (peer : PeerId)
    (hallowed : allowed (inputs 0) (.network (.peerDisconnected peer)) watched) :
    ∃ next, Visited role limits allowed next ∧ next.admitted = watched.admitted ∧
      next.live = watched.live.filter (fun entry => entry.1 ≠ peer) := by
  have hsame : watched.admitted ++ [] = watched.admitted := List.append_nil _
  refine ⟨_, ⟨hvisited.reachable.tail
    ⟨inputs 0, .network (.peerDisconnected peer), _, hallowed, rfl,
    rfl⟩, hvisited.identity, hvisited.ready, hvisited.pending, ?_⟩, hsame, rfl⟩
  exact hvisited.seen.trans (congrArg (fun list => (list.map Prod.snd).toFinset) hsame.symm)

/-- The handshake of a peer for a session of its own, over a one-hop route. -/
def joiner (peer index : UInt8) : SessionInitiator := initiator peer index (.oneHop ⟨[2]⟩)

/-- The event that brings it. -/
noncomputable def joinerEvent (peer index : UInt8) : LoopEvent :=
  joining reference (joiner peer index) ⟨⟨[peer]⟩, index.toNat⟩

theorem Visited.joins (hvisited : Visited role limits allowed watched) {peer index : UInt8}
    (hfresh : ⟨Vector.replicate 16 index⟩ ∉ watched.admitted.map Prod.snd) :
    Joins (ReferenceRelay.setup role limits) watched.node (inputs 0) (joiner peer index) :=
  ReferenceRelay.joins role limits hvisited.identity (by simpa [hvisited.seen] using hfresh) trivial
    (by simp [RouteBinding.peers]) rfl

theorem Visited.presented (hvisited : Visited role limits allowed watched) (peer : UInt8)
    {index : UInt8}
    (hfresh : ⟨Vector.replicate 16 index⟩ ∉ watched.admitted.map Prod.snd) :
    Node.presented reference (ReferenceRelay.setup role limits) (inputs 0) (joinerEvent peer index)
      watched.node = some (⟨[peer]⟩, ⟨Vector.replicate 16 index⟩) :=
  presented_joining _ (hvisited.joins hfresh) reference.parsesJson reference.readsIdentities
    reference.signaturesVerify

theorem Visited.join (hvisited : Visited role limits allowed watched) (peer index : UInt8)
    (hfresh : ⟨Vector.replicate 16 index⟩ ∉ watched.admitted.map Prod.snd)
    (hroom : watched.admitted.length < limits.maximumActiveSessions)
    (hallowed : allowed (inputs 0) (joinerEvent peer index) watched) :
    ∃ next, Visited role limits allowed next ∧
      next.admitted = watched.admitted ++ [(⟨[peer]⟩, ⟨Vector.replicate 16 index⟩)] ∧
      next.live = watched.live ++ [(⟨[peer]⟩, ⟨Vector.replicate 16 index⟩)] ∧
      opens reference (ReferenceRelay.setup role limits) (inputs 0) (joinerEvent peer index)
        watched.node = some (⟨[peer]⟩, ⟨Vector.replicate 16 index⟩) ∧
      handle reference (ReferenceRelay.setup role limits) (inputs 0) (joinerEvent peer index)
        watched.node = (.ok (), next.node) := by
  have hcounts := countsAll hvisited.reachable
  have htakes : watched.node.core.TakesSession := by
    refine ⟨.inl hvisited.ready, ?_⟩
    rw [hcounts.card, hcounts.limits]
    exact hroom
  have hopens := opens_admitted (hvisited.presented peer hfresh) htakes
  obtain ⟨node, hrun, hjoined, hpending, _⟩ := (hvisited.joins hfresh).joined
    ⟨⟨[peer]⟩, index.toNat⟩ reference.parsesJson reference.readsIdentities
    reference.signaturesVerify htakes rfl rfl
  -- The session that was opened is the only one that is added.
  have hadmitted : (watched.after reference (ReferenceRelay.setup role limits) (inputs 0)
      (joinerEvent peer index) node).admitted =
        watched.admitted ++ [(⟨[peer]⟩, ⟨Vector.replicate 16 index⟩)] := by
    simp only [Watched.after, hopens, Option.toList_some]
  refine ⟨watched.after reference (ReferenceRelay.setup role limits) (inputs 0)
    (joinerEvent peer index) node,
      ⟨hvisited.reachable.tail ⟨inputs 0, _, node, hallowed, hrun, rfl⟩,
      ?_, ?_, hpending.trans hvisited.pending, ?_⟩, hadmitted, ?_, hopens, hrun⟩
  · exact (congrArg SessionResponder.identity hjoined.responder).trans hvisited.identity
  · exact (congrArg RelayCore.lifecycle hjoined.core).trans hvisited.ready
  · rw [hadmitted]
    refine (congrArg SessionResponder.seenSessions hjoined.responder).trans ?_
    simp [joinedResponder, hvisited.seen, joiner, initiator, Finset.union_comm]
  · show watched.live ++ (opens reference (ReferenceRelay.setup role limits) (inputs 0)
      (joinerEvent peer index) watched.node).toList = _
    rw [hopens]
    rfl

/-- A peer connects, gets a session and leaves. -/
theorem Visited.visit (hvisited : Visited role limits allowed watched)
    (hallowed : ∀ inputs event watched, watched.live.length ≤ 1 → allowed inputs event watched)
    (hlive : watched.live = []) (peer index : UInt8)
    (hfresh : ⟨Vector.replicate 16 index⟩ ∉ watched.admitted.map Prod.snd)
    (hroom : watched.admitted.length < limits.maximumActiveSessions) :
    ∃ next, Visited role limits allowed next ∧ next.live = [] ∧
      next.admitted = watched.admitted ++ [(⟨[peer]⟩, ⟨Vector.replicate 16 index⟩)] := by
  obtain ⟨first, hfirst, hadmitted, hlive', _⟩ := hvisited.connect ⟨[peer]⟩
    (hallowed _ _ _ (by simp [hlive]))
  obtain ⟨second, hsecond, hjoined, hone, _⟩ := hfirst.join peer index
    (by rwa [hadmitted]) (by rwa [hadmitted]) (hallowed _ _ _ (by simp [hlive', hlive]))
  obtain ⟨third, hthird, hkept, hgone⟩ := hsecond.disconnect ⟨[peer]⟩
    (hallowed _ _ _ (by simp [hone, hlive', hlive]))
  refine ⟨third, hthird, ?_, ?_⟩
  · simp [hgone, hone, hlive', hlive]
  · rw [hkept, hjoined, hadmitted]

end Visits

/-- Two peers got a session and left; the third is refused, though nobody who has a session is
connected. -/
theorem refusedForLimit_below :
    ¬ ∀ (ext : Externals) (setup : Setup ext) (watched : Watched) (inputs : Inputs)
        (event : LoopEvent),
      (run ext setup fun _ _ watched => watched.live.length <
        setup.config.resourceLimits.maximumActiveSessions).Reachable watched →
      watched.live.length < setup.config.resourceLimits.maximumActiveSessions →
      ¬ RefusedForLimit ext setup inputs event watched.node := by
  intro hclaim
  have hallowed : ∀ (_ : Inputs) (_ : LoopEvent) (watched : Watched), watched.live.length ≤ 1 →
      watched.live.length < (ReferenceRelay.setup .both
        (bounds 8 2 8)).config.resourceLimits.maximumActiveSessions :=
    fun _ _ _ hlive => Nat.lt_succ_of_le hlive
  have hentrance := entrance_visited (fun _ _ watched => watched.live.length <
    (ReferenceRelay.setup .both (bounds 8 2 8)).config.resourceLimits.maximumActiveSessions) .both
    (bounds 8 2 8) (hallowed (inputs 0) .heartbeat _ (Nat.zero_le _))
  obtain ⟨first, hfirst, hempty, honce⟩ := hentrance.visit hallowed rfl 1 1
    (by simp [entrance]) (by decide)
  obtain ⟨second, hsecond, hempty', htwice⟩ := hfirst.visit hallowed hempty 3 3
    (by rw [honce]; decide) (by rw [honce]; decide)
  have hcounts := countsAll hsecond.reachable
  refine hclaim _ _ second (inputs 0) (joinerEvent 4 4) hsecond.reachable ?_ ?_
  · rw [hempty']
    decide
  · refine ⟨_, hsecond.presented _ ?_, RelayCore.admitSession_full (.inl hsecond.ready) ?_⟩
    · rw [htwice, honce]
      decide
    · rw [hcounts.card, hcounts.limits, htwice, honce]
      decide

/-- The first peer to ask is not refused. -/
theorem refusedForLimit_iff_first :
    ¬ RefusedForLimit reference (ReferenceRelay.setup .both (bounds 8 2 8)) (inputs 0)
      (joinerEvent 1 1) (ready .both (bounds 8 2 8)) :=
  have hvisited := entrance_visited (fun _ _ _ => True) .both (bounds 8 2 8) trivial
  (refusedForLimit_iff hvisited.reachable).mpr fun _ _ => by decide

/-- A request comes from a peer that is connected. -/
def FromConnected (ext : Externals) (setup : Setup ext) (inputs : Inputs) (event : LoopEvent)
    (watched : Watched) : Prop :=
  ∀ entry ∈ Node.presented ext setup inputs event watched.node, entry.1 ∈ watched.connected

/-- There is room for one peer; the second to connect gets a session all the same. -/
theorem opened_uncounted :
    ¬ ∀ (ext : Externals) (setup : Setup ext) (watched : Watched) (inputs : Inputs)
        (event : LoopEvent) (node : Node) (entry : PeerId × SessionId),
      (run ext setup (FromConnected ext setup)).Reachable watched →
      FromConnected ext setup inputs event watched →
      handle ext setup inputs event watched.node = (.ok (), node) →
      opens ext setup inputs event watched.node = some entry →
      entry.2 ∈ node.channels → entry.1 ∈ watched.node.core.peers := by
  intro hclaim
  have hentrance : Visited .both (bounds 1 8 8)
      (FromConnected reference (ReferenceRelay.setup .both (bounds 1 8 8)))
      (entrance .both (bounds 1 8 8)) :=
    entrance_visited _ _ _ (by rintro _ ⟨⟩)
  obtain ⟨first, hfirst, hnone, _, hone, hcore, _⟩ := hentrance.connect ⟨[1]⟩ (by rintro _ ⟨⟩)
  obtain ⟨second, hsecond, hnone', _, htwo, hcore', _⟩ := hfirst.connect ⟨[3]⟩ (by rintro _ ⟨⟩)
  have hempty : second.admitted = [] := hnone'.trans hnone
  have hfresh : ⟨Vector.replicate 16 3⟩ ∉ second.admitted.map Prod.snd := by simp [hempty]
  have hconnected : FromConnected reference (ReferenceRelay.setup .both (bounds 1 8 8)) (inputs 0)
      (joinerEvent 3 3) second := by
    intro entry hentry
    obtain rfl := Option.some.inj ((hsecond.presented _ hfresh).symm.trans hentry)
    rw [htwo]
    exact Finset.mem_insert_self _ _
  obtain ⟨third, _, _, _, hopens, hrun⟩ := hsecond.join 3 3 hfresh
    (by simp [hempty, bounds]) hconnected
  have hentered := ((handle_policy hrun).entered _ hopens).2
  have hcounted := hclaim _ _ second _ _ _ _ hsecond.reachable hconnected hrun hopens hentered
  rw [hcore', hcore] at hcounted
  revert hcounted
  decide

/-- The first peer to connect counts when it gets its session. -/
theorem opened_counted_iff_first : ∃ (watched : Watched) (node : Node),
    ⟨Vector.replicate 16 1⟩ ∈ node.channels ∧
    handle reference (ReferenceRelay.setup .both (bounds 1 8 8)) (inputs 0) (joinerEvent 1 1)
      watched.node = (.ok (), node) ∧ ⟨[1]⟩ ∈ watched.node.core.peers := by
  have hentrance : Visited .both (bounds 1 8 8) (fun _ _ _ => True)
      (entrance .both (bounds 1 8 8)) :=
    entrance_visited _ _ _ trivial
  obtain ⟨first, hfirst, hnone, _, hone, _, hrefused⟩ := hentrance.connect ⟨[1]⟩ trivial
  obtain ⟨next, _, _, _, hopens, hrun⟩ := hfirst.join 1 1
    (by simp [hnone, entrance]) (by simp [hnone, entrance, bounds]) trivial
  obtain ⟨hentered, hcounted⟩ := opened_counted_iff hfirst.reachable hrun hopens
  exact ⟨first, next.node, hentered, hrun, hcounted.mpr
    ⟨by simp [hone], by rw [hrefused (by decide)]; simp⟩⟩

end Watched

end Relay
