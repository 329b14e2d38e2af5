import GhostLayer.Relay.Soundness

/-! # The sequence numbers that an entry sends

An exit takes the packets of a flow in the order of their sequence numbers. An
entry forwards the number that a client put into its message, and numbers the
payload of a bare envelope with one.
-/

namespace Relay

open Foundation Network

variable {ext : Externals}

/-! ## What an exit takes -/

namespace ForwardingContext

/-- An exit takes numbers one after the other. -/
def acceptSequences : List UInt64 → Fallible ForwardingContext ForwardingError Unit
  | [] => pure ()
  | sequence :: rest => do
      acceptSequence sequence
      acceptSequences rest

/-- Numbers are taken when they increase and start above the last one. -/
theorem acceptSequences_isOk {sequences : List UInt64} {context : ForwardingContext} :
    (acceptSequences sequences context).1.IsOk ↔
      sequences.Pairwise (· < ·) ∧ ∀ sequence ∈ sequences, context.NextSequence sequence := by
  induction sequences generalizing context with
  | nil => exact ⟨fun _ => ⟨.nil, nofun⟩, fun _ => ⟨(), rfl⟩⟩
  | cons sequence rest ih =>
      rw [Fallible.isOk_iff, acceptSequences]
      simp only [Fallible.bind_eq_ok, acceptSequence_eq_ok]
      constructor
      · rintro ⟨_, _, _, _, ⟨hnext, rfl⟩, hrest⟩
        obtain ⟨hincreasing, habove⟩ := ih.mp (Fallible.isOk_iff.mpr ⟨_, _, hrest⟩)
        have hlater : ∀ later ∈ rest, sequence < later :=
          fun later hlater => (habove later hlater).2 sequence rfl
        refine ⟨List.pairwise_cons.mpr ⟨hlater, hincreasing⟩, fun other hother => ?_⟩
        rcases List.mem_cons.mp hother with rfl | hother
        · exact hnext
        · exact ⟨(habove other hother).1,
            fun last hlast => UInt64.lt_trans (hnext.2 last hlast) (hlater other hother)⟩
      · rintro ⟨hincreasing, hnext⟩
        obtain ⟨hlater, hincreasing⟩ := List.pairwise_cons.mp hincreasing
        have hrest : ∀ later ∈ rest, NextSequence
            { context with lastSequence := some sequence } later := by
          intro later hmem
          refine ⟨(hnext later (List.mem_cons_of_mem _ hmem)).1, ?_⟩
          rintro _ ⟨⟩
          exact hlater later hmem
        obtain ⟨_, final, hfinal⟩ := Fallible.isOk_iff.mp (ih.mpr ⟨hincreasing, hrest⟩)
        exact ⟨(), final, (), _, ⟨hnext sequence List.mem_cons_self, rfl⟩, hfinal⟩

end ForwardingContext

/-- Numbers that increase strictly, so that an exit takes them all from the start of a flow. -/
structure InSequence (sequences : List UInt64) : Prop where
  increasing : sequences.Pairwise (· < ·)
  accepted : ∀ context : ForwardingContext, context.lastSequence = none →
    (ForwardingContext.acceptSequences sequences context).1.IsOk

/-- Numbers that increase strictly and are never zero. -/
structure Numbered (sequences : List UInt64) : Prop where
  increasing : sequences.Pairwise (· < ·)
  positive : ∀ sequence ∈ sequences, sequence ≠ 0

namespace Numbered

theorem nil : Numbered [] := ⟨.nil, nofun⟩

theorem append {sequences : List UInt64} {sequence : UInt64} (hnumbered : Numbered sequences)
    (hpositive : sequence ≠ 0) (habove : ∀ earlier ∈ sequences, earlier < sequence) :
    Numbered (sequences ++ [sequence]) where
  increasing := by
    refine List.pairwise_append.mpr ⟨hnumbered.increasing, List.pairwise_singleton _ _, ?_⟩
    intro earlier hearlier later hlater
    obtain rfl := List.mem_singleton.mp hlater
    exact habove earlier hearlier
  positive other hother := by
    rcases List.mem_append.mp hother with hbefore | hlast
    · exact hnumbered.positive other hbefore
    · obtain rfl := List.mem_singleton.mp hlast
      exact hpositive

theorem of_append {sequences : List UInt64} {sequence : UInt64}
    (hnumbered : Numbered (sequences ++ [sequence])) :
    sequence ≠ 0 ∧ ∀ earlier ∈ sequences, earlier < sequence :=
  ⟨hnumbered.positive sequence (by simp), fun earlier hearlier =>
    (List.pairwise_append.mp hnumbered.increasing).2.2 earlier hearlier sequence (by simp)⟩

/-- Nothing is below one but zero, which is never sent. -/
theorem nil_of_append_one {sequences : List UInt64} (hnumbered : Numbered (sequences ++ [1])) :
    sequences = [] := by
  refine List.eq_nil_iff_forall_not_mem.mpr fun earlier hearlier => ?_
  have hbelow : earlier < 1 := hnumbered.of_append.2 earlier hearlier
  rw [UInt64.lt_iff_toNat_lt] at hbelow
  exact hnumbered.positive earlier (List.mem_append_left _ hearlier)
    (UInt64.toNat_inj.mp (Nat.lt_one_iff.mp hbelow))

theorem of_begun {sequences more : List UInt64} (hnumbered : Numbered more)
    (hbegun : sequences <+: more) : Numbered sequences where
  increasing := hnumbered.increasing.sublist hbegun.sublist
  positive sequence hmem := hnumbered.positive sequence (hbegun.subset hmem)

theorem iff_inSequence {sequences : List UInt64} : Numbered sequences ↔ InSequence sequences := by
  constructor
  · intro hnumbered
    refine ⟨hnumbered.increasing, fun context hfresh => ?_⟩
    refine ForwardingContext.acceptSequences_isOk.mpr
      ⟨hnumbered.increasing, fun sequence hmem => ?_⟩
    exact ⟨hnumbered.positive sequence hmem, by rw [hfresh]; exact nofun⟩
  · intro hsequence
    refine ⟨hsequence.increasing, fun sequence hmem => ?_⟩
    let fresh : ForwardingContext :=
      .bound ⟨Vector.replicate 16 0⟩ ⟨Vector.replicate 16 0⟩ ⟨[]⟩ ⟨[]⟩
      ⟨[]⟩ (.oneHop ⟨[]⟩) ⟨Vector.replicate 16 0⟩
    exact ((ForwardingContext.acceptSequences_isOk.mp (hsequence.accepted fresh rfl)).2 sequence
      hmem).1

end Numbered

/-! ## What was sent -/

/-- The requests among the effects of a relay. -/
def requests (effects : List Effect) : List (PeerId × Bytes) :=
  effects.filterMap fun effect => match effect with
    | .request _ peer payload => some (peer, payload)
    | .respond .. | .dial _ | .dispatch _ => none

/-- The number of the packet in a message of a session that goes to the exit of its route. -/
def sequenceOf (ext : Externals) (sessionId : SessionId) (request : PeerId × Bytes) :
    Option UInt64 := do
  let message ← ext.fromSlice (ForwardingMessage.fromJson ext) request.2
  if message.clientSessionId = sessionId ∧ message.route.peers.getLast? = some request.1 then
    message.packet.map ForwardedPacket.sequence
  else none

/-- The numbers that went out for a session, in the order of the messages. -/
def sequencesOf (ext : Externals) (sessionId : SessionId) (sent : List (PeerId × Bytes)) :
    List UInt64 :=
  sent.filterMap (sequenceOf ext sessionId)

theorem requests_append (effects more : List Effect) :
    requests (effects ++ more) = requests effects ++ requests more :=
  List.filterMap_append

theorem sequencesOf_append (sessionId : SessionId) (sent more : List (PeerId × Bytes)) :
    sequencesOf ext sessionId (sent ++ more) =
      sequencesOf ext sessionId sent ++ sequencesOf ext sessionId more :=
  List.filterMap_append

theorem sequenceOf_message (hparse : ext.ParsesJson) (hreads : ext.ReadsIdentities)
    (hsockets : ext.ReadsSockets) (sessionId : SessionId) (peer : PeerId)
    (message : ForwardingMessage) :
    sequenceOf ext sessionId (peer, (message.toJson ext).render) =
      if message.clientSessionId = sessionId ∧ message.route.peers.getLast? = some peer then
        message.packet.map ForwardedPacket.sequence
      else none := by
  rw [sequenceOf, Externals.fromSlice_render hparse message.readable_toJson
    (ForwardingMessage.fromJson_toJson hreads hsockets message)]
  rfl

theorem sequenceOf_init (hparse : ext.ParsesJson) (sessionId : SessionId) (peer : PeerId)
    (init : HandshakeInit) :
    sequenceOf ext sessionId (peer, (init.toJson ext).render) = none := by
  have hother : ext.fromSlice (ForwardingMessage.fromJson ext) (init.toJson ext).render = none := by
    rw [Externals.fromSlice, hparse _ init.readable_toJson]
    exact ForwardingMessage.fromJson_missing rfl
  rw [sequenceOf, hother]
  rfl

namespace Node

variable {node final : Node} {setup : Setup ext} {inputs : Inputs} {payload : Bytes}
  {peerId : PeerId} {channel : ResponseChannel} {requestId : RequestId}

/-- The numbers that the relay sent for a session of a client. -/
def sequences (ext : Externals) (sessionId : SessionId) (node : Node) : List UInt64 :=
  sequencesOf ext sessionId (requests node.effects)

/-- What has to hold of a message of a client for the numbers to increase: it brings a number above
all that went out before it, or it brings none and nothing went out. -/
structure Continues (ext : Externals) (setup : Setup ext) (node : Node) (event : LoopEvent) :
    Prop where
  message : ∀ peerId payload channel forwarded packet,
    event = .network (.discoveryRequest peerId payload channel) →
    readRequest ext payload = .forwarding forwarded → forwarded.kind = forwardingKind →
    isClientProtocolRequest ext setup forwarded node = true → forwarded.packet = some packet →
    packet.sequence ≠ 0 ∧
      ∀ earlier ∈ node.sequences ext forwarded.data.sessionId, earlier < packet.sequence
  envelope : ∀ peerId payload channel envelope forwarding,
    event = .network (.discoveryRequest peerId payload channel) →
    readRequest ext payload = .envelope envelope → envelope.kind = dataPlaneKind →
    node.clientForwarding.lookup envelope.sessionId = some forwarding →
    forwarding.clientPeer = peerId → node.sequences ext envelope.sessionId = []

/-- The runs of a relay whose clients number what they send. -/
def numberedLoop (ext : Externals) (setup : Setup ext) : System Node where
  init := Started ext setup
  step node next := ∃ inputs event, Continues ext setup node event ∧
    handle ext setup inputs event node = (.ok (), next)

/-! ## Steps and runs -/

/-- The entry that a context sends back to is not the end of its route. -/
def SendsBack (context : ForwardingContext) : Prop :=
  context.route.peers.getLast? ≠ some context.entryPeer

/-- The numbers increase, and the contexts of an exit send back. -/
structure Ordered (ext : Externals) (node : Node) : Prop where
  numbered : ∀ sessionId, Numbered (node.sequences ext sessionId)
  exits : EveryEntry (fun _ context => SendsBack context) node.exitForwarding

theorem Ordered.quiet (hordered : Ordered ext node)
    (hrequests : requests final.effects = requests node.effects)
    (hexits : EveryEntry (fun _ context => SendsBack context) final.exitForwarding) :
    Ordered ext final where
  numbered sessionId := by
    rw [sequences, hrequests]
    exact hordered.numbered sessionId
  exits := hexits

theorem sequences_sent {peer : PeerId} {bytes : Bytes}
    (heffects : final.effects = node.effects ++ [.request requestId peer bytes])
    (sessionId : SessionId) :
    final.sequences ext sessionId = node.sequences ext sessionId ++
      (sequenceOf ext sessionId (peer, bytes)).toList := by
  rw [sequences, heffects, requests_append, sequencesOf_append]
  cases hsequence : sequenceOf ext sessionId (peer, bytes) <;>
    simp [sequences, requests, sequencesOf, hsequence]

/-- A request goes out whose number, if it has one, continues the numbers of its session. -/
theorem Ordered.sends {peer : PeerId} {bytes : Bytes} (hordered : Ordered ext node)
    (heffects : final.effects = node.effects ++ [.request requestId peer bytes])
    (hexits : final.exitForwarding = node.exitForwarding)
    (hnext : ∀ sessionId sequence, sequenceOf ext sessionId (peer, bytes) = some sequence →
      sequence ≠ 0 ∧ ∀ earlier ∈ node.sequences ext sessionId, earlier < sequence) :
    Ordered ext final where
  numbered sessionId := by
    rw [sequences_sent heffects]
    cases hsequence : sequenceOf ext sessionId (peer, bytes) with
    | none => simpa using hordered.numbered sessionId
    | some sequence =>
        obtain ⟨hpositive, habove⟩ := hnext sessionId sequence hsequence
        exact (hordered.numbered sessionId).append hpositive habove
  exits := by
    rw [hexits]
    exact hordered.exits

theorem ContextOf.sendsBack {forwarded : ForwardingMessage} {clientPeer : PeerId}
    {context : ForwardingContext} (hordered : Ordered ext node)
    (hheld : ContextOf node forwarded clientPeer context) : SendsBack context := by
  cases hheld with
  | known _ hknown => exact hordered.exits _ _ hknown
  | made _ hbindable =>
      obtain ⟨exitAddress, hroute⟩ := hbindable.route
      have hlast : (exitContext forwarded clientPeer).route.peers.getLast? =
          some (routeEnds clientPeer forwarded.route).2 := by
        rw [exitContext, ForwardingContext.bound, hroute]
        rfl
      rw [SendsBack, hlast, ne_eq, Option.some.injEq]
      exact fun hsame => hbindable.hops hsame.symm

/-- The message for an exit carries the number of its packet for the session of the client. -/
theorem Forwards.sequenceOf_outbound {seen : Finset SessionId} {sessionId : SessionId}
    {forwarding : ClientForwarding} (hparse : ext.ParsesJson) (hreads : ext.ReadsIdentities)
    (hsockets : ext.ReadsSockets) (hforwards : Forwards setup seen sessionId forwarding)
    (sessionId' : SessionId) (frame : Bytes) (packet : ForwardedPacket) :
    sequenceOf ext sessionId' (forwarding.context.exitPeer,
        ((outboundMessage ext forwarding frame packet).toJson ext).render) =
      if sessionId = sessionId' then some packet.sequence else none := by
  obtain ⟨exitAddress, hroute⟩ := hforwards.route
  have hlast : (outboundMessage ext forwarding frame packet).route.peers.getLast? =
      some forwarding.context.exitPeer := by
    rw [outboundMessage, hroute]
    rfl
  have hsession : (outboundMessage ext forwarding frame packet).clientSessionId = sessionId :=
    hforwards.session
  rw [sequenceOf_message hparse hreads hsockets, hlast, hsession]
  simp only [and_true]
  rfl

theorem Ordered.request (hparse : ext.ParsesJson) (hreads : ext.ReadsIdentities)
    (hsockets : ext.ReadsSockets) (hsound : Sound setup node) (hordered : Ordered ext node)
    (hcontinues : Continues ext setup node (.network (.discoveryRequest peerId payload channel)))
    (hstep : RequestStep ext setup inputs payload peerId channel node final) :
    Ordered ext final := by
  cases hstep with
  | ignored | rejected | refused | received => exact hordered.quiet rfl hordered.exits
  | accepted | started | metadata | acknowledged =>
      refine hordered.quiet ?_ hordered.exits
      simp [requests, withEffect, withChannel, admitted, awaiting]
  | forwarded forwarded forwarding packet message opened frame sealed decoded found entry bound
      opens shown seals kind =>
      refine hordered.sends rfl rfl fun sessionId sequence hsequence => ?_
      rw [(hsound.clients _ _ found).sequenceOf_outbound hparse hreads hsockets] at hsequence
      obtain ⟨rfl, hsame⟩ := Option.ite_none_right_eq_some.mp hsequence
      obtain rfl := Option.some.inj hsame
      exact hcontinues.message peerId payload channel forwarded packet rfl decoded kind
        (isClientProtocolRequest_eq_true.mpr ⟨entry, forwarding, found⟩) bound.shown
  | forwardedBare envelope forwarding message opened frame sealed destination decoded found client
      opens seals kind =>
      refine hordered.sends rfl rfl fun sessionId sequence hsequence => ?_
      rw [(hsound.clients _ _ found).sequenceOf_outbound hparse hreads hsockets] at hsequence
      obtain ⟨rfl, hsame⟩ := Option.ite_none_right_eq_some.mp hsequence
      obtain rfl := Option.some.inj hsame
      have hnone := hcontinues.envelope peerId payload channel envelope forwarding rfl decoded kind
        found client
      rw [hnone]
      refine ⟨show (1 : UInt64) ≠ 0 by decide, ?_⟩
      intro _ hmember
      cases hmember
  -- The exit side makes no requests; of its contexts only one is touched.
  | exited forwarded clientPeer context packet message opened answer next final decoded reaches
      exchanges answers =>
      obtain ⟨_, _, _, effects, rfl, _, _, heffects⟩ := exchange_ok exchanges
      have hkept : requests effects = requests node.effects := by
        rcases heffects with rfl | rfl
        · rfl
        · rw [requests_append]
          exact List.append_nil _
      have hcounted : SendsBack (counted context forwarded packet) :=
        show SendsBack context from reaches.held.sendsBack hordered
      have hexits : EveryEntry (fun _ context => SendsBack context) (node.exitForwarding.insert
          forwarded.forwardingId (counted context forwarded packet)) :=
        hordered.exits.insert hcounted
      cases answer with
      | none =>
          obtain rfl := answers
          exact hordered.quiet hkept hexits
      | some response =>
          obtain ⟨frame, sealed, _, _, rfl⟩ := answers
          refine hordered.quiet ?_ hexits
          rw [withEffect, requests_append, ← hkept]
          exact List.append_nil _

theorem Ordered.response (hordered : Ordered ext node)
    (hstep : ResponseStep ext inputs payload peerId requestId node final) : Ordered ext final := by
  cases hstep with
  | ignored | dropped => exact hordered.quiet rfl hordered.exits
  | established response pending =>
      refine hordered.quiet ?_ hordered.exits
      rw [requests_append]
      cases hchannel : pending.clientResponseChannel <;>
        simp [handshakeAnswer, hchannel, requests]
  | returned => exact hordered.quiet (by simp [returned, requests]) hordered.exits

theorem Ordered.step {event : LoopEvent} (hparse : ext.ParsesJson) (hreads : ext.ReadsIdentities)
    (hsockets : ext.ReadsSockets) (hsound : Sound setup node) (hordered : Ordered ext node)
    (hcontinues : Continues ext setup node event)
    (hstep : Step ext setup inputs node event final) : Ordered ext final := by
  cases hstep with
  | idle | listened | met | left | beat | unsent => exact hordered.quiet rfl hordered.exits
  | requested payload peerId channel state _ hstep =>
      have hnoted : Ordered ext { node with state } := hordered.quiet rfl hordered.exits
      have hsound : Sound setup { node with state } := { hsound with }
      exact hnoted.request hparse hreads hsockets hsound { hcontinues with } hstep
  | responded payload peerId requestId state _ hstep =>
      have hnoted : Ordered ext { node with state } := hordered.quiet rfl hordered.exits
      exact hnoted.response hstep
  | greeted peerId state pending waiting =>
      obtain ⟨sessionId, hpending⟩ := waitingFor_eq_some waiting
      refine hordered.sends rfl rfl fun sessionId' sequence hsequence => ?_
      rw [(hsound.pending _ _ hpending).relayInit, sequenceOf_init hparse] at hsequence
      cases hsequence
  | injected payload forwardingId context relaySessionId frame sealed found active seals =>
      refine hordered.sends rfl rfl fun sessionId' sequence hsequence => ?_
      rw [sequenceOf_message hparse hreads hsockets, if_neg] at hsequence
      · cases hsequence
      · exact fun hsession => hordered.exits _ _ found hsession.2

/-- In every run whose clients number what they send, the numbers of every session increase. -/
theorem ordered_of_reachable (hparse : ext.ParsesJson) (hreads : ext.ReadsIdentities)
    (hsockets : ext.ReadsSockets) (hreach : (numberedLoop ext setup).Reachable node) :
    Sound setup node ∧ Ordered ext node := by
  refine hreach.invariant (fun node => Sound setup node ∧ Ordered ext node) ?_ ?_
  · intro start hstarted
    refine ⟨Started.sound hstarted, fun sessionId => ?_, ?_⟩
    · rw [sequences, hstarted.effects]
      exact .nil
    · rw [hstarted.exitForwarding]
      exact .empty
  · rintro _ _ _ ⟨hsound, hordered⟩ ⟨inputs, event, hcontinues, hrun⟩
    have hstep := handle_step hrun
    exact ⟨hsound.step hstep, hordered.step hparse hreads hsockets hsound hcontinues hstep⟩

/-! ## The condition is needed -/

theorem sequences_grow {event : LoopEvent}
    (hrun : handle ext setup inputs event node = (.ok (), final)) (sessionId : SessionId) :
    node.sequences ext sessionId <+: final.sequences ext sessionId := by
  obtain ⟨more, hmore⟩ := handle_effects_grow hrun
  rw [sequences, sequences, ← hmore, requests_append, sequencesOf_append]
  exact List.prefix_append _ _

/-- The number of a message that was forwarded is the last of its session. -/
theorem sequences_relayed {node' : Node} {sessionId : SessionId} {forwarding : ClientForwarding}
    {sealed : EncryptedChannel} {frame : Bytes} {packet : ForwardedPacket}
    (hparse : ext.ParsesJson) (hreads : ext.ReadsIdentities) (hsockets : ext.ReadsSockets)
    (hsound : Sound setup node)
    (hfound : node.clientForwarding.lookup sessionId = some forwarding)
    (hfinal : relayed ext inputs node' sessionId forwarding sealed
      (outboundMessage ext forwarding frame packet) channel = final)
    (heffects : node'.effects = node.effects) :
    final.sequences ext sessionId = node.sequences ext sessionId ++ [packet.sequence] := by
  have hsent : final.effects = node.effects ++ [.request inputs.requestId
      forwarding.context.exitPeer
      ((outboundMessage ext forwarding frame packet).toJson ext).render] := by
    rw [← hfinal, relayed, heffects]
  rw [sequences_sent hsent, (hsound.clients _ _ hfound).sequenceOf_outbound hparse
    hreads hsockets, if_pos rfl]
  rfl

/-- Where the numbers still increase after an event, its message continued them. -/
theorem continues_of_numbered {event : LoopEvent} (hparse : ext.ParsesJson)
    (hreads : ext.ReadsIdentities) (hsockets : ext.ReadsSockets) (hsound : Sound setup node)
    (hrun : handle ext setup inputs event node = (.ok (), final))
    (hnumbered : ∀ sessionId, Numbered (final.sequences ext sessionId)) :
    Continues ext setup node event where
  message peerId payload channel forwarded packet hevent hdecoded hkind hclient hpacket := by
    subst hevent
    obtain ⟨state, hhandle⟩ := handle_discoveryRequest ext node setup inputs payload peerId channel
    have hclient' : isClientProtocolRequest ext setup forwarded
      { node with state } = true := hclient
    simp only [hhandle, handleRequest_run, hdecoded, handleForwarding_run, hkind, hclient',
      ne_eq, not_true_eq_false, if_false, if_true] at hrun
    obtain ⟨forwarding, packet', _, _, _, _, hfound, hbound, _, _, _, _, _, hfinal⟩ :=
      forwardPacket_eq_ok.mp hrun
    obtain rfl := Option.some.inj (hpacket.symm.trans hbound.shown)
    have hsent := sequences_relayed hparse hreads hsockets hsound hfound hfinal rfl
    have hlast := hnumbered forwarded.data.sessionId
    rw [hsent] at hlast
    exact hlast.of_append
  envelope peerId payload channel envelope forwarding hevent hdecoded hkind hfound hclient := by
    subst hevent
    obtain ⟨state, hhandle⟩ := handle_discoveryRequest ext node setup inputs payload peerId channel
    have hknown : (({ node with state } : Node).clientForwarding.lookup
        envelope.sessionId).isSome = true := by simp [hfound]
    simp only [hhandle, handleRequest_run, hdecoded, handleEnvelope_run, hkind, hknown,
      ne_eq, not_true_eq_false, if_false, if_true] at hrun
    obtain ⟨_, _, forwarding', _, hfound', ⟨hother, _⟩ | ⟨_, _, _, _, _, _, _, _, _, hfinal⟩⟩ :=
      forwardEnvelope_eq_ok.mp hrun
    · obtain rfl := Option.some.inj (hfound.symm.trans hfound')
      exact absurd hclient hother
    · have hsent := sequences_relayed hparse hreads hsockets hsound hfound' hfinal rfl
      have hlast := hnumbered envelope.sessionId
      rw [hsent] at hlast
      exact hlast.nil_of_append_one

/-- The numbers of a relay increase exactly in the states that runs reach whose clients number what
they send. -/
theorem numberedLoop_reachable_iff (hparse : ext.ParsesJson) (hreads : ext.ReadsIdentities)
    (hsockets : ext.ReadsSockets) :
    (numberedLoop ext setup).Reachable node ↔ (loop ext setup).Reachable node ∧
      ∀ sessionId, InSequence (node.sequences ext sessionId) := by
  constructor
  · intro hreach
    refine ⟨hreach.mono ?_ ?_, fun sessionId => Numbered.iff_inSequence.mp
      ((ordered_of_reachable hparse hreads hsockets hreach).2.numbered sessionId)⟩
    · exact fun _ hstarted => hstarted
    · rintro _ _ ⟨inputs, event, _, hrun⟩
      exact ⟨inputs, event, hrun⟩
  · rintro ⟨hreach, hsequence⟩
    obtain ⟨start, hstarted, hsteps⟩ := hreach
    induction hsteps with
    | refl => exact .of_init hstarted
    | tail hbefore hlast ih =>
        obtain ⟨inputs, event, hrun⟩ := hlast
        have hnumbered := fun sessionId => Numbered.iff_inSequence.mpr (hsequence sessionId)
        have hearlier := fun sessionId => Numbered.iff_inSequence.mp
          ((hnumbered sessionId).of_begun (sequences_grow hrun sessionId))
        have hsound := sound_of_reachable ⟨start, hstarted, hbefore⟩
        exact (ih hearlier).tail ⟨inputs, event,
          continues_of_numbered hparse hreads hsockets hsound hrun hnumbered, hrun⟩

end Node

end Relay
