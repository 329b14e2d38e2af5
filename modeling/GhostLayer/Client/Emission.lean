import GhostLayer.Client.Joining

/-! # What a client sends for a packet

The message that a client sends for a packet of its TUN device, the peer it
sends it to, and what the relay at the end of the route makes of it. The loop
sends to the exit of the route whatever the route is, and builds the same
message for every route.
-/

namespace Client

open Foundation Network Relay

variable {ext : Externals}

/-- The destination in the header of an IP packet. -/
def ipDestination (packet : Bytes) : Option IpAddr :=
  if byteAt packet 0 >>> 4 = 4 ∧ 20 ≤ packet.length then some (.v4 (destinationIp packet))
  else if byteAt packet 0 >>> 4 = 6 ∧ 40 ≤ packet.length then
    some (.v6 (Vector.ofFn fun index => byteAt packet (24 + index)))
  else none

/-- A DNS query comes in an IPv4 packet to port 53. -/
theorem extractDnsPayload_eq_some {packet payload : Bytes} {destination : SocketAddr}
    {sourcePort : UInt16}
    (hquery : extractDnsPayload packet = some (destination, sourcePort, payload)) :
    destination = .v4 (destinationIp packet) 53 ∧
      ipDestination packet = some (.v4 (destinationIp packet)) := by
  unfold extractDnsPayload at hquery
  by_cases hshort : packet.length < 28
  · rw [if_pos hshort] at hquery
    cases hquery
  by_cases hversion : byteAt packet 0 >>> 4 = 4
  · rw [ipDestination, if_pos ⟨hversion, by omega⟩]
    simp only [if_neg hshort, hversion, ne_eq, not_true_eq_false, if_false,
      Option.ite_none_left_eq_some, Option.some.injEq, Prod.mk.injEq] at hquery
    obtain ⟨_, _, _, hdestination, _⟩ := hquery
    exact ⟨hdestination.symm, rfl⟩
  · rw [if_neg hshort, if_pos hversion] at hquery
    cases hquery

namespace Engine

variable {setup : Setup} {engine : Engine} {packet : Bytes} {peer : PeerId}
  {message : ForwardingMessage}

/-- The client sends a message to a peer for a packet. -/
def Emits (ext : Externals) (setup : Setup) (engine : Engine) (packet : Bytes) (peer : PeerId)
    (message : ForwardingMessage) : Prop :=
  ∃ inputs final, handle ext setup inputs (.tun packet) engine = (.ok (), final) ∧
    final.effects = engine.effects ++ [.request peer (message.toJson ext).render]

/-- What is sent carries the packet over the active session. -/
theorem Emits.sent (hreads : ext.ReadsIdentities) (hsockets : ext.ReadsSockets)
    (hreach : (loop ext setup).Reachable engine)
    (hemits : Emits ext setup engine packet peer message) :
    ∃ channel next item frame, outgoing packet = some item ∧
      engine.activeChannel = some channel ∧ Active ext setup engine channel ∧
      peer = exitOf channel.session.route ∧
      DataPlane.send ext defaultMaximumPayloadSize item.payload channel = (.ok frame, next) ∧
      message = messageFor ext setup channel.session.route
        channel.session.sessionId frame item := by
  obtain ⟨inputs, final, hrun, heffects⟩ := hemits
  have hstep := handle_step hrun
  cases hstep with
  | idle => simp at heffects
  | unsent => simp at heffects
  | sent _ channel next route exit sessionId item frame shown active along towards current sends =>
      have hactive := (coherent_of_reachable hreach).active channel active
      obtain rfl := Option.some.inj (along.symm.trans hactive.route)
      obtain rfl := Option.some.inj (towards.symm.trans hactive.exit)
      obtain rfl := Option.some.inj (current.symm.trans hactive.session)
      simp only [withEffect, List.append_cancel_left_eq, List.cons.injEq, Effect.request.injEq,
        and_true] at heffects
      obtain ⟨rfl, hpayload⟩ := heffects
      exact ⟨channel, next, item, frame, shown, active, hactive, rfl, sends,
        (ForwardingMessage.toJson_injective hreads hsockets hpayload).symm⟩

/-! ## The peer it goes to -/

/-- A message goes to the peer of the session that its frame is sealed under. -/
def ToSessionPeer (ext : Externals) (engine : Engine) (peer : PeerId)
    (message : ForwardingMessage) : Prop :=
  ∃ channel payload next, engine.activeChannel = some channel ∧
    DataPlane.send ext defaultMaximumPayloadSize payload channel =
      (.ok message.data.frame, next) ∧
    peer = channel.session.peerId

/-- What a client sends for a packet goes to the peer of its session exactly on one-hop routes:
on two hops it goes to the exit, while the session is with the entry. -/
theorem toSessionPeer_iff (hreads : ext.ReadsIdentities) (hsockets : ext.ReadsSockets)
    (hreach : (loop ext setup).Reachable engine)
    (hemits : Emits ext setup engine packet peer message) :
    ToSessionPeer ext engine peer message ↔
      ∃ relay, engine.activeRoute = some (.oneHop relay) := by
  obtain ⟨channel, next, item, frame, _, hchannel, hactive, rfl, hsends, rfl⟩ :=
    hemits.sent hreads hsockets hreach
  rw [hactive.route]
  have hfirst := hactive.chosen.first
  have hvalid := hactive.chosen.valid
  cases hroute : channel.session.route with
  | oneHop relay =>
      rw [hroute] at hfirst
      exact ⟨fun _ => ⟨relay, rfl⟩, fun _ => ⟨channel, item.payload, next, hchannel, hsends,
        hfirst.symm⟩⟩
  | twoHop entry exit exitAddress =>
      rw [hroute] at hfirst hvalid
      refine ⟨?_, fun ⟨relay, hrelay⟩ => nomatch hrelay⟩
      rintro ⟨other, _, _, hother, _, hpeer⟩
      obtain rfl := Option.some.inj (hchannel.symm.trans hother)
      exact absurd (hfirst.symm.trans hpeer.symm) hvalid

/-- On one hop the message goes to the relay of the session. -/
theorem toSessionPeer_oneHop : ∃ engine peer message,
    (loop reference (ReferenceClient.setup .oneHop)).Reachable engine ∧
      Emits reference (ReferenceClient.setup .oneHop) engine ReferenceClient.query peer message ∧
      ToSessionPeer reference engine peer message := by
  obtain ⟨engine, hestablished⟩ := ReferenceClient.established .oneHop
  obtain ⟨frame, final, hrun, heffects, _⟩ := hestablished.sends (by decide)
  exact ⟨engine, _, _, hestablished.reachable, ⟨_, final, hrun, heffects⟩,
    (toSessionPeer_iff reference.readsIdentities reference.readsSockets hestablished.reachable
      ⟨_, final, hrun, heffects⟩).mpr ⟨⟨[2]⟩, hestablished.along⟩⟩

/-- On two hops the client sends to the exit what it sealed for the entry. -/
theorem sends_to_exit : ∃ engine message,
    (loop reference (ReferenceClient.setup .twoHop)).Reachable engine ∧
      engine.activeRoute = some (.twoHop ⟨[2]⟩ ⟨[3]⟩ ReferenceClient.address) ∧
      Emits reference (ReferenceClient.setup .twoHop) engine ReferenceClient.query ⟨[3]⟩ message ∧
      ¬ ToSessionPeer reference engine ⟨[3]⟩ message := by
  obtain ⟨engine, hestablished⟩ := ReferenceClient.established .twoHop
  obtain ⟨frame, final, hrun, heffects, _⟩ := hestablished.sends (by decide)
  refine ⟨engine, _, hestablished.reachable, hestablished.along, ⟨_, final, hrun, heffects⟩, ?_⟩
  rintro ⟨channel, _, _, hchannel, _, hpeer⟩
  obtain rfl := Option.some.inj (hestablished.channel.symm.trans hchannel)
  exact absurd hpeer (show (⟨[3]⟩ : PeerId) ≠ ⟨[2]⟩ by decide)

/-! ## What the end of the route makes of it -/

/-- A relay makes a context of a message and takes it, and the message names the destination of
the packet. -/
structure Understood (ext : Externals) (message : ForwardingMessage) (packet : Bytes) : Prop where
  taken : ∃ clientPeer context, ext.parsePeer message.clientPeer = some clientPeer ∧
    ForwardingContext.withForwardingId message.forwardingId message.clientSessionId clientPeer
      (Node.routeEnds clientPeer message.route).1 (Node.routeEnds clientPeer message.route).2
      message.route = .ok context ∧
    context.validateMessage ext message = .ok ()
  destination : ∃ shown, message.packet = some shown ∧
    ipDestination packet = some shown.destination.ip

/-- A message is understood exactly on two-hop routes and for DNS queries: the context of a one-hop
route cannot be made, and every other packet is sent to port 0. -/
theorem understood_iff (hreads : ext.ReadsIdentities) (hsockets : ext.ReadsSockets)
    (hreach : (loop ext setup).Reachable engine)
    (hemits : Emits ext setup engine packet peer message) :
    Understood ext message packet ↔
      (∃ entry exit exitAddress, engine.activeRoute = some (.twoHop entry exit exitAddress)) ∧
        (extractDnsPayload packet).isSome := by
  obtain ⟨channel, next, item, frame, hitem, _, hactive, _, hsends, rfl⟩ :=
    hemits.sent hreads hsockets hreach
  rw [hactive.route]
  constructor
  · rintro ⟨⟨clientPeer, context, _, hmade, hvalid⟩, _⟩
    obtain ⟨hbindable, rfl⟩ := ForwardingContext.withForwardingId_eq_ok.mp hmade
    obtain ⟨shown, hmatches⟩ := ForwardingContext.validateMessage_eq_ok.mp hvalid
    obtain rfl := Option.some.inj hmatches.shown
    obtain ⟨exitAddress, hroute⟩ := hbindable.route
    refine ⟨⟨_, _, exitAddress, congrArg some hroute⟩, ?_⟩
    cases hquery : extractDnsPayload packet with
    | some query => rfl
    -- A packet that is no DNS query is addressed to port 0, which no exit takes.
    | none =>
        simp only [outgoing, hquery] at hitem
        split_ifs at hitem
        obtain rfl := Option.some.inj hitem
        exact absurd rfl hmatches.carries.port
  · rintro ⟨⟨entry, exit, exitAddress, hroute⟩, hquery⟩
    have hroute := Option.some.inj hroute
    obtain ⟨⟨destination, sourcePort, payload⟩, hquery⟩ := Option.isSome_iff_exists.mp hquery
    obtain ⟨rfl, hdestination⟩ := extractDnsPayload_eq_some hquery
    simp only [outgoing, hquery, Option.some.injEq] at hitem
    subst hitem
    have hvalid := hactive.chosen.valid
    have hforeign := hactive.chosen.foreign
    rw [hroute] at hvalid hforeign ⊢
    simp only [RouteBinding.peers, List.mem_cons, List.not_mem_nil, or_false, not_or] at hforeign
    have hbindable : ForwardingContext.Bindable (.twoHop entry exit exitAddress)
        (ext.peerOf setup.identity) entry exit :=
      ⟨⟨exitAddress, rfl⟩, hvalid, hforeign.1, hforeign.2⟩
    refine ⟨⟨ext.peerOf setup.identity, _, hreads.peer _,
      ForwardingContext.withForwardingId_eq_ok.mpr ⟨hbindable, rfl⟩,
      ForwardingContext.validateMessage_eq_ok.mpr ⟨_, rfl, rfl, rfl, hreads.peer _, rfl, rfl, rfl,
        ?_⟩⟩, ⟨_, rfl, hdestination⟩⟩
    refine ⟨rfl, rfl, rfl, (DataPlane.send_eq_ok.mp hsends).1,
      show (1 : UInt64) ≠ 0 by decide, show (53 : UInt16) ≠ 0 by decide, ?_⟩
    intro htcp
    cases htcp

/-- The exit of a two-hop route understands a DNS query. -/
theorem understood_query : ∃ engine peer message,
    (loop reference (ReferenceClient.setup .twoHop)).Reachable engine ∧
      Emits reference (ReferenceClient.setup .twoHop) engine ReferenceClient.query peer message ∧
      Understood reference message ReferenceClient.query := by
  obtain ⟨engine, hestablished⟩ := ReferenceClient.established .twoHop
  obtain ⟨frame, final, hrun, heffects, _⟩ := hestablished.sends (by decide)
  exact ⟨engine, _, _, hestablished.reachable, ⟨_, final, hrun, heffects⟩,
    (understood_iff reference.readsIdentities reference.readsSockets hestablished.reachable
      ⟨_, final, hrun, heffects⟩).mpr ⟨⟨_, _, _, hestablished.along⟩, rfl⟩⟩

/-- The relay of a one-hop route makes no context of what the client sends it. -/
theorem oneHop_not_understood : ∃ engine peer message,
    (loop reference (ReferenceClient.setup .oneHop)).Reachable engine ∧
      Emits reference (ReferenceClient.setup .oneHop) engine ReferenceClient.query peer message ∧
      ¬ Understood reference message ReferenceClient.query := by
  obtain ⟨engine, hestablished⟩ := ReferenceClient.established .oneHop
  obtain ⟨frame, final, hrun, heffects, _⟩ := hestablished.sends (by decide)
  refine ⟨engine, _, _, hestablished.reachable, ⟨_, final, hrun, heffects⟩, ?_⟩
  rintro ⟨⟨clientPeer, context, _, hmade, _⟩, _⟩
  obtain ⟨_, hroute⟩ := (ForwardingContext.withForwardingId_eq_ok.mp hmade).1.route
  cases hroute

end Engine

end Client
