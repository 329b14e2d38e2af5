import GhostLayer.Foundation.Operations
import GhostLayer.Relay.RoundTrips

/-! # What an exit hands on for a client

A payload that the exit hands on over a route through the entry goes back to a
payload that the client sent on that session. The entry keeps one forwarding id
for the session of a client, and the exit hands on once under it.
-/

namespace Relay

open Foundation Network

variable {ext : Externals} {parties : Parties ext} {circuit : Circuit}

def Effect.payload : Effect → Option Bytes
  | .dispatch handed => some handed.payload
  | .respond _ _ | .request _ _ _ | .dial _ => none

/-- A message for a client's session over a route that begins at a relay. -/
def ForwardingMessage.IsFor (ext : Externals) (entry client : PeerId) (sessionId : SessionId)
    (message : ForwardingMessage) : Prop :=
  ext.parsePeer message.clientPeer = some client ∧ message.clientSessionId = sessionId ∧
    (Node.routeEnds client message.route).1 = entry

instance (entry client : PeerId) (sessionId : SessionId) (message : ForwardingMessage) :
    Decidable (message.IsFor ext entry client sessionId) :=
  inferInstanceAs (Decidable (_ ∧ _ ∧ _))

namespace Circuit

/-- The payloads that an event makes the exit hand on for a client's session. -/
def handedOn (parties : Parties ext) (client : PeerId) (sessionId : SessionId)
    (handled : Handled) : List Bytes :=
  match handled.event with
  | .network (.discoveryRequest _ payload _) =>
      match Node.readRequest ext payload with
      | .forwarding message =>
          if message.IsFor ext parties.entry.peerId client sessionId then
            (handled.emitted parties.exit).filterMap Effect.payload
          else []
      | _ => []
  | _ => []

/-- What the exit has handed on for a client's session, the first payload first. -/
def dispatched (parties : Parties ext) (circuit : Circuit) (client : PeerId)
    (sessionId : SessionId) : List Bytes :=
  circuit.exit.history.flatMap (handedOn parties client sessionId)

/-- What a client has sent on a session, the first payload first. -/
def sentOn (circuit : Circuit) (client : PeerId) (sessionId : SessionId) : List Bytes :=
  ((circuit.sent client).filter fun sending => sending.sessionId = sessionId).map Sending.payload

/-- What an event hands on comes with a message for the session. -/
theorem mem_handedOn {client : PeerId} {sessionId : SessionId} {handled : Handled} {bytes : Bytes}
    (hmem : bytes ∈ handedOn parties client sessionId handled) :
    ∃ dispatch peerId payload channel message, dispatch.payload = bytes ∧
      .dispatch dispatch ∈ handled.emitted parties.exit ∧
      handled.event = .network (.discoveryRequest peerId payload channel) ∧
      Node.readRequest ext payload = .forwarding message ∧
      message.IsFor ext parties.entry.peerId client sessionId := by
  unfold handedOn at hmem
  split at hmem
  next peerId payload channel hevent =>
    split at hmem
    next message hread =>
      split_ifs at hmem with hfor
      · obtain ⟨effect, heffect, hpayload⟩ := List.mem_filterMap.mp hmem
        cases effect with
        | dispatch dispatch =>
            exact ⟨dispatch, peerId, payload, channel, message, Option.some.inj hpayload, heffect,
              hevent, hread, hfor⟩
        | _ => cases hpayload
      · cases hmem
    next => cases hmem
  next => cases hmem

/-- What the exit dispatches for a message of the session, it hands on. -/
theorem mem_dispatched {client : PeerId} {sessionId : SessionId} {handled : Handled}
    {dispatch : Dispatch} {peerId : PeerId} {payload : Bytes} {channel : ResponseChannel}
    {message : ForwardingMessage} (hhandled : handled ∈ circuit.exit.history)
    (hevent : handled.event = .network (.discoveryRequest peerId payload channel))
    (hread : Node.readRequest ext payload = .forwarding message)
    (hfor : message.IsFor ext parties.entry.peerId client sessionId)
    (hdispatch : .dispatch dispatch ∈ handled.emitted parties.exit) :
    dispatch.payload ∈ circuit.dispatched parties client sessionId := by
  refine List.mem_flatMap.mpr ⟨handled, hhandled, ?_⟩
  simp only [handedOn, hevent, hread, if_pos hfor]
  exact List.mem_filterMap.mpr ⟨_, hdispatch, rfl⟩

/-- A payload that the exit hands on, with the request of the client that it goes back to. -/
structure Carried (parties : Parties ext) (circuit : Circuit) (client : PeerId)
    (sessionId : SessionId) (dispatch : Dispatch) : Prop where
  kept : ∃ asked ∈ circuit.entry.history, ∃ forwarding,
    asked.node.clientForwarding.lookup sessionId = some forwarding ∧
    dispatch.forwardingId = forwarding.context.forwardingId
  sent : parties.honest client → dispatch.payload ∈ circuit.sentOn client sessionId

/-- What the exit takes for a message of the entry is one that the entry passed on. -/
theorem Traced.relayed (hparse : ext.ParsesJson) (hreads : ext.ReadsIdentities)
    (hsockets : ext.ReadsSockets) (htraced : Traced parties circuit) {handled : Handled}
    {payload : Bytes} {channel : ResponseChannel} {message : ForwardingMessage} {client : PeerId}
    {sessionId : SessionId} (hhandled : handled ∈ circuit.exit.history)
    (hevent : handled.event =
      .network (.discoveryRequest parties.entry.peerId payload channel))
    (hread : Node.readRequest ext payload = .forwarding message)
    (hfor : message.IsFor ext parties.entry.peerId client sessionId) :
    ∃ asked ∈ circuit.entry.history, ∃ request asking forwarding frame packet,
      asked.event = .network (.discoveryRequest client request asking) ∧
      Node.Relays ext asked.node request client sessionId forwarding frame packet ∧
      message = Node.outboundMessage ext forwarding frame packet ∧
      .request channel.index parties.exit.peerId (message.toJson ext).render ∈
        asked.emitted parties.entry := by
  obtain ⟨-, hsent⟩ := (htraced.atExit handled hhandled).request _ _ _ hevent
  obtain ⟨asked, hhistory, hrequest⟩ := hsent rfl
  have hbefore := htraced.entry.before asked hhistory
  have hemission := (Node.handle_emitted hbefore.sound).2.each _ hrequest
  generalize hasking : asked.event = event at hemission
  generalize heffect : Effect.request channel.index parties.exit.peerId payload = effect
    at hemission
  cases hemission with
  | greeted peerId initiator =>
      -- A handshake is no message for a session.
      obtain ⟨-, -, rfl⟩ := Effect.request.inj heffect
      rw [Node.readRequest_initOf hparse hreads] at hread
      cases hread
  | relayed request peerId asking askedFor forwarding frame packet hrelays =>
      obtain ⟨-, -, rfl⟩ := Effect.request.inj heffect
      rw [Node.readRequest_forwarding hparse hreads hsockets] at hread
      obtain rfl := Node.Request.forwarding.inj hread
      obtain ⟨hclient, hsession, -⟩ := hfor
      have hforwards := hbefore.sound.clients _ _ hrelays.found
      have hpeer : peerId = client := by
        rw [Node.outboundMessage, hreads.peer, hrelays.client] at hclient
        exact Option.some.inj hclient
      have hkey : askedFor = sessionId := hforwards.session.symm.trans hsession
      subst hpeer hkey
      exact ⟨asked, hhistory, request, asking, forwarding, frame, packet, hasking, hrelays, rfl,
        hrequest⟩
  | injected bytes forwardingId context relaySessionId frame hfound =>
      -- The exit would be the entry of such a message.
      obtain ⟨-, hexit, rfl⟩ := Effect.request.inj heffect
      rw [Node.readRequest_forwarding hparse hreads hsockets] at hread
      obtain rfl := Node.Request.forwarding.inj hread
      obtain ⟨hclient, -, hentry⟩ := hfor
      have hpeer : context.clientPeer = client := by
        rw [Node.tunMessage, hreads.peer] at hclient
        exact Option.some.inj hclient
      have hroute : context.entryPeer = (Node.routeEnds context.clientPeer context.route).1 :=
        Node.entersByRoute_of_reachable hbefore.reachable _ _ hfound
      rw [hpeer, ← hexit] at hroute
      exact absurd (hentry.symm.trans hroute.symm) parties.distinct
  | dialed | accepted | welcomed | reported | acknowledged | dispatched | answered | returned =>
      cases heffect

/-- A message for the session that the exit takes comes from the entry. -/
theorem Traced.sender (htraced : Traced parties circuit) {handled : Handled}
    {message : ForwardingMessage} {peerId clientPeer client : PeerId} {sessionId : SessionId}
    {context : ForwardingContext} {packet : ForwardedPacket} {opening : DataPlaneMessage}
    {opened : EncryptedChannel} (hhandled : handled ∈ circuit.exit.history)
    (hreaches : Node.Reaches ext handled.node message peerId clientPeer context packet opening
      opened)
    (hfor : message.IsFor ext parties.entry.peerId client sessionId) :
    peerId = parties.entry.peerId := by
  obtain ⟨hclient, -, hentry⟩ := hfor
  obtain ⟨-, rfl⟩ := (htraced.exit.before handled hhandled).sound.unused hreaches.held
    hreaches.admits
  have hpeer : clientPeer = client :=
    Option.some.inj (hreaches.admits.belongs.clientPeer.symm.trans hclient)
  rw [← hentry, ← hpeer]
  exact hreaches.admits.entry

theorem Traced.carried (hparse : ext.ParsesJson) (hreads : ext.ReadsIdentities)
    (hsockets : ext.ReadsSockets) (hideal : circuit.IdealCipher parties)
    (htraced : Traced parties circuit) {handled : Handled} {dispatch : Dispatch}
    {peerId : PeerId} {payload : Bytes} {channel : ResponseChannel} {message : ForwardingMessage}
    {client : PeerId} {sessionId : SessionId} (hhandled : handled ∈ circuit.exit.history)
    (hdispatch : .dispatch dispatch ∈ handled.emitted parties.exit)
    (hevent : handled.event = .network (.discoveryRequest peerId payload channel))
    (hread : Node.readRequest ext payload = .forwarding message)
    (hfor : message.IsFor ext parties.entry.peerId client sessionId) :
    Carried parties circuit client sessionId dispatch := by
  have hbefore := htraced.exit.before handled hhandled
  have hemission := (Node.handle_emitted hbefore.sound).2.each _ hdispatch
  rw [hevent] at hemission
  generalize heffect : Effect.dispatch dispatch = effect at hemission
  cases hemission with
  | dispatched _ _ _ forwarded clientPeer context packet opening opened hdecoded hreaches =>
      obtain rfl := Node.Request.forwarding.inj (hread.symm.trans hdecoded)
      obtain rfl := Effect.dispatch.inj heffect
      obtain rfl := htraced.sender hhandled hreaches hfor
      obtain ⟨asked, hasked, request, asking, forwarding, frame, packet', hrequested, hrelays,
        rfl, hrequest⟩ := htraced.relayed hparse hreads hsockets hhandled hevent hread hfor
      refine ⟨⟨asked, hasked, forwarding, hrelays.found, rfl⟩, ?_⟩
      intro hhonest
      obtain ⟨envelope, carried, opened', sealed, hdata, rfl, hopens, -, hseals⟩ := hrelays.opens
      -- The client sealed the frame that the entry opened.
      obtain ⟨-, -, hmade⟩ := (htraced.atEntry asked hasked).request _ _ _ hrequested
      obtain ⟨sending, hsending, hon, hframe⟩ := hmade hhonest envelope hdata
      obtain ⟨_, _, hsend⟩ := htraced.sent client sending hsending
      rw [← hframe] at hsend
      have henvelope : asked.envelope ext = some envelope :=
        (Handled.envelope_of_request hrequested).trans hdata
      have hopened : carried.payload = sending.payload :=
        Handled.payload_of_opens hparse hideal
          (fun _ hcall => .inl ⟨client, hhonest, sending, hsending, hframe ▸ hcall⟩)
          (fun _ hcall => .inl ⟨asked, hasked, hcall⟩) henvelope hsend hopens
          fun _ => (htraced.entry.before asked hasked).limit
      -- The entry sealed the frame that the exit opened.
      have henvelope' : handled.envelope ext =
          some (Node.outboundMessage ext forwarding frame packet').data := by
        rw [Handled.envelope_of_request hevent, hread, Node.Request.data]
      obtain ⟨sealer, hsealer, hsend'⟩ := hseals
      have hcarried : opening.payload = carried.payload :=
        Handled.payload_of_opens hparse hideal
          (fun _ hcall => .inr (.inl ⟨asked, hasked, sealer, _, frame,
            .of_withChannel henvelope hopens hsealer, hcall, _, hrequest, .request _ _ _ rfl⟩))
          (fun _ hcall => .inr ⟨handled, hhandled, hcall⟩) henvelope' hsend' hreaches.opens
          fun _ => hbefore.limit
      have hpayload : packet.payload = sending.payload :=
        hreaches.payload.trans (hcarried.trans hopened)
      exact List.mem_map.mpr
        ⟨sending, List.mem_filter.mpr ⟨hsending, decide_eq_true hon.symm⟩, hpayload.symm⟩
  | dialed | relayed | accepted | reported | acknowledged | answered => cases heffect

/-- An event hands on one payload at most. -/
theorem Traced.handedOn_length (htraced : Traced parties circuit) {handled : Handled}
    (hhandled : handled ∈ circuit.exit.history) (client : PeerId) (sessionId : SessionId) :
    (handedOn parties client sessionId handled).length ≤ 1 := by
  have hemitted : Node.Emitted parties.exit handled.inputs handled.node handled.event
      (handled.emitted parties.exit) :=
    (Node.handle_emitted (htraced.exit.before handled hhandled).sound).2
  have hshort : ((handled.emitted parties.exit).filterMap Effect.payload).length ≤ 1 := by
    rcases hemitted.shape with hone | ⟨dispatch, channel, payload, hboth⟩
    · exact (List.length_filterMap_le _ _).trans hone
    · rw [hboth]
      exact Nat.le_refl 1
  unfold handedOn
  split
  · split
    · split_ifs
      · exact hshort
      · exact Nat.zero_le 1
    · exact Nat.zero_le 1
  · exact Nat.zero_le 1

/-- Two events hand on under different forwarding ids, and a session has one of them only. -/
theorem Traced.handedOn_apart (hparse : ext.ParsesJson) (hreads : ext.ReadsIdentities)
    (hsockets : ext.ReadsSockets) (hideal : circuit.IdealCipher parties)
    (htraced : Traced parties circuit) {first second : Handled}
    (hfirst : first ∈ circuit.exit.history) (hsecond : second ∈ circuit.exit.history)
    (hapart : Process.Apart parties.exit first second) (client : PeerId) (sessionId : SessionId) :
    handedOn parties client sessionId first = [] ∨
      handedOn parties client sessionId second = [] := by
  by_contra hboth
  obtain ⟨hsome, hsome'⟩ := not_or.mp hboth
  obtain ⟨bytes, hbytes⟩ := List.exists_mem_of_ne_nil _ hsome
  obtain ⟨bytes', hbytes'⟩ := List.exists_mem_of_ne_nil _ hsome'
  obtain ⟨dispatch, _, _, _, _, -, hdispatch, hevent, hread, hfor⟩ := mem_handedOn hbytes
  obtain ⟨dispatch', _, _, _, _, -, hdispatch', hevent', hread', hfor'⟩ := mem_handedOn hbytes'
  obtain ⟨asked, hasked, forwarding, hfound, hid⟩ :=
    (htraced.carried hparse hreads hsockets hideal hfirst hdispatch hevent hread hfor).kept
  obtain ⟨asked', hasked', forwarding', hfound', hid'⟩ :=
    (htraced.carried hparse hreads hsockets hideal hsecond hdispatch' hevent' hread' hfor').kept
  -- Both go back to what the entry keeps for the session now.
  obtain ⟨kept, hkept, hsame⟩ := htraced.entry.clients asked hasked _ _ hfound
  obtain ⟨kept', hkept', hsame'⟩ := htraced.entry.clients asked' hasked' _ _ hfound'
  obtain rfl := Option.some.inj (hkept.symm.trans hkept')
  refine hapart dispatch dispatch' hdispatch hdispatch' ?_
  rw [hid, hid', ← hsame.forwardingId, ← hsame'.forwardingId]

theorem Traced.dispatched_length (hparse : ext.ParsesJson) (hreads : ext.ReadsIdentities)
    (hsockets : ext.ReadsSockets) (hideal : circuit.IdealCipher parties)
    (htraced : Traced parties circuit) (client : PeerId) (sessionId : SessionId) :
    (circuit.dispatched parties client sessionId).length ≤ 1 := by
  apply length_flatMap_le_one
  · intro handled hhandled
    exact htraced.handedOn_length hhandled client sessionId
  · refine htraced.exit.apart.imp_of_mem ?_
    intro first second hfirst hsecond hapart
    exact htraced.handedOn_apart hparse hreads hsockets hideal hfirst hsecond hapart client
      sessionId

theorem Traced.sent_of_dispatched (hparse : ext.ParsesJson) (hreads : ext.ReadsIdentities)
    (hsockets : ext.ReadsSockets) (hideal : circuit.IdealCipher parties)
    (htraced : Traced parties circuit) {client : PeerId} (hhonest : parties.honest client)
    {sessionId : SessionId} {bytes : Bytes}
    (hbytes : bytes ∈ circuit.dispatched parties client sessionId) :
    bytes ∈ circuit.sentOn client sessionId := by
  obtain ⟨handled, hhandled, hbytes⟩ := List.mem_flatMap.mp hbytes
  obtain ⟨dispatch, _, _, _, _, rfl, hdispatch, hevent, hread, hfor⟩ := mem_handedOn hbytes
  exact (htraced.carried hparse hreads hsockets hideal hhandled hdispatch hevent hread hfor).sent
    hhonest

end Circuit

end Relay
