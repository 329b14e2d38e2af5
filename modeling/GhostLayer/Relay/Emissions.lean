import GhostLayer.Relay.Soundness

/-! # What a relay does to the outside

While a relay handles an event it answers, asks another relay, dials or hands a
payload on. Every such effect comes from one of a few places in the handlers,
also in the event that ends the relay.
-/

namespace Relay.Node

open Foundation Network

variable {ext : Externals} {setup : Setup ext} {inputs : Inputs} {node final : Node}
  {event : LoopEvent} {effect : Effect}

/-- The data of a session that a request carries. -/
def Request.data : Request → Option DataPlaneEnvelope
  | .forwarding message => some message.data
  | .envelope data => some data
  | .handshake _ | .metadata _ | .unknown => none

/-- A payload that a client sent on its session and that was sealed for the exit. -/
structure Relays (ext : Externals) (node : Node) (payload : Bytes) (peerId : PeerId)
    (sessionId : SessionId) (forwarding : ClientForwarding) (frame : Bytes)
    (packet : ForwardedPacket) : Prop where
  found : node.clientForwarding.lookup sessionId = some forwarding
  client : forwarding.clientPeer = peerId
  route : ∀ forwarded, readRequest ext payload = .forwarding forwarded →
    forwarded.route = forwarding.context.route
  opens : ∃ envelope message opened sealed, (readRequest ext payload).data = some envelope ∧
    envelope.sessionId = sessionId ∧ node.Opens ext envelope message opened ∧
    packet.payload = message.payload ∧
    (node.withChannel sessionId opened).Seals ext forwarding.relaySessionId message.payload frame
      sealed

theorem Relays.of_packet {payload frame : Bytes} {peerId : PeerId} {forwarded : ForwardingMessage}
    {forwarding : ClientForwarding} {packet : ForwardedPacket} {message : DataPlaneMessage}
    {opened sealed : EncryptedChannel} (hsound : Sound setup node)
    (hdecoded : readRequest ext payload = .forwarding forwarded)
    (hfound : node.clientForwarding.lookup forwarded.data.sessionId = some forwarding)
    (hbound : BoundPacket ext forwarding forwarded peerId packet)
    (hopens : node.Opens ext forwarded.data message opened)
    (hshown : packet.payload = message.payload)
    (hseals : (node.withChannel forwarded.data.sessionId opened).Seals ext
      forwarding.relaySessionId message.payload frame sealed) :
    Relays ext node payload peerId forwarded.data.sessionId forwarding frame
      (rebound forwarding.context packet) where
  found := hfound
  client := (hsound.clients _ _ hfound).peer.symm.trans hbound.peer.symm
  route other hother := by
    obtain rfl := Request.forwarding.inj (hdecoded.symm.trans hother)
    exact hbound.route
  opens := by
    refine ⟨forwarded.data, message, opened, sealed, ?_, rfl, hopens, hshown, hseals⟩
    rw [hdecoded, Request.data]

theorem Relays.of_envelope {payload frame : Bytes} {peerId : PeerId}
    {envelope : DataPlaneEnvelope} {forwarding : ClientForwarding} {message : DataPlaneMessage}
    {opened sealed : EncryptedChannel} {destination : SocketAddr}
    (hdecoded : readRequest ext payload = .envelope envelope)
    (hfound : node.clientForwarding.lookup envelope.sessionId = some forwarding)
    (hclient : forwarding.clientPeer = peerId)
    (hopens : node.Opens ext envelope message opened)
    (hseals : (node.withChannel envelope.sessionId opened).Seals ext forwarding.relaySessionId
      message.payload frame sealed) :
    Relays ext node payload peerId envelope.sessionId forwarding frame
      (barePacket forwarding.context destination message.payload) where
  found := hfound
  client := hclient
  route other hother := by cases hdecoded.symm.trans hother
  opens := by
    refine ⟨envelope, message, opened, sealed, ?_, rfl, hopens, rfl, hseals⟩
    rw [hdecoded, Request.data]

/-- A response of an exit that goes back to the client of a request. -/
structure Returns (ext : Externals) (node : Node) (payload : Bytes) (peerId : PeerId)
    (requestId : RequestId) (pending : PendingClientForward) (response : ForwardingMessage)
    (forwarding : ClientForwarding) (packet : ForwardedPacket) (message : DataPlaneMessage)
    (frame : Bytes) : Prop where
  undecoded : ext.fromSlice (HandshakeResponse.fromJson ext) payload = none
  found : node.pendingClientForwards.lookup requestId = some pending
  decoded : ext.fromSlice (ForwardingMessage.fromJson ext) payload = some response
  client : node.clientForwarding.lookup pending.clientSessionId = some forwarding
  belongs : forwarding.context.Matches ext response packet
  exit : peerId = forwarding.context.exitPeer
  session : forwarding.context.relaySessionId = some response.data.sessionId
  carries : ∃ opened sealed, node.Opens ext response.data message opened ∧
    (node.withChannel response.data.sessionId opened).Seals ext pending.clientSessionId
      message.payload frame sealed

/-- A message whose exchange brought a response, which was sealed on the session of the message. -/
structure AnswersWith (setup : Setup ext) (inputs : Inputs) (node : Node)
    (forwarded : ForwardingMessage) (peerId clientPeer : PeerId) (packet : ForwardedPacket)
    (response frame : Bytes) : Prop where
  reaches : ∃ state context message opened next sealed,
    Reaches ext node forwarded peerId clientPeer context packet message opened ∧
    exchange ext setup inputs forwarded peerId packet packet.payload
      (({ node with state } : Node).reached forwarded context packet opened) =
        (.ok (some response), next) ∧
    next.Seals ext forwarded.data.sessionId response frame sealed

/-- Where an effect comes from. -/
inductive Emission (setup : Setup ext) (inputs : Inputs) (node : Node) : LoopEvent → Effect → Prop
  | dialed (event : LoopEvent) (address : String) :
      Emission setup inputs node event (.dial address)
  | greeted (peerId : PeerId) (initiator : SessionInitiator) :
      Emission setup inputs node (.network (.peerConnected peerId))
        (.request inputs.requestId peerId ((initiator.initOf ext).toJson ext).render)
  | relayed (payload : Bytes) (peerId : PeerId) (channel : ResponseChannel)
      (sessionId : SessionId) (forwarding : ClientForwarding) (frame : Bytes)
      (packet : ForwardedPacket)
      (relays : Relays ext node payload peerId sessionId forwarding frame packet) :
      Emission setup inputs node (.network (.discoveryRequest peerId payload channel))
        (.request inputs.requestId forwarding.context.exitPeer
          ((outboundMessage ext forwarding frame packet).toJson ext).render)
  | injected (payload : Bytes) (forwardingId : SessionId) (context : ForwardingContext)
      (relaySessionId : SessionId) (frame : Bytes)
      (found : node.exitForwarding.lookup forwardingId = some context) :
      Emission setup inputs node (.tun payload) (.request inputs.requestId context.entryPeer
        ((tunMessage ext context relaySessionId frame payload).toJson ext).render)
  | accepted (payload : Bytes) (peerId : PeerId) (channel : ResponseChannel)
      (init : HandshakeInit) (response : HandshakeResponse)
      (decoded : readRequest ext payload = .handshake init) :
      Emission setup inputs node (.network (.discoveryRequest peerId payload channel))
        (.respond channel (response.toJson ext).render)
  | welcomed (payload : Bytes) (peerId : PeerId) (requestId : RequestId)
      (channel : ResponseChannel) (response : HandshakeResponse) :
      Emission setup inputs node (.network (.discoveryResponse peerId requestId payload))
        (.respond channel (response.toJson ext).render)
  | reported (payload : Bytes) (peerId : PeerId) (channel : ResponseChannel)
      (request : RelayMetadataRequest) (metadata : RelayMetadata) (json : Json)
      (decoded : readRequest ext payload = .metadata request)
      (encoded : metadata.toJson ext = some json) :
      Emission setup inputs node (.network (.discoveryRequest peerId payload channel))
        (.respond channel json.render)
  | acknowledged (payload : Bytes) (peerId : PeerId) (channel : ResponseChannel)
      (envelope answer : DataPlaneEnvelope)
      (decoded : readRequest ext payload = .envelope envelope) :
      Emission setup inputs node (.network (.discoveryRequest peerId payload channel))
        (.respond channel answer.toJson.render)
  | dispatched (payload : Bytes) (peerId : PeerId) (channel : ResponseChannel)
      (forwarded : ForwardingMessage) (clientPeer : PeerId) (context : ForwardingContext)
      (packet : ForwardedPacket) (message : DataPlaneMessage) (opened : EncryptedChannel)
      (decoded : readRequest ext payload = .forwarding forwarded)
      (reaches : Reaches ext node forwarded peerId clientPeer context packet message opened) :
      Emission setup inputs node (.network (.discoveryRequest peerId payload channel))
        (dispatchOf forwarded packet packet.payload)
  | answered (payload : Bytes) (peerId : PeerId) (channel : ResponseChannel)
      (forwarded : ForwardingMessage) (clientPeer : PeerId) (packet : ForwardedPacket)
      (response frame : Bytes)
      (decoded : readRequest ext payload = .forwarding forwarded)
      (answers : AnswersWith setup inputs node forwarded peerId clientPeer packet response frame) :
      Emission setup inputs node (.network (.discoveryRequest peerId payload channel))
        (.respond channel ((exitResponse forwarded frame).toJson ext).render)
  | returned (payload : Bytes) (peerId : PeerId) (requestId : RequestId)
      (pending : PendingClientForward) (response : ForwardingMessage)
      (forwarding : ClientForwarding) (packet : ForwardedPacket) (message : DataPlaneMessage)
      (frame : Bytes)
      (returns : Returns ext node payload peerId requestId pending response
        forwarding packet message
        frame) :
      Emission setup inputs node (.network (.discoveryResponse peerId requestId payload))
        (.respond pending.responseChannel ((inboundMessage ext response pending.clientSessionId
          forwarding.clientPeer frame).toJson ext).render)

/-- Effects that come from where they can come from. An event has one effect at most, or hands a
payload on and answers. -/
structure Emitted (setup : Setup ext) (inputs : Inputs) (node : Node) (event : LoopEvent)
    (effects : List Effect) : Prop where
  each : ∀ effect ∈ effects, Emission setup inputs node event effect
  shape : effects.length ≤ 1 ∨ ∃ dispatch channel payload,
    effects = [.dispatch dispatch, .respond channel payload]

theorem Emitted.none : Emitted setup inputs node event [] := ⟨by simp, .inl (Nat.zero_le 1)⟩

theorem Emitted.one (hemission : Emission setup inputs node event effect) :
    Emitted setup inputs node event [effect] where
  each := by
    intro other hother
    obtain rfl := List.mem_singleton.mp hother
    exact hemission
  shape := .inl (Nat.le_refl 1)

/-- An event makes one request at most. -/
theorem Emitted.request_inj {effects : List Effect} {requestId requestId' : RequestId}
    {peer peer' : PeerId} {payload payload' : Bytes}
    (hemitted : Emitted setup inputs node event effects)
    (hfirst : .request requestId peer payload ∈ effects)
    (hsecond : .request requestId' peer' payload' ∈ effects) :
    requestId = requestId' ∧ peer = peer' ∧ payload = payload' := by
  rcases hemitted.shape with hshort | ⟨dispatch, channel, answer, rfl⟩
  · match effects, hshort, hfirst, hsecond with
    | [effect], _, hfirst, hsecond =>
        obtain rfl := List.mem_singleton.mp hfirst
        cases List.mem_singleton.mp hsecond
        exact ⟨rfl, rfl, rfl⟩
  · simp at hfirst

/-- What is reported about a relay does not matter to the messages it takes. -/
theorem Reaches.of_state {state : RelayState} {forwarded : ForwardingMessage}
    {peerId clientPeer : PeerId} {context : ForwardingContext} {packet : ForwardedPacket}
    {message : DataPlaneMessage} {opened : EncryptedChannel}
    (hreaches : Reaches ext { node with state } forwarded peerId clientPeer context packet message
      opened) :
    Reaches ext node forwarded peerId clientPeer context packet message opened where
  held := by
    cases hreaches.held with
    | known _ hknown => exact .known _ hknown
    | made hnone hbindable => exact .made hnone hbindable
  admits := hreaches.admits
  opens := hreaches.opens
  payload := hreaches.payload
  room := hreaches.room

/-- What a relay that stays in its loop did to the outside. -/
theorem emitted_of_step (hsound : Sound setup node)
    (hstep : Step ext setup inputs node event final) :
    ∃ effects, final.effects = node.effects ++ effects ∧
      Emitted setup inputs node event effects := by
  cases hstep with
  | idle | listened | met | left | beat | unsent =>
      exact ⟨[], (List.append_nil _).symm, .none⟩
  | greeted peerId state pending waiting =>
      obtain ⟨relaySessionId, hpending⟩ := waitingFor_eq_some waiting
      refine ⟨_, rfl, .one ?_⟩
      rw [(hsound.pending _ _ hpending).relayInit]
      exact .greeted peerId pending.initiator
  | injected payload forwardingId forwarding relaySessionId frame sealed found active seals =>
      exact ⟨_, rfl, .one (.injected payload forwardingId forwarding relaySessionId frame found)⟩
  | responded payload peerId requestId state _ hresponse =>
      cases hresponse with
      | ignored | dropped => exact ⟨[], (List.append_nil _).symm, .none⟩
      | established response pending session entry exit exitAddress decoded found completes route
          peer =>
          refine ⟨handshakeAnswer ext pending, rfl, ?_⟩
          unfold handshakeAnswer
          cases pending.clientResponseChannel with
          | none => exact .none
          | some channel => exact .one (.welcomed payload peerId requestId channel _)
      | returned pending response forwarding packet message opened frame sealed undecoded found
          decoded client belongs exit session opens seals =>
          exact ⟨_, rfl, .one (.returned payload peerId requestId pending response forwarding packet
            message frame ⟨undecoded, found, decoded, client, belongs,
              exit, session, opened, sealed,
              opens, seals⟩)⟩
  | requested payload peerId channel state _ hrequest =>
      cases hrequest with
      | ignored | rejected | refused | received => exact ⟨[], (List.append_nil _).symm, .none⟩
      | accepted init response session responder decoded =>
          exact ⟨_, rfl, .one (.accepted payload peerId channel init response decoded)⟩
      | started init response session responder exit exitAddress =>
          exact ⟨[.dial exitAddress], rfl, .one (.dialed _ exitAddress)⟩
      | metadata request json decoded encoded =>
          exact ⟨_, rfl, .one (.reported payload peerId channel request _ json decoded encoded)⟩
      | forwarded forwarded forwarding packet message opened frame sealed decoded found entry bound
          opens shown seals kind =>
          exact ⟨_, rfl, .one (.relayed payload peerId channel forwarded.data.sessionId forwarding
            frame _ (.of_packet hsound decoded found bound opens shown seals))⟩
      | forwardedBare envelope forwarding message opened frame sealed
          destination decoded found client
          opens seals kind =>
          exact ⟨_, rfl, .one (.relayed payload peerId channel envelope.sessionId forwarding frame _
            (.of_envelope decoded found client opens seals))⟩
      | acknowledged envelope current message opened frame sealed decoded =>
          exact ⟨_, rfl, .one (.acknowledged payload peerId channel envelope _ decoded)⟩
      | exited forwarded clientPeer context packet message opened answer next _ decoded reaches
          exchanges answers =>
          have hdispatched : Emission setup inputs node
              (.network (.discoveryRequest peerId payload channel))
              (dispatchOf forwarded packet packet.payload) :=
            .dispatched payload peerId channel forwarded clientPeer context packet message opened
              decoded reaches.of_state
          -- A payload that is handed on goes before its answer.
          obtain ⟨exitHandler, udpNat, contacted, effects, rfl, _, _, heffects⟩ :=
            exchange_ok exchanges
          cases answer with
          | none =>
              obtain rfl := answers
              rcases heffects with rfl | rfl
              · exact ⟨[], (List.append_nil _).symm, .none⟩
              · exact ⟨_, rfl, .one hdispatched⟩
          | some response =>
              obtain ⟨frame, sealed, seals, _, rfl⟩ := answers
              have hanswered : Emission setup inputs node
                  (.network (.discoveryRequest peerId payload channel)) (.respond channel
                    ((exitResponse forwarded frame).toJson ext).render) :=
                .answered payload peerId channel forwarded clientPeer packet response frame decoded
                  ⟨state, context, message, opened, _, sealed, reaches.of_state, exchanges, seals⟩
              rcases heffects with rfl | rfl
              · exact ⟨_, rfl, .one hanswered⟩
              · refine ⟨_, List.append_assoc _ _ _, ⟨?_, ?_⟩⟩
                · simpa using ⟨hdispatched, hanswered⟩
                · exact .inr ⟨_, _, _, rfl⟩

/-- What an event makes a relay do to the outside. -/
def emitted (setup : Setup ext) (inputs : Inputs) (event : LoopEvent) (node : Node) : List Effect :=
  (handle ext setup inputs event node).2.effects.drop node.effects.length

/-- An event adds to what the relay did before. -/
theorem handle_emitted (hsound : Sound setup node) :
    (handle ext setup inputs event node).2.effects =
        node.effects ++ emitted setup inputs event node ∧
      Emitted setup inputs node event (emitted setup inputs event node) := by
  have hadds : ∃ effects, (handle ext setup inputs event node).2.effects = node.effects ++ effects ∧
      Emitted setup inputs node event effects := by
    by_cases hok : (handle ext setup inputs event node).1.IsOk
    · obtain ⟨_, final, hrun⟩ := Fallible.isOk_iff.mp hok
      rw [hrun]
      exact emitted_of_step hsound (handle_step hrun)
    · rcases handle_fails hok with hsame | ⟨payload, peerId, channel, state, message, clientPeer,
        context, packet, opening, opened, rfl, hdecoded, hreaches, heffects⟩
      · exact ⟨[], hsame.trans (List.append_nil _).symm, .none⟩
      · exact ⟨_, heffects,
          .one (.dispatched payload peerId channel message clientPeer context packet
          opening opened hdecoded hreaches.of_state)⟩
  obtain ⟨effects, heffects, hemitted⟩ := hadds
  have hsame : emitted setup inputs event node = effects := by
    rw [emitted, heffects, List.drop_left]
  rw [hsame]
  exact ⟨heffects, hemitted⟩

theorem emitted_of_ok (hrun : handle ext setup inputs event node = (.ok (), final))
    (hsound : Sound setup node) :
    final.effects = node.effects ++ emitted setup inputs event node := by
  have heffects := (@handle_emitted ext setup inputs node event hsound).1
  rwa [hrun] at heffects

end Relay.Node
