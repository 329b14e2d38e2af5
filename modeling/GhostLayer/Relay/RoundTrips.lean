import GhostLayer.Relay.Circuit

/-! # Requests and their responses

A response that the entry passes on to a client goes back to a request of that
client, through the request of the entry that carried it and the answer of the
exit to that request.
-/

namespace Relay

open Foundation Network

variable {ext : Externals} {parties : Parties ext} {circuit : Circuit}

/-! ## Forwarded messages among what a relay sends -/

namespace ForwardingMessage

variable {message : ForwardingMessage}

theorem render_ne_response (response : HandshakeResponse) :
    (message.toJson ext).render ≠ (response.toJson ext).render := by
  intro hsame
  have hjson := Json.render_injective hsame
  simp [ForwardingMessage.toJson, HandshakeResponse.toJson, ForwardingMessage.fieldNames,
    HandshakeResponse.fieldNames] at hjson

theorem render_ne_envelope (envelope : DataPlaneEnvelope) :
    (message.toJson ext).render ≠ envelope.toJson.render := by
  intro hsame
  have hjson := Json.render_injective hsame
  simp [ForwardingMessage.toJson, DataPlaneEnvelope.toJson, ForwardingMessage.fieldNames,
    DataPlaneEnvelope.fieldNames] at hjson

theorem render_ne_metadata {metadata : RelayMetadata} {json : Json}
    (hencoded : metadata.toJson ext = some json) : (message.toJson ext).render ≠ json.render := by
  intro hsame
  obtain rfl := Json.render_injective hsame
  cases hheartbeat : metadata.lastHeartbeat <;>
    simp [RelayMetadata.toJson, ForwardingMessage.toJson, RelayMetadata.fieldNames,
      ForwardingMessage.fieldNames, Option.bind_eq_some_iff, hheartbeat] at hencoded

end ForwardingMessage

/-! ## One exchange -/

/-- A request of a client and the answer of the exit to it. -/
structure Exchange where
  /-- The event in which the entry passed the request on, and the number that it got. -/
  asked : Handled
  requestId : RequestId
  request : Bytes
  client : PeerId
  channel : ResponseChannel
  sessionId : SessionId
  forwarding : ClientForwarding
  frame : Bytes
  packet : ForwardedPacket
  /-- The event in which the exit answered, what it answered and the frame around that. -/
  answered : Handled
  response : Bytes
  sealed : Bytes

namespace Exchange

/-- What the entry sent to the exit. -/
def message (ext : Externals) (exchange : Exchange) : ForwardingMessage :=
  Node.outboundMessage ext exchange.forwarding exchange.frame exchange.packet

/-- What the exit sent to the entry. -/
def answer (ext : Externals) (exchange : Exchange) : ForwardingMessage :=
  Node.exitResponse (exchange.message ext) exchange.sealed

/-- The entry passed the request of the client on under the sessions that it keeps for it. -/
structure Asked (parties : Parties ext) (circuit : Circuit) (exchange : Exchange) : Prop where
  handled : exchange.asked ∈ circuit.entry.history
  event : exchange.asked.event =
    .network (.discoveryRequest exchange.client exchange.request exchange.channel)
  own : exchange.channel.peer = exchange.client
  relays : Node.Relays ext exchange.asked.node exchange.request exchange.client exchange.sessionId
    exchange.forwarding exchange.frame exchange.packet
  sends : .request exchange.requestId parties.exit.peerId
    ((exchange.message ext).toJson ext).render ∈ exchange.asked.emitted parties.entry

/-- The exit answered that request, on the session of the entry that the request was sealed on. -/
structure Answered (parties : Parties ext) (circuit : Circuit) (exchange : Exchange) : Prop where
  handled : exchange.answered ∈ circuit.exit.history
  event : exchange.answered.event = .network (.discoveryRequest parties.entry.peerId
    ((exchange.message ext).toJson ext).render ⟨parties.entry.peerId, exchange.requestId⟩)
  answers : ∃ packet, Node.AnswersWith parties.exit exchange.answered.inputs
    exchange.answered.node (exchange.message ext) parties.entry.peerId exchange.client packet
    exchange.response exchange.sealed

end Exchange

namespace Circuit

/-- What the exit handles as a request of the entry is the request of that number. -/
theorem Traced.request_of_channel (htraced : Traced parties circuit) {asked handled : Handled}
    {peerId peer : PeerId} {requestId : RequestId} {payload bytes : Bytes}
    (hasked : asked ∈ circuit.entry.history)
    (hrequest : .request requestId peer bytes ∈ asked.emitted parties.entry)
    (hhandled : handled ∈ circuit.exit.history)
    (hevent : handled.event = .network (.discoveryRequest peerId payload
      ⟨parties.entry.peerId, requestId⟩)) :
    peerId = parties.entry.peerId ∧ peer = parties.exit.peerId ∧ payload = bytes := by
  obtain ⟨hpeer, hsent⟩ := (htraced.atExit handled hhandled).request _ _ _ hevent
  obtain ⟨other, hother, hsame⟩ := hsent hpeer.symm
  obtain ⟨hexit, hpayload⟩ := htraced.numbered other hother asked hasked _ _ _ _ _ hsame hrequest
  exact ⟨hpeer.symm, hexit.symm, hpayload⟩

/-- The exit answers a message of the entry with the response of its exchange. -/
theorem Traced.answered (hparse : ext.ParsesJson) (hreads : ext.ReadsIdentities)
    (hsockets : ext.ReadsSockets) (htraced : Traced parties circuit) {asked handled : Handled}
    {peer : PeerId} {requestId : RequestId} {message : ForwardingMessage} {payload : Bytes}
    {exitPeer : PeerId} {exitAddress : String}
    (hasked : asked ∈ circuit.entry.history)
    (hrequest : .request requestId peer (message.toJson ext).render ∈ asked.emitted parties.entry)
    (hroute : message.route = .twoHop parties.entry.peerId exitPeer exitAddress)
    (hhandled : handled ∈ circuit.exit.history)
    (hrespond : .respond ⟨parties.entry.peerId, requestId⟩ payload ∈ handled.emitted parties.exit)
    (hundecoded : ext.fromSlice (HandshakeResponse.fromJson ext) payload = none) :
    peer = parties.exit.peerId ∧
      handled.event = .network (.discoveryRequest parties.entry.peerId
        (message.toJson ext).render ⟨parties.entry.peerId, requestId⟩) ∧
      ∃ clientPeer packet response frame,
        Node.AnswersWith parties.exit handled.inputs handled.node message parties.entry.peerId
          clientPeer packet response frame ∧
        payload = ((Node.exitResponse message frame).toJson ext).render := by
  have hkept := htraced.exit.before handled hhandled
  have hread := Node.readRequest_forwarding hparse hreads hsockets message
  have hemission := (Node.handle_emitted hkept.sound).2.each _ hrespond
  generalize hevent : handled.event = event at hemission
  generalize heffect : Effect.respond ⟨parties.entry.peerId, requestId⟩
    payload = effect at hemission
  -- What the exit sent as a response to this request was made of this request.
  have hsame : ∀ {peerId bytes}, event = .network (.discoveryRequest peerId bytes
      ⟨parties.entry.peerId, requestId⟩) →
      peerId = parties.entry.peerId ∧ peer = parties.exit.peerId ∧
        bytes = (message.toJson ext).render := by
    intro peerId bytes hrequested
    exact htraced.request_of_channel hasked hrequest hhandled (hevent.trans hrequested)
  cases hemission with
  | dialed | greeted | relayed | injected | dispatched => cases heffect
  | accepted bytes peerId channel init response decoded =>
      cases heffect
      obtain ⟨_, _, rfl⟩ := hsame rfl
      cases hread.symm.trans decoded
  | welcomed bytes peerId number channel response =>
      cases heffect
      rw [Externals.fromSlice_render hparse response.readable_toJson
        (HandshakeResponse.fromJson_toJson hreads response)] at hundecoded
      cases hundecoded
  | reported bytes peerId channel request metadata json decoded =>
      cases heffect
      obtain ⟨_, _, rfl⟩ := hsame rfl
      cases hread.symm.trans decoded
  | acknowledged bytes peerId channel envelope answer decoded =>
      cases heffect
      obtain ⟨_, _, rfl⟩ := hsame rfl
      cases hread.symm.trans decoded
  | answered bytes peerId channel forwarded clientPeer packet response frame decoded answers =>
      cases heffect
      obtain ⟨rfl, hexit, rfl⟩ := hsame rfl
      obtain rfl := Node.Request.forwarding.inj (hread.symm.trans decoded)
      exact ⟨hexit, rfl, clientPeer, packet, response, frame, answers, rfl⟩
  | returned bytes peerId number pending response forwarding packet opening frame returns =>
      -- Such a response would go back to a request that this relay forwards as an entry.
      obtain ⟨hchannel, _⟩ := Effect.respond.inj heffect
      obtain ⟨other, hother, payload, client, forwarding', _, _, _, hrequested, hrelays, _⟩ :=
        (hkept.forwarded _ _ returns.found).request
      rw [← hchannel] at hrequested
      obtain ⟨_, _, rfl⟩ := htraced.request_of_channel hasked hrequest hother hrequested
      obtain ⟨address, hown⟩ := ((htraced.exit.before other hother).sound.clients _ _
        hrelays.found).route
      rw [← hrelays.route message hread, hroute] at hown
      exact absurd (RouteBinding.twoHop.inj hown).1 parties.distinct

/-- What the exit took for the client of a message is the client that the message names. -/
theorem clientPeer_of_answers (hreads : ext.ReadsIdentities) {setup : Setup ext} {inputs : Inputs}
    {node : Node} {message : ForwardingMessage} {peerId clientPeer client : PeerId}
    {packet : ForwardedPacket} {response frame : Bytes} (hsound : Node.Sound setup node)
    (hclient : message.clientPeer = ext.peerText client)
    (hanswers : Node.AnswersWith setup inputs node message peerId clientPeer packet response
      frame) : clientPeer = client := by
  obtain ⟨_, _, _, _, _, _, hreaches, _⟩ := hanswers.reaches
  obtain ⟨_, rfl⟩ := hsound.unused hreaches.held hreaches.admits
  have hread := hreaches.admits.belongs.clientPeer
  rw [hclient, hreads.peer] at hread
  exact (Option.some.inj hread).symm

/-- The entry answers no request of its own. -/
theorem Traced.not_answers (htraced : Traced parties circuit) {handled : Handled} {payload : Bytes}
    {peerId clientPeer exitPeer : PeerId} {channel : ResponseChannel} {message : ForwardingMessage}
    {packet : ForwardedPacket} {response frame : Bytes} {exitAddress : String}
    (hhandled : handled ∈ circuit.entry.history)
    (hevent : handled.event = .network (.discoveryRequest peerId payload channel))
    (hroute : message.route = .twoHop parties.entry.peerId exitPeer exitAddress) :
    ¬ Node.AnswersWith parties.entry handled.inputs handled.node message peerId clientPeer packet
      response frame := by
  intro hanswers
  obtain ⟨_, _, _, _, _, _, hreaches, _⟩ := hanswers.reaches
  obtain ⟨_, rfl⟩ := (htraced.entry.before handled hhandled).sound.unused hreaches.held
    hreaches.admits
  have hentry := hreaches.admits.entry
  simp only [Node.exitContext, ForwardingContext.bound, hroute, Node.routeEnds] at hentry
  exact ((htraced.atEntry handled hhandled).request _ _ _ hevent).2.1 hentry

/-- A response that the entry passes on over a route to the exit belongs to one request. It goes to
the client of that request, carries what the exit sealed for it on the relay session of that client,
and is sealed on the client's own session. -/
def Returns (parties : Parties ext) (circuit : Circuit) (handled : Handled)
    (channel : ResponseChannel) (answer : ForwardingMessage) : Prop :=
  ∃ exchange : Exchange, exchange.Asked parties circuit ∧ exchange.Answered parties circuit ∧
    exchange.channel = channel ∧
    handled.event = .network (.discoveryResponse parties.exit.peerId exchange.requestId
      ((exchange.answer ext).toJson ext).render) ∧
    ∃ opened frame sealed,
      (handled.node.withChannel exchange.forwarding.relaySessionId opened).Seals ext
        exchange.sessionId exchange.response frame sealed ∧
      answer = Node.inboundMessage ext (exchange.answer ext)
        exchange.sessionId exchange.client frame

/-- Every response over a route to the exit that the entry has sent. -/
def Isolated (parties : Parties ext) (circuit : Circuit) : Prop :=
  ∀ handled ∈ circuit.entry.history, ∀ channel (answer : ForwardingMessage) exitAddress,
    .respond channel (answer.toJson ext).render ∈ handled.emitted parties.entry →
    answer.route = .twoHop parties.entry.peerId parties.exit.peerId exitAddress →
    Returns parties circuit handled channel answer

theorem Traced.isolated (hparse : ext.ParsesJson) (hreads : ext.ReadsIdentities)
    (hsockets : ext.ReadsSockets) (hideal : circuit.IdealCipher parties)
    (htraced : Traced parties circuit) : Isolated parties circuit := by
  intro handled hhandled channel answer exitAddress hrespond hroute
  have hkept := htraced.entry.before handled hhandled
  have hemission := (Node.handle_emitted hkept.sound).2.each _ hrespond
  generalize hevent : handled.event = event at hemission
  generalize heffect : Effect.respond channel (answer.toJson ext).render = effect at hemission
  cases hemission with
  | dialed | greeted | relayed | injected | dispatched => cases heffect
  | accepted _ _ _ _ response | welcomed _ _ _ _ response =>
      exact absurd (Effect.respond.inj heffect).2 (ForwardingMessage.render_ne_response response)
  | reported _ _ _ _ _ _ _ encoded =>
      exact absurd (Effect.respond.inj heffect).2 (ForwardingMessage.render_ne_metadata encoded)
  | acknowledged _ _ _ _ envelope =>
      exact absurd (Effect.respond.inj heffect).2 (ForwardingMessage.render_ne_envelope envelope)
  | answered _ _ _ forwarded _ _ _ _ _ answers =>
      obtain rfl := ForwardingMessage.toJson_injective hreads hsockets
        (Effect.respond.inj heffect).2
      exact absurd answers (htraced.not_answers hhandled hevent hroute)
  | returned payload peerId requestId pending response forwarding packet message frame returns =>
      obtain ⟨rfl, hbytes⟩ := Effect.respond.inj heffect
      obtain rfl := ForwardingMessage.toJson_injective hreads hsockets hbytes
      obtain ⟨opened, sealed, hopens, hseals⟩ := returns.carries
      -- The request that the response is for, and the client that is still the same.
      obtain ⟨asked, hasked, request, client, forwarding', frame', packet',
        kept, hrequested, hrelays,
        hrequest, hkept', hsame⟩ := (hkept.forwarded _ _ returns.found).request
      obtain ⟨address, hown⟩ := (hkept.sound.clients _ _ returns.client).route
      have hexit : peerId = parties.exit.peerId := by
        rw [returns.exit]
        have hsent : forwarding.context.route = .twoHop parties.entry.peerId parties.exit.peerId
            exitAddress := returns.belongs.route.symm.trans hroute
        exact (RouteBinding.twoHop.inj (hown.symm.trans hsent)).2.1
      subst hexit
      obtain ⟨answered, hanswered, hreply⟩ := (htraced.atEntry handled hhandled).response _ _ hevent
      obtain ⟨address', hroute'⟩ := ((htraced.entry.before asked hasked).sound.clients _ _
        hrelays.found).route
      obtain ⟨hpeer, hevent', clientPeer, packet'', response', frame'', hanswers, rfl⟩ :=
        htraced.answered hparse hreads hsockets hasked hrequest hroute' hanswered hreply
          returns.undecoded
      have hdecoded := returns.decoded
      rw [Externals.fromSlice_render hparse (ForwardingMessage.readable_toJson _)
        (ForwardingMessage.fromJson_toJson hreads hsockets _)] at hdecoded
      obtain rfl := Option.some.inj hdecoded
      obtain rfl := Option.some.inj (hkept'.symm.trans returns.client)
      have hclient : kept.clientPeer = client := hsame.clientPeer.trans hrelays.client
      obtain rfl := clientPeer_of_answers hreads (htraced.exit.before answered hanswered).sound
        (congrArg ext.peerText hrelays.client) hanswers
      -- What the entry opens is what the exit sealed.
      have henvelope' : answered.envelope ext =
          some (Node.outboundMessage ext forwarding' frame' packet').data := by
        rw [Handled.envelope_of_request hevent', Node.readRequest_forwarding hparse hreads hsockets,
          Node.Request.data]
      obtain ⟨sealer, _, hsealer, hsend⟩ := Handled.has_of_answers henvelope' hanswers
      have hpayload : message.payload = response' :=
        Handled.payload_of_opens hparse hideal
          (fun _ hcall => .inr (.inr ⟨answered, hanswered, sealer, _, frame'', hsealer, hcall, _,
            hreply, .respond _ _ rfl⟩))
          (fun _ hcall => .inl ⟨handled, hhandled, hcall⟩)
          (Handled.envelope_of_response hevent returns.decoded) hsend hopens
          fun _ => hkept.limit
      rw [hpayload] at hseals
      refine ⟨⟨asked, requestId, request, clientPeer, pending.responseChannel,
        pending.clientSessionId, forwarding', frame', packet', answered, response', frame''⟩,
        ⟨hasked, hrequested, ((htraced.atEntry asked hasked).request _ _ _ hrequested).1, hrelays,
          hpeer ▸ hrequest⟩, ⟨hanswered, hevent', packet'', hanswers⟩, rfl, hevent, opened, frame,
        sealed, hseals, ?_⟩
      rw [hclient]
      rfl

end Circuit

end Relay
