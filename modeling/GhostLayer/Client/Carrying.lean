import GhostLayer.Client.Decoding
import GhostLayer.Network.ChannelPairs
import GhostLayer.Relay.CircuitRuns
import GhostLayer.Relay.ExitFlow

/-! # One request over two relays

A client has a session with its entry, and the entry one with the exit. The first
request over them is opened and sealed again by the entry, handed on by the exit
to the destination, and the answer of the destination comes back to the client
the same way.
-/

namespace Client

open Foundation Network Relay

variable {ext : Externals}

/-! ## The sessions of a flow -/

/-- The two ends of the session of a client, and of the session of its entry with the exit. -/
structure Ends where
  client : EncryptedChannel
  near : EncryptedChannel
  far : EncryptedChannel
  exit : EncryptedChannel

/-- What the entry keeps for the client of a flow. -/
def forwardingOf (exitSetup : Relay.Setup ext) (flow : Flow) : ClientForwarding :=
  ⟨flow.clientPeer, flow.context exitSetup, flow.relaySessionId⟩

/-- The entry and the exit of a flow over which nothing was sent. -/
structure Ready (entrySetup exitSetup : Relay.Setup ext) (flow : Flow) (ends : Ends)
    (entry exit : Node) : Prop where
  entryPeer : flow.entryPeer = entrySetup.peerId
  endsAt : flow.EndsAt exitSetup
  apart : flow.clientSessionId ≠ flow.relaySessionId
  served : entry.clientForwarding.lookup flow.clientSessionId = some (forwardingOf exitSetup flow)
  near : entry.channels.lookup flow.clientSessionId = some ends.near
  far : entry.channels.lookup flow.relaySessionId = some ends.far
  exit : exit.channels.lookup flow.relaySessionId = some ends.exit
  outer : DataPlane.Paired ends.client ends.near
  inner : DataPlane.Paired ends.far ends.exit
  session : ends.client.session.sessionId = flow.clientSessionId
  relaySession : ends.far.session.sessionId = flow.relaySessionId

/-- The context of the client once its request was passed on. -/
def begunOf (exitSetup : Relay.Setup ext) (flow : Flow) (direction : ForwardingDirection) :
    ClientForwarding :=
  { forwardingOf exitSetup flow with
    context := (flow.context exitSetup).begun flow.forwardingId direction }

/-! ## The entry passes a request on -/

/-- A request of the client of a flow, with the frame around its payload and the packet that it
becomes for the exit. -/
inductive Asks (entrySetup exitSetup : Relay.Setup ext) (flow : Flow) (entry : Node)
    (payload frame : Bytes) : Bytes → ForwardedPacket → Prop
  | packet (message : ForwardingMessage) (packet : ForwardedPacket)
      (kind : message.kind = forwardingKind)
      (data : message.data = ⟨dataPlaneKind, flow.clientSessionId, frame⟩)
      (bound : Node.BoundPacket ext (forwardingOf exitSetup flow) message flow.clientPeer packet)
      (shown : packet.payload = payload)
      (numbered : packet.sequence ≠ 0)
      (sourced : packet.protocol = .udp → packet.source ≠ none)
      (room : entry.core.HasRoom message.forwardingId) :
      Asks entrySetup exitSetup flow entry payload frame (message.toJson ext).render
        (Node.rebound (flow.context exitSetup) packet)
  | bare (first : String) (destination : SocketAddr)
      (allowed : entrySetup.config.allowedExitDestinations.head? = some first)
      (address : ext.parseSocket first = some destination) :
      Asks entrySetup exitSetup flow entry payload frame
        (DataPlaneEnvelope.mk dataPlaneKind flow.clientSessionId frame).toJson.render
        (Node.barePacket (flow.context exitSetup) destination payload)

variable {entrySetup exitSetup : Relay.Setup ext} {flow : Flow} {ends : Ends} {entry exit : Node}
  {payload frame request : Bytes} {packet : ForwardedPacket} {next : Node}

theorem Asks.carries (hasks : Asks entrySetup exitSetup flow entry payload frame request packet)
    (hsize : payload.length ≤ defaultMaximumPayloadSize)
    (hport : packet.destination.port ≠ 0) :
    packet.payload = payload ∧ (flow.context exitSetup).Carries packet := by
  cases hasks with
  | packet message packet _ _ _ shown numbered sourced =>
      subst shown
      exact ⟨rfl, rfl, rfl, rfl, hsize, numbered, hport, sourced⟩
  | bare =>
      have hnumbered : (1 : UInt64) ≠ 0 := by decide
      exact ⟨rfl, rfl, rfl, rfl, hsize, hnumbered, hport, nofun⟩

/-- The message that the exit gets. -/
def passedOn (exitSetup : Relay.Setup ext) (flow : Flow) (frame : Bytes)
    (packet : ForwardedPacket) : ForwardingMessage :=
  Node.outboundMessage ext (forwardingOf exitSetup flow) frame packet

/-- The entry after a request of the client was passed on. -/
structure PassedOn (exitSetup : Relay.Setup ext) (flow : Flow) (inputs : Relay.Inputs)
    (channel : ResponseChannel) (message : ForwardingMessage) (ends : Ends)
    (entry next : Node) : Prop where
  served : next.clientForwarding.lookup flow.clientSessionId =
    some (begunOf exitSetup flow .clientToExit)
  near : next.channels.lookup flow.clientSessionId = some ends.near
  far : next.channels.lookup flow.relaySessionId = some ends.far
  pending : next.pendingClientForwards.lookup inputs.requestId =
    some ⟨flow.clientSessionId, channel⟩
  effects : next.effects = entry.effects ++
    [.request inputs.requestId exitSetup.peerId (message.toJson ext).render]

/-- The tables of the entry when the payload of a request was sealed for the exit. -/
theorem passedOn_relayed {node : Node} {inputs : Relay.Inputs} {channel : ResponseChannel}
    {near far : EncryptedChannel} {message : ForwardingMessage}
    (hready : Ready entrySetup exitSetup flow ends entry exit)
    (hchannels : node.channels = entry.channels.insert flow.clientSessionId near)
    (heffects : node.effects = entry.effects) :
    PassedOn exitSetup flow inputs channel message { ends with near, far } entry
      (Node.relayed ext inputs node flow.clientSessionId (forwardingOf exitSetup flow) far message
        channel) where
  served := AList.lookup_insert _
  near := (AList.lookup_insert_ne hready.apart).trans (hchannels ▸ AList.lookup_insert _)
  far := AList.lookup_insert _
  pending := AList.lookup_insert _
  effects := by
    rw [Node.relayed, heffects]
    rfl

/-- The entry opens the payload of a request and seals it for the exit. -/
theorem Asks.passedOn (inputs : Relay.Inputs) (channel : ResponseChannel)
    {near far : EncryptedChannel} {message : DataPlaneMessage} {sealed : Bytes}
    (hparse : ext.ParsesJson) (hreads : ext.ReadsIdentities) (hsockets : ext.ReadsSockets)
    (hasks : Asks entrySetup exitSetup flow entry payload frame request packet)
    (hready : Ready entrySetup exitSetup flow ends entry exit)
    (hreceive : DataPlane.receive ext defaultMaximumPayloadSize
      ⟨dataPlaneKind, flow.clientSessionId, frame⟩ ends.near = (.ok message, near))
    (hpayload : message.payload = payload)
    (hsend : DataPlane.send ext defaultMaximumPayloadSize payload ends.far = (.ok sealed, far)) :
    ∃ next, Node.handle ext entrySetup inputs
        (.network (.discoveryRequest flow.clientPeer request channel)) entry = (.ok (), next) ∧
      PassedOn exitSetup flow inputs channel (passedOn exitSetup flow sealed packet)
        { ends with near, far } entry next := by
  subst hpayload
  have hbegin : (flow.context exitSetup).CanBegin flow.forwardingId .clientToExit :=
    ⟨.inl rfl, nofun⟩
  obtain ⟨state, hrun⟩ := Node.handle_discoveryRequest ext entry entrySetup inputs request
    flow.clientPeer channel
  have hopens : ({ entry with state } : Node).Opens ext
      ⟨dataPlaneKind, flow.clientSessionId, frame⟩ message near :=
    ⟨ends.near, hready.near, hreceive⟩
  have hseals : (({ entry with state } : Node).withChannel flow.clientSessionId near).Seals ext
      flow.relaySessionId message.payload sealed far :=
    ⟨ends.far, (AList.lookup_insert_ne hready.apart.symm).trans hready.far, hsend⟩
  cases hasks with
  | packet forwarded packet kind data bound shown _ _ room =>
      obtain ⟨_, forwardingId, clientSessionId, clientPeer, route, _, shownPacket⟩ := forwarded
      subst kind data
      have hroute : route = .twoHop flow.entryPeer exitSetup.peerId flow.exitAddress := bound.route
      have hclient : Node.isClientProtocolRequest ext entrySetup ⟨forwardingKind, forwardingId,
          clientSessionId, clientPeer, route, ⟨dataPlaneKind, flow.clientSessionId, frame⟩,
          shownPacket⟩ { entry with state } = true := by
        simp only [Node.isClientProtocolRequest, hroute, decide_eq_true_eq]
        exact ⟨hready.entryPeer, by rw [hready.served]; rfl⟩
      let opened := { ({ entry with state } : Node).withChannel flow.clientSessionId near with
        core := entry.core.withFlow forwardingId message.payload.length }
      refine ⟨Node.relayed ext inputs opened flow.clientSessionId (forwardingOf exitSetup flow) far
        _ channel, ?_, passedOn_relayed hready rfl rfl⟩
      rw [hrun, Node.handleRequest_run, Node.readRequest_forwarding hparse hreads hsockets]
      simp only [Node.handleForwarding_run, hclient]
      exact Node.forwardPacket_eq_ok.mpr ⟨forwardingOf exitSetup flow, packet, message,
        near, sealed, far, hready.served, bound, hopens, shown, room, hbegin, hseals, rfl⟩
  | bare first destination allowed address =>
      have hserved : (entry.clientForwarding.lookup flow.clientSessionId).isSome := by
        rw [hready.served]
        rfl
      let opened := ({ entry with state } : Node).withChannel flow.clientSessionId near
      refine ⟨Node.relayed ext inputs opened flow.clientSessionId (forwardingOf exitSetup flow) far
        _ channel, ?_, passedOn_relayed hready rfl rfl⟩
      rw [hrun, Node.handleRequest_run, readRequest_envelope hparse]
      simp only [Node.handleEnvelope_run, hserved]
      exact Node.forwardEnvelope_eq_ok.mpr ⟨message, near, forwardingOf exitSetup flow, hopens,
        hready.served, .inr ⟨rfl, sealed, far, first, destination, hbegin, hseals, allowed, address,
          rfl⟩⟩

/-! ## The exit answers -/

/-- What the exit needs to answer a request of the flow. -/
structure CanAnswer (exitSetup : Relay.Setup ext) (flow : Flow) (inputs : Relay.Inputs)
    (packet : ForwardedPacket) (response : Bytes) (last : EncryptedChannel) (exit : Node) :
    Prop where
  size : packet.payload.length ≤ exitSetup.config.tun.maximumPacketSize
  answered : Answered exitSetup inputs packet (some response)
  unused : exit.exitForwarding.lookup flow.forwardingId = none
  room : exit.core.HasRoom flow.forwardingId
  translated : packet.protocol = .udp → Node.Translatable inputs exit
  channelOpen : inputs.channelOpen = true
  sends : DataPlane.CanSend ext last response

section Answers

variable {inputs : Relay.Inputs} {channel : ResponseChannel} {response sealed : Bytes}
  {far last : EncryptedChannel}

/-- The message that the exit gets, as one of its flow. -/
def deliveryOf (exitSetup : Relay.Setup ext) (flow : Flow) (sealed : Bytes)
    (packet : ForwardedPacket) (response : Bytes) (channel : ResponseChannel)
    (inputs : Relay.Inputs) : Relay.Delivery :=
  ⟨passedOn exitSetup flow sealed packet, packet, some response, channel, inputs⟩

theorem CanAnswer.sends_delivery (hreads : ext.ReadsIdentities)
    (hcan : CanAnswer exitSetup flow inputs packet response last exit)
    (hcarries : (flow.context exitSetup).Carries packet) (sealed : Bytes)
    (channel : ResponseChannel) :
    flow.Sends exitSetup (deliveryOf exitSetup flow sealed packet response channel inputs) where
  belongs := ⟨rfl, rfl, rfl, hreads.peer _, rfl, rfl, rfl, hcarries⟩
  session := rfl
  size := hcan.size
  answered := hcan.answered

variable (channel) in
/-- The exit hands the payload to the destination and seals what comes back for the entry. -/
theorem CanAnswer.answers (hparse : ext.ParsesJson) (hreads : ext.ReadsIdentities)
    (hsockets : ext.ReadsSockets) (hcipher : ext.CipherOpens)
    (hreach : (Node.loop ext exitSetup).Reachable exit)
    (hcan : CanAnswer exitSetup flow inputs packet response ends.exit exit)
    (hcarries : (flow.context exitSetup).Carries packet)
    (hready : Ready entrySetup exitSetup flow ends entry exit)
    (hsend : DataPlane.send ext defaultMaximumPayloadSize packet.payload ends.far =
      (.ok sealed, far)) :
    ∃ next opened last frame, Node.handle ext exitSetup inputs
        (.network (.discoveryRequest flow.entryPeer
          ((passedOn exitSetup flow sealed packet).toJson ext).render channel)) exit =
        (.ok (), next) ∧
      next.effects = exit.effects ++
        [Node.dispatchOf (passedOn exitSetup flow sealed packet) packet packet.payload,
          .respond channel ((Node.exitResponse (passedOn exitSetup flow sealed packet)
            frame).toJson ext).render] ∧
      DataPlane.Paired far opened ∧
      DataPlane.send ext defaultMaximumPayloadSize response opened = (.ok frame, last) := by
  have hsends := hcan.sends_delivery hreads hcarries sealed channel
  obtain ⟨state, hrun⟩ := Flow.handle_run exit hparse hreads hsockets hready.endsAt hsends
  obtain ⟨message, opened, hpayload, hreceive, hpaired⟩ :=
    hready.inner.transmits hparse hcipher hsend
  rw [hready.inner.forth.sessionId, hready.relaySession] at hreceive
  have hsound : Node.Sound exitSetup { exit with state } := { Node.sound_of_reachable hreach with }
  have hafter := DataPlane.established_after_receive hreceive
  obtain ⟨next, _, hforwarded, -⟩ := (Flow.exitForwarded_iff hsound hready.endsAt hsends hready.exit
    hreceive hpayload hready.inner.forth.established hafter).mpr
      ⟨hcan.unused, hcan.room, hcan.translated, by
        rintro response' hresponse
        obtain rfl := Option.some.inj hresponse
        exact ⟨hcan.channelOpen, hcan.sends⟩⟩
  obtain ⟨context, packet', message', opened', answer, middle, hreaches, hexchange, hanswers⟩ :=
    Node.exitForwarded_eq_ok.mp hforwarded
  -- The run read the packet, the context and the frame that are given here.
  obtain ⟨hunused, rfl⟩ := hsound.unused hreaches.held hreaches.admits
  obtain rfl := Option.some.inj (hsends.belongs.shown.symm.trans hreaches.admits.belongs.shown)
  obtain ⟨receiver, hreceiver, hreceive'⟩ := hreaches.opens
  obtain rfl := Option.some.inj (hready.exit.symm.trans hreceiver)
  obtain ⟨-, rfl⟩ := Prod.mk.inj (hreceive.symm.trans hreceive')
  rw [Flow.exitContext_eq hsends] at hexchange
  obtain ⟨called, hexchanges⟩ := Node.exchange_answered
    (Flow.takes_reached hsound hsends opened hunused) (hsound.limit ▸ hcan.size) hcan.answered
  obtain ⟨rfl, hexchanged⟩ := (hexchanges _ _).mp hexchange
  obtain ⟨hchannels, -, heffects⟩ := hexchanged.keeps
  obtain ⟨frame, last, ⟨sealer, hsealer, hseals⟩, -, rfl⟩ := hanswers
  obtain rfl : opened = sealer := by
    rw [hchannels] at hsealer
    exact Option.some.inj ((AList.lookup_insert _).symm.trans hsealer)
  refine ⟨_, opened, last, frame, hrun.trans hforwarded, ?_, hpaired, hseals⟩
  show middle.effects ++ _ = _
  rw [heffects, List.append_assoc]
  rfl

end Answers

/-! ## The entry hands the answer back -/

section Returns

variable {inputs asking : Relay.Inputs} {channel : ResponseChannel} {response sealed frame : Bytes}
  {message : ForwardingMessage} {opening : DataPlaneMessage} {near far : EncryptedChannel}

theorem readsNoHandshake (hparse : ext.ParsesJson) (message : ForwardingMessage) :
    ext.fromSlice (HandshakeResponse.fromJson ext) (message.toJson ext).render = none := by
  rw [Externals.fromSlice, hparse _ message.readable_toJson, Option.bind_some]
  exact HandshakeResponse.fromJson_missing rfl

theorem returnToClient_run {node : Node} {pending : PendingClientForward} {peerId : PeerId}
    {payload : Bytes} {answer : ForwardingMessage} {forwarding : ClientForwarding}
    {opened sealed : EncryptedChannel}
    (hdecoded : ext.fromSlice (ForwardingMessage.fromJson ext) payload = some answer)
    (hfound : node.clientForwarding.lookup pending.clientSessionId = some forwarding)
    (hmatches : forwarding.context.Matches ext answer packet)
    (hpeer : peerId = forwarding.context.exitPeer)
    (hsession : forwarding.context.relaySessionId = some answer.data.sessionId)
    (hbegin : forwarding.context.CanBegin answer.forwardingId .exitToClient)
    (hopens : node.Opens ext answer.data opening opened)
    (hseals : (node.withChannel answer.data.sessionId opened).Seals ext pending.clientSessionId
      opening.payload frame sealed) (hopen : inputs.channelOpen = true) :
    Node.returnToClient ext inputs pending peerId payload node =
      (.ok (), Node.returned ext node pending forwarding answer opened frame sealed) := by
  simp only [Node.returnToClient, Fallible.get_bind_run, Fallible.bind_eq_ok,
    Fallible.orThrow_eq_ok, Fallible.ofExcept_eq_ok, Check.mapError_eq_ok,
    ForwardingContext.validateMessage_eq_ok, ForwardingContext.validateExit_eq_ok,
    ForwardingContext.validateRelaySession_eq_ok, Node.onClientContext_eq_ok,
    Fallible.mapError_eq_ok, ForwardingContext.beginForwarding_eq_ok, Node.receiveOn_eq_ok,
    Node.sendOn_eq_ok, Node.respond_eq_ok]
  exact ⟨answer, node, ⟨hdecoded, rfl⟩, forwarding, node, ⟨hfound, rfl⟩, (), node,
    ⟨⟨packet, hmatches⟩, rfl⟩, (), node, ⟨hpeer, rfl⟩, (), node, ⟨hsession, rfl⟩, (), _,
    ⟨forwarding, _, hfound, ⟨hbegin, rfl⟩, rfl⟩, opening, _, ⟨opened, hopens, rfl⟩, frame, _,
    ⟨sealed, hseals, rfl⟩, hopen, rfl⟩

/-- An answer that belongs to the request that waits for it is returned to the client. -/
theorem PassedOn.returned (hparse : ext.ParsesJson) (hreads : ext.ReadsIdentities)
    (hsockets : ext.ReadsSockets)
    (hpassed : PassedOn exitSetup flow asking channel (passedOn exitSetup flow sealed packet) ends
      entry next)
    (hapart : flow.clientSessionId ≠ flow.relaySessionId)
    (hcarries : (flow.context exitSetup).Carries packet)
    (hreceive : DataPlane.receive ext defaultMaximumPayloadSize
      ⟨dataPlaneKind, flow.relaySessionId, frame⟩ ends.far = (.ok opening, far))
    (hpayload : opening.payload = response) (hopen : inputs.channelOpen = true)
    {returnFrame : Bytes}
    (hsend : DataPlane.send ext defaultMaximumPayloadSize response ends.near =
      (.ok returnFrame, near)) :
    ∃ final, Node.handle ext entrySetup inputs (.network (.discoveryResponse exitSetup.peerId
        asking.requestId ((Node.exitResponse (passedOn exitSetup flow sealed packet)
          frame).toJson ext).render)) next = (.ok (), final) ∧
      final.effects = next.effects ++ [.respond channel ((Node.inboundMessage ext
        (Node.exitResponse (passedOn exitSetup flow sealed packet) frame) flow.clientSessionId
        flow.clientPeer returnFrame).toJson ext).render] := by
  subst hpayload
  obtain ⟨state, hrun⟩ := Node.handle_discoveryResponse ext next entrySetup inputs
    ((Node.exitResponse (passedOn exitSetup flow sealed packet) frame).toJson ext).render
    exitSetup.peerId asking.requestId
  let answered : Node := { next with
    state
    pendingClientForwards := next.pendingClientForwards.erase asking.requestId }
  refine ⟨Node.returned ext answered ⟨flow.clientSessionId, channel⟩
    (begunOf exitSetup flow .clientToExit)
    (Node.exitResponse (passedOn exitSetup flow sealed packet) frame) far returnFrame near, ?_, rfl⟩
  rw [hrun]
  simp only [Node.handleResponse, readsNoHandshake hparse, Fallible.get_bind_run, hpassed.pending,
    Fallible.modify_bind_run]
  have hmatches : (begunOf exitSetup flow .clientToExit).context.Matches ext
      (Node.exitResponse (passedOn exitSetup flow sealed packet) frame) packet :=
    ⟨rfl, rfl, rfl, hreads.peer _, rfl, rfl, rfl, { hcarries with }⟩
  have hbegin : (begunOf exitSetup flow .clientToExit).context.CanBegin flow.forwardingId
      .exitToClient := by
    refine ⟨.inr rfl, fun hlast => ?_⟩
    cases hlast
  exact returnToClient_run
    (Externals.fromSlice_render hparse (ForwardingMessage.readable_toJson _)
      (ForwardingMessage.fromJson_toJson hreads hsockets _))
    hpassed.served hmatches rfl rfl hbegin ⟨ends.far, hpassed.far, hreceive⟩
    ⟨ends.near, (AList.lookup_insert_ne hapart).trans hpassed.near, hsend⟩ hopen

end Returns

/-! ## There and back -/

/-- The message that brings an answer to the client. -/
def answerOf (exitSetup : Relay.Setup ext) (flow : Flow) (packet : ForwardedPacket)
    (frame : Bytes) : ForwardingMessage where
  kind := forwardingKind
  forwardingId := flow.forwardingId
  clientSessionId := flow.clientSessionId
  clientPeer := ext.peerText flow.clientPeer
  route := flow.route exitSetup
  data := ⟨dataPlaneKind, flow.clientSessionId, frame⟩
  packet := some packet

/-- What the exit hands to the destination. -/
def handedOver (flow : Flow) (packet : ForwardedPacket) : Dispatch :=
  ⟨packet.protocol, flow.forwardingId, flow.clientSessionId, flow.relaySessionId, packet.payload⟩

section Carried

variable {parties : Parties ext} {circuit : Circuit} {asking answering returning : Relay.Inputs}
  {channel : ResponseChannel} {response : Bytes} {client : EncryptedChannel}

/-- What has happened when the answer of the destination is back. -/
structure Carried (parties : Parties ext) (flow : Flow) (channel : ResponseChannel)
    (packet : ForwardedPacket) (response : Bytes) (client : EncryptedChannel)
    (circuit answered : Circuit) : Prop where
  steps : (Circuit.system parties).Steps circuit answered
  running : answered.Running
  handed : ∃ answering bytes, answered.exit.node.effects = circuit.exit.node.effects ++
    [.dispatch (handedOver flow packet), .respond answering bytes]
  returned : ∃ number bytes frame message opened, answered.entry.node.effects =
      circuit.entry.node.effects ++ [.request number parties.exit.peerId bytes,
        .respond channel ((answerOf parties.exit flow packet frame).toJson ext).render] ∧
    DataPlane.receive ext defaultMaximumPayloadSize ⟨dataPlaneKind, flow.clientSessionId, frame⟩
      client = (.ok message, opened) ∧ message.payload = response
  dispatches : ∃ handled ∈ answered.exit.history, ∃ sealed answering,
    handled.event = .network (.discoveryRequest parties.entry.peerId
      ((passedOn parties.exit flow sealed packet).toJson ext).render answering) ∧
    .dispatch (handedOver flow packet) ∈ handled.emitted parties.exit
  responds : ∃ handled ∈ answered.entry.history, ∃ frame,
    .respond channel ((answerOf parties.exit flow packet frame).toJson ext).render ∈
      handled.emitted parties.entry

/-- A request of a client over two relays that are ready for it is handed to the destination as it
was, and what the destination answers comes back to the client as it was. -/
theorem carried (hparse : ext.ParsesJson) (hreads : ext.ReadsIdentities)
    (hsockets : ext.ReadsSockets) (hcipher : ext.CipherOpens)
    (hreach : (Circuit.system parties).Reachable circuit) (hrunning : circuit.Running)
    (hready : Ready parties.entry parties.exit flow ends circuit.entry.node circuit.exit.node)
    (hasks : Asks parties.entry parties.exit flow circuit.entry.node payload frame request packet)
    (hmade : circuit.Made ext flow.clientPeer request) (hchannel : channel.peer = flow.clientPeer)
    (hsend : DataPlane.send ext defaultMaximumPayloadSize payload ends.client =
      (.ok frame, client))
    (hfar : DataPlane.CanSend ext ends.far payload)
    (hport : packet.destination.port ≠ 0)
    (hcan : CanAnswer parties.exit flow answering packet response ends.exit circuit.exit.node)
    (hnear : DataPlane.CanSend ext ends.near response) (hopen : returning.channelOpen = true)
    (hasking : circuit.Unused parties asking.requestId)
    (hreturning : circuit.Unused parties returning.requestId)
    (hdistinct : returning.requestId ≠ asking.requestId) :
    ∃ answered, Carried parties flow channel packet response client circuit answered := by
  have htraced := Circuit.traced_of_reachable hreach
  obtain ⟨hsize, -⟩ := DataPlane.send_eq_ok.mp hsend
  obtain ⟨hshown, hcarries⟩ := hasks.carries hsize hport
  -- The request reaches the entry, which seals its payload for the exit.
  obtain ⟨message, near, hpayload, hreceive, houter⟩ := hready.outer.transmits hparse hcipher hsend
  rw [hready.outer.forth.sessionId, hready.session] at hreceive
  obtain ⟨sealed, far, hseal⟩ := Fallible.isOk_iff.mp (DataPlane.send_isOk.mpr hfar)
  obtain ⟨passing, hpassing, hpassed⟩ := hasks.passedOn asking channel hparse hreads hsockets
    hready hreceive hpayload hseal
  have hrequested := Circuit.emitted_of_effects htraced.entry.now.sound hpassing hpassed.effects
  have hasked := Circuit.step_atEntry circuit hrunning hasking
    (.asked hchannel (hready.entryPeer ▸ hready.endsAt.bindable.entry) hmade) hpassing
  -- The exit hands it to the destination and seals what comes back.
  obtain ⟨answered, opened, last, sealed', hanswering, heffects, hinner, hseal'⟩ :=
    hcan.answers ⟨parties.entry.peerId, asking.requestId⟩ hparse hreads hsockets hcipher
      htraced.exit.now.reachable hcarries hready (hshown.symm ▸ hseal)
  rw [hready.entryPeer] at hanswering
  have hresponded := Circuit.emitted_of_effects htraced.exit.now.sound hanswering heffects
  have hresponding := Circuit.step_atExit (circuit.atEntry asking _ passing)
    ⟨rfl, hrunning.exit⟩ (.asked hrequested (List.mem_singleton_self _)) hanswering
  -- The answer reaches the entry, which seals it for the client.
  obtain ⟨opening, far', hopening, hreceive', -⟩ := hinner.symm.transmits hparse hcipher hseal'
  rw [(DataPlane.sentOn_of_send hseal).sessionId, hready.relaySession] at hreceive'
  have hnear' := (DataPlane.canSend_of_receivedOn (DataPlane.receivedOn_of_receive hreceive)
    hready.outer.forth.established houter.forth.established).mpr hnear
  obtain ⟨returned, near', hreturn⟩ := Fallible.isOk_iff.mp (DataPlane.send_isOk.mpr hnear')
  obtain ⟨final, hreturning', hfinal⟩ := hpassed.returned hparse hreads hsockets hready.apart
    hcarries hreceive' hopening hopen hreturn
  have hunused := hreturning.atEntry passing hrequested fun peer payload
    hrequest => hdistinct (Relay.Effect.request.inj (List.mem_singleton.mp hrequest)).1
  have hreturned := Circuit.step_atEntry ((circuit.atEntry asking _ passing).atExit answering _
    answered) ⟨rfl, rfl⟩ hunused
    (.answered hresponded (List.mem_cons_of_mem _ (List.mem_singleton_self _))) hreturning'
  -- The client opens what the entry sealed.
  obtain ⟨message', client', hmessage, hreceived, -⟩ :=
    houter.symm.transmits hparse hcipher hreturn
  rw [(DataPlane.sentOn_of_send hsend).sessionId, hready.session] at hreceived
  have hanswered : (⟨passing, returning, _⟩ : Handled).emitted parties.entry = _ :=
    Circuit.emitted_of_effects
      (Circuit.traced_of_reachable (hreach.tail hasked)).entry.now.sound hreturning' hfinal
  refine ⟨_, ((Relation.ReflTransGen.single hasked).tail hresponding).tail hreturned, ⟨rfl, rfl⟩,
    ⟨_, _, heffects⟩, ⟨asking.requestId,
      ((passedOn parties.exit flow sealed packet).toJson ext).render, returned, message', client',
      ?_, hreceived, hmessage⟩, ?_, ?_⟩
  · exact (hfinal.trans (congrArg (· ++ _) hpassed.effects)).trans (List.append_assoc _ _ _)
  · refine ⟨⟨circuit.exit.node, answering, _⟩, List.mem_append_right _ (List.mem_singleton_self _),
      sealed, _, rfl, ?_⟩
    rw [Handled.emitted, hresponded]
    exact List.mem_cons_self
  · refine ⟨⟨passing, returning, _⟩, List.mem_append_right _ (List.mem_singleton_self _), returned,
      ?_⟩
    rw [hanswered]
    exact List.mem_singleton_self _

end Carried

end Client
