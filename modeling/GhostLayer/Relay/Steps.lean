import GhostLayer.Relay.EntryLaws
import GhostLayer.Relay.ExitLaws
import Mathlib.Data.List.Rotate

/-! # The steps of a relay

What one event can do to a relay that stays in its loop, as one relation for
requests, one for responses and one for every event, and what a relay that ends
has done to the outside. Invariants are derived from these.
-/

namespace Relay

open Foundation Network

variable {ext : Externals}

namespace Node

/-! ## Requests -/

/-- What a request is read as. -/
inductive Request where
  | handshake (init : HandshakeInit)
  | metadata (request : RelayMetadataRequest)
  | forwarding (message : ForwardingMessage)
  | envelope (envelope : DataPlaneEnvelope)
  | unknown

def readRequest (ext : Externals) (payload : Bytes) : Request :=
  match ext.fromSlice (HandshakeInit.fromJson ext) payload with
  | some init => .handshake init
  | none =>
      match ext.fromSlice RelayMetadataRequest.fromJson payload with
      | some request => .metadata request
      | none =>
          match ext.fromSlice (ForwardingMessage.fromJson ext) payload with
          | some message => .forwarding message
          | none =>
              match ext.fromSlice DataPlaneEnvelope.fromJson payload with
              | some envelope => .envelope envelope
              | none => .unknown

/-- A forwarding message is read as what it is. -/
theorem readRequest_forwarding (hparse : ext.ParsesJson) (hreads : ext.ReadsIdentities)
    (hsockets : ext.ReadsSockets) (message : ForwardingMessage) :
    readRequest ext (message.toJson ext).render = .forwarding message := by
  have hmessage := hparse (message.toJson ext) message.readable_toJson
  simp only [readRequest, Externals.fromSlice, hmessage, Option.bind_some]
  rw [ForwardingMessage.toJson, HandshakeInit.fromJson_missing rfl,
    RelayMetadataRequest.fromJson_missing rfl, ← ForwardingMessage.toJson,
    ForwardingMessage.fromJson_toJson hreads hsockets]

section Requests

variable (ext) (setup : Setup ext) (inputs : Inputs)

/-- What handling a request can do to a relay that stays in its loop. -/
inductive RequestStep (payload : Bytes) (peerId : PeerId) (channel : ResponseChannel)
    (node : Node) : Node → Prop
  | ignored (other : ∀ init, readRequest ext payload = .handshake init →
        init.kind ≠ "secure_session_init") :
      RequestStep payload peerId channel node node
  | rejected (init : HandshakeInit) (reason : SessionError) (responder : SessionResponder)
      (decoded : readRequest ext payload = .handshake init)
      (kind : init.kind = "secure_session_init")
      (rejects : SessionResponder.acceptInit ext init peerId setup.config.protocolVersion
        inputs.secret node.sessionResponder = (.error reason, responder)) :
      RequestStep payload peerId channel node { node with sessionResponder := responder }
  | refused (init : HandshakeInit) (response : HandshakeResponse) (session : SecureSession)
      (responder : SessionResponder)
      (decoded : readRequest ext payload = .handshake init)
      (kind : init.kind = "secure_session_init")
      (accepts : SessionResponder.acceptInit ext init peerId setup.config.protocolVersion
        inputs.secret node.sessionResponder = (.ok (response, session), responder))
      (full : ¬ node.core.TakesSession) :
      RequestStep payload peerId channel node (node.refused responder)
  | accepted (init : HandshakeInit) (response : HandshakeResponse) (session : SecureSession)
      (responder : SessionResponder)
      (decoded : readRequest ext payload = .handshake init)
      (kind : init.kind = "secure_session_init")
      (accepts : SessionResponder.acceptInit ext init peerId setup.config.protocolVersion
        inputs.secret node.sessionResponder = (.ok (response, session), responder))
      (takes : node.core.TakesSession)
      (other : isEntry ext setup peerId init.routeContext = false) :
      RequestStep payload peerId channel node ((node.admitted responder session).withEffect
        (.respond channel (response.toJson ext).render))
  | started (init : HandshakeInit) (response : HandshakeResponse) (session : SecureSession)
      (responder : SessionResponder) (exit : PeerId) (exitAddress : String)
      (decoded : readRequest ext payload = .handshake init)
      (kind : init.kind = "secure_session_init")
      (accepts : SessionResponder.acceptInit ext init peerId setup.config.protocolVersion
        inputs.secret node.sessionResponder = (.ok (response, session), responder))
      (takes : node.core.TakesSession)
      (route : init.routeContext = .twoHop setup.peerId exit exitAddress)
      (entry : isEntry ext setup peerId init.routeContext = true) :
      RequestStep payload peerId channel node (awaiting setup inputs
        (node.admitted responder session) init peerId response channel exit exitAddress)
  | metadata (request : RelayMetadataRequest) (json : Json)
      (decoded : readRequest ext payload = .metadata request)
      (encoded : (metadataOf setup inputs node).toJson ext = some json) :
      RequestStep payload peerId channel node (node.withEffect (.respond channel json.render))
  | forwarded (forwarded : ForwardingMessage) (forwarding : ClientForwarding)
      (packet : ForwardedPacket) (message : DataPlaneMessage) (opened : EncryptedChannel)
      (frame : Bytes) (sealed : EncryptedChannel)
      (decoded : readRequest ext payload = .forwarding forwarded)
      (found : node.clientForwarding.lookup forwarded.data.sessionId = some forwarding)
      (entry : ∃ exit exitAddress, forwarded.route = .twoHop setup.peerId exit exitAddress)
      (bound : BoundPacket ext forwarding forwarded peerId packet)
      (opens : node.Opens ext forwarded.data message opened)
      (shown : packet.payload = message.payload)
      (seals : (node.withChannel forwarded.data.sessionId opened).Seals ext
        forwarding.relaySessionId message.payload frame sealed)
      (kind : forwarded.kind = forwardingKind) :
      RequestStep payload peerId channel node (relayed ext inputs
        { node.withChannel forwarded.data.sessionId opened with
          core := node.core.withFlow forwarded.forwardingId message.payload.length }
        forwarded.data.sessionId forwarding sealed
        (outboundMessage ext forwarding frame (rebound forwarding.context packet)) channel)
  | forwardedBare (envelope : DataPlaneEnvelope) (forwarding : ClientForwarding)
      (message : DataPlaneMessage) (opened : EncryptedChannel) (frame : Bytes)
      (sealed : EncryptedChannel) (destination : SocketAddr)
      (decoded : readRequest ext payload = .envelope envelope)
      (found : node.clientForwarding.lookup envelope.sessionId = some forwarding)
      (client : forwarding.clientPeer = peerId)
      (opens : node.Opens ext envelope message opened)
      (seals : (node.withChannel envelope.sessionId opened).Seals ext
        forwarding.relaySessionId message.payload frame sealed)
      (kind : envelope.kind = dataPlaneKind) :
      RequestStep payload peerId channel node (relayed ext inputs
        (node.withChannel envelope.sessionId opened) envelope.sessionId forwarding sealed
        (outboundMessage ext forwarding frame
          (barePacket forwarding.context destination message.payload)) channel)
  | received (envelope : DataPlaneEnvelope) (current : EncryptedChannel)
      (decoded : readRequest ext payload = .envelope envelope)
      (found : node.channels.lookup envelope.sessionId = some current) :
      RequestStep payload peerId channel node (node.withChannel envelope.sessionId
        (DataPlane.receive ext defaultMaximumPayloadSize envelope current).2)
  | acknowledged (envelope : DataPlaneEnvelope) (current : EncryptedChannel)
      (message : DataPlaneMessage) (opened : EncryptedChannel) (frame : Bytes)
      (sealed : EncryptedChannel)
      (decoded : readRequest ext payload = .envelope envelope)
      (found : node.channels.lookup envelope.sessionId = some current)
      (receives : DataPlane.receive ext defaultMaximumPayloadSize envelope current =
        (.ok message, opened))
      (sends : DataPlane.send ext defaultMaximumPayloadSize (acknowledgement message) opened =
        (.ok frame, sealed)) :
      RequestStep payload peerId channel node
        ((node.withChannel envelope.sessionId sealed).withEffect (.respond channel
          (DataPlaneEnvelope.mk dataPlaneKind envelope.sessionId frame).toJson.render))
  | exited (forwarded : ForwardingMessage) (clientPeer : PeerId) (context : ForwardingContext)
      (packet : ForwardedPacket) (message : DataPlaneMessage) (opened : EncryptedChannel)
      (answer : Option Bytes) (next final : Node)
      (decoded : readRequest ext payload = .forwarding forwarded)
      (reaches : Reaches ext node forwarded peerId clientPeer context packet message opened)
      (exchanges : exchange ext setup inputs forwarded peerId packet packet.payload
        (node.reached forwarded context packet opened) = (.ok answer, next))
      (answers : Answers ext inputs next forwarded channel answer final) :
      RequestStep payload peerId channel node final

end Requests

variable {node final : Node} {result : Unit} {setup : Setup ext} {inputs : Inputs}
  {payload : Bytes} {peerId : PeerId} {channel : ResponseChannel}

theorem handleRequest_run :
    handleRequest ext setup inputs payload peerId channel node =
      match readRequest ext payload with
      | .handshake init => acceptHandshake ext setup inputs init peerId channel node
      | .metadata request => answerMetadata ext setup inputs request channel node
      | .forwarding message => handleForwarding ext setup inputs message peerId channel node
      | .envelope envelope => handleEnvelope ext setup inputs envelope peerId channel node
      | .unknown => (.ok (), node) := by
  unfold handleRequest readRequest
  cases ext.fromSlice (HandshakeInit.fromJson ext) payload with
  | some init => rfl
  | none =>
      cases ext.fromSlice RelayMetadataRequest.fromJson payload with
      | some request => rfl
      | none =>
          cases ext.fromSlice (ForwardingMessage.fromJson ext) payload with
          | some message => rfl
          | none => cases ext.fromSlice DataPlaneEnvelope.fromJson payload <;> rfl

variable (ext node setup inputs payload peerId channel) in
/-- A request is handled after the event was noted. -/
theorem handle_discoveryRequest : ∃ state,
    handle ext setup inputs (.network (.discoveryRequest peerId payload channel)) node =
      handleRequest ext setup inputs payload peerId channel { node with state } :=
  ⟨_, rfl⟩

theorem isEntry_eq_true {route : RouteBinding} (hentry : isEntry ext setup peerId route = true) :
    ∃ exit exitAddress, route = .twoHop setup.peerId exit exitAddress := by
  cases route with
  | oneHop relay => simp [isEntry] at hentry
  | twoHop entry exit exitAddress =>
      simp only [isEntry, decide_eq_true_eq] at hentry
      exact ⟨exit, exitAddress, by rw [hentry.2.1]⟩

theorem acceptHandshake_step {init : HandshakeInit}
    (hdecoded : readRequest ext payload = .handshake init)
    (hrun : acceptHandshake ext setup inputs init peerId channel node = (.ok result, final)) :
    RequestStep ext setup inputs payload peerId channel node final := by
  by_cases hkind : init.kind = "secure_session_init"
  swap
  · rw [acceptHandshake, if_pos hkind] at hrun
    obtain ⟨_, rfl⟩ := Fallible.pure_eq_ok.mp hrun
    exact .ignored fun _ hread => Request.handshake.inj (hdecoded.symm.trans hread) ▸ hkind
  rcases (acceptHandshake_eq_ok hkind).mp hrun with ⟨reason, responder, haccept, rfl⟩ |
    ⟨response, session, responder, haccept, hopen⟩
  · exact .rejected init reason responder hdecoded hkind haccept
  rcases (openSession_eq_ok (acceptInit_established haccept)).mp hopen with ⟨hfull, rfl⟩ |
    ⟨htakes, ⟨entry, exit, exitAddress, hroute, hentry, rfl⟩ | ⟨hother, _, rfl⟩⟩
  · exact .refused init response session responder hdecoded hkind haccept hfull
  · obtain ⟨exit', exitAddress', hroute'⟩ := isEntry_eq_true hentry
    obtain ⟨rfl, rfl, rfl⟩ := RouteBinding.twoHop.inj (hroute.symm.trans hroute')
    exact .started init response session responder exit exitAddress hdecoded hkind haccept htakes
      hroute hentry
  · exact .accepted init response session responder hdecoded hkind haccept htakes hother

theorem answerMetadata_step {request : RelayMetadataRequest}
    (hdecoded : readRequest ext payload = .metadata request)
    (hrun : answerMetadata ext setup inputs request channel node = (.ok result, final)) :
    RequestStep ext setup inputs payload peerId channel node final := by
  by_cases hrequest : request.kind = "metadata" ∧
      request.protocolVersion = setup.config.protocolVersion
  · obtain ⟨json, hjson, _, rfl⟩ := (answerMetadata_eq_ok hrequest).mp hrun
    exact .metadata request json hdecoded hjson
  · rw [answerMetadata, if_neg hrequest] at hrun
    obtain ⟨_, rfl⟩ := Fallible.pure_eq_ok.mp hrun
    exact .ignored (by simp [hdecoded])

/-- A message that this relay forwards for a client. -/
theorem isClientProtocolRequest_eq_true {message : ForwardingMessage} :
    isClientProtocolRequest ext setup message node = true ↔
      (∃ exit exitAddress, message.route = .twoHop setup.peerId exit exitAddress) ∧
        ∃ forwarding, node.clientForwarding.lookup message.data.sessionId = some forwarding := by
  cases hroute : message.route with
  | oneHop relay => simp [isClientProtocolRequest, hroute]
  | twoHop entry exit exitAddress =>
      simp only [isClientProtocolRequest, hroute, decide_eq_true_eq, Option.isSome_iff_exists,
        RouteBinding.twoHop.injEq]
      exact and_congr_left' ⟨fun hentry => ⟨exit, exitAddress, hentry, rfl, rfl⟩,
        fun ⟨_, _, hentry, _⟩ => hentry⟩

theorem handleForwarding_run {message : ForwardingMessage} :
    handleForwarding ext setup inputs message peerId channel node =
      if message.kind ≠ forwardingKind then (.ok (), node)
      else if isClientProtocolRequest ext setup message node then
        forwardPacket ext inputs message peerId channel node
      else if setup.config.relayRole = .entry ∨ ¬ isExitOf ext setup message.route then
        (.ok (), node)
      else match ext.parsePeer message.clientPeer with
        | none => (.ok (), node)
        | some clientPeer =>
            exitForwarded ext setup inputs message peerId clientPeer channel node := by
  unfold handleForwarding
  by_cases hkind : message.kind ≠ forwardingKind
  · rw [if_pos hkind, if_pos hkind]
    rfl
  rw [if_neg hkind, if_neg hkind, Fallible.get_bind_run]
  by_cases hclient : isClientProtocolRequest ext setup message node = true
  · rw [if_pos hclient, if_pos hclient]
  rw [if_neg hclient, if_neg hclient]
  by_cases hrole : setup.config.relayRole = .entry
  · rw [if_pos hrole, if_pos (.inl hrole)]
    rfl
  rw [if_neg hrole]
  by_cases hexit : isExitOf ext setup message.route = true
  · rw [if_neg (not_not.mpr hexit), if_neg (not_or.mpr ⟨hrole, not_not.mpr hexit⟩)]
    cases ext.parsePeer message.clientPeer <;> rfl
  · rw [if_pos hexit, if_pos (.inr hexit)]
    rfl

theorem handleEnvelope_run {envelope : DataPlaneEnvelope} :
    handleEnvelope ext setup inputs envelope peerId channel node =
      if envelope.kind ≠ dataPlaneKind then (.ok (), node)
      else if (node.clientForwarding.lookup envelope.sessionId).isSome then
        forwardEnvelope ext setup inputs envelope peerId channel node
      else if (node.channels.lookup envelope.sessionId).isSome then
        acknowledge ext inputs envelope channel node
      else (.ok (), node) := by
  unfold handleEnvelope
  by_cases hkind : envelope.kind ≠ dataPlaneKind
  · rw [if_pos hkind, if_pos hkind]
    rfl
  rw [if_neg hkind, if_neg hkind, Fallible.get_bind_run]
  by_cases hclient : (node.clientForwarding.lookup envelope.sessionId).isSome = true
  · rw [if_pos hclient, if_pos hclient]
  rw [if_neg hclient, if_neg hclient]
  by_cases hknown : (node.channels.lookup envelope.sessionId).isSome = true
  · rw [if_pos hknown, if_pos hknown]
  · rw [if_neg hknown, if_neg hknown]
    rfl

theorem handleForwarding_step {message : ForwardingMessage}
    (hdecoded : readRequest ext payload = .forwarding message)
    (hrun : handleForwarding ext setup inputs message peerId channel node =
      (.ok result, final)) :
    RequestStep ext setup inputs payload peerId channel node final := by
  rw [handleForwarding_run] at hrun
  split_ifs at hrun with hkind hclient hignored
  · obtain ⟨_, rfl⟩ := Prod.mk.inj hrun
    exact .ignored (by simp [hdecoded])
  · obtain ⟨forwarding, packet, opening, opened, frame, sealed, hfound, hbound, hopens, hshown, _,
      _, hseals, rfl⟩ := forwardPacket_eq_ok.mp hrun
    exact .forwarded message forwarding packet opening opened frame sealed hdecoded hfound
      (isClientProtocolRequest_eq_true.mp hclient).1 hbound hopens hshown hseals (not_not.mp hkind)
  · obtain ⟨_, rfl⟩ := Prod.mk.inj hrun
    exact .ignored (by simp [hdecoded])
  · cases hpeer : ext.parsePeer message.clientPeer with
    | none =>
        rw [hpeer] at hrun
        obtain ⟨_, rfl⟩ := Prod.mk.inj hrun
        exact .ignored (by simp [hdecoded])
    | some clientPeer =>
        rw [hpeer] at hrun
        obtain ⟨context, packet, opening, opened, answer, next, hreaches, hexchange, hanswers⟩ :=
          exitForwarded_eq_ok.mp hrun
        exact .exited message clientPeer context packet opening opened answer next final hdecoded
          hreaches hexchange hanswers

theorem handleEnvelope_step {envelope : DataPlaneEnvelope}
    (hdecoded : readRequest ext payload = .envelope envelope)
    (hrun : handleEnvelope ext setup inputs envelope peerId channel node = (.ok result, final)) :
    RequestStep ext setup inputs payload peerId channel node final := by
  rw [handleEnvelope_run] at hrun
  split_ifs at hrun with hkind
  · obtain ⟨_, rfl⟩ := Prod.mk.inj hrun
    exact .ignored (by simp [hdecoded])
  · obtain ⟨message, opened, forwarding, hopens, hfound, ⟨_, rfl⟩ | ⟨hclient, frame, sealed, _,
      destination, _, hseals, _, _, rfl⟩⟩ := forwardEnvelope_eq_ok.mp hrun
    · obtain ⟨current, hcurrent, hreceive⟩ := hopens
      have hstep := @RequestStep.received ext setup inputs payload peerId channel node envelope
        current hdecoded hcurrent
      rwa [hreceive] at hstep
    · exact .forwardedBare envelope forwarding message opened frame sealed destination hdecoded
        hfound hclient hopens hseals (not_not.mp hkind)
  · obtain ⟨current, hcurrent, _, ⟨reason, next, hreceive, rfl⟩ | ⟨message, opened, frame, sealed,
      hreceive, hsend, _, rfl⟩⟩ := acknowledge_eq_ok.mp hrun
    · have hstep := @RequestStep.received ext setup inputs payload peerId channel node envelope
        current hdecoded hcurrent
      rwa [hreceive] at hstep
    · exact .acknowledged envelope current message opened frame sealed hdecoded hcurrent hreceive
        hsend
  · obtain ⟨_, rfl⟩ := Prod.mk.inj hrun
    exact .ignored (by simp [hdecoded])

theorem handleRequest_step
    (hrun : handleRequest ext setup inputs payload peerId channel node = (.ok result, final)) :
    RequestStep ext setup inputs payload peerId channel node final := by
  rw [handleRequest_run] at hrun
  cases hdecoded : readRequest ext payload with
  | handshake init => rw [hdecoded] at hrun; exact acceptHandshake_step hdecoded hrun
  | metadata request => rw [hdecoded] at hrun; exact answerMetadata_step hdecoded hrun
  | forwarding message => rw [hdecoded] at hrun; exact handleForwarding_step hdecoded hrun
  | envelope envelope => rw [hdecoded] at hrun; exact handleEnvelope_step hdecoded hrun
  | unknown =>
      rw [hdecoded] at hrun
      obtain ⟨_, rfl⟩ := Prod.mk.inj hrun
      exact .ignored (by simp [hdecoded])

/-! ## Responses -/

variable {requestId : RequestId}

/-- What handling a response can do to a relay that stays in its loop. -/
inductive ResponseStep (ext : Externals) (inputs : Inputs) (payload : Bytes) (peerId : PeerId)
    (requestId : RequestId) (node : Node) : Node → Prop
  | ignored : ResponseStep ext inputs payload peerId requestId node node
  | dropped (sessionId : SessionId) : ResponseStep ext inputs payload peerId requestId node
      { node with pendingRelayHandshakes := node.pendingRelayHandshakes.erase sessionId }
  | established (response : HandshakeResponse) (pending : PendingRelayHandshake)
      (session : SecureSession) (entry exit : PeerId) (exitAddress : String)
      (decoded : ext.fromSlice (HandshakeResponse.fromJson ext) payload = some response)
      (found : node.pendingRelayHandshakes.lookup response.sessionId = some pending)
      (completes : pending.initiator.complete ext response = .ok session)
      (route : pending.route = .twoHop entry exit exitAddress) (peer : peerId = exit) :
      ResponseStep ext inputs payload peerId requestId node
        { node.established inputs pending session entry exit with
          pendingRelayHandshakes := node.pendingRelayHandshakes.erase response.sessionId
          effects := node.effects ++ handshakeAnswer ext pending }
  | returned (pending : PendingClientForward) (response : ForwardingMessage)
      (forwarding : ClientForwarding) (packet : ForwardedPacket) (message : DataPlaneMessage)
      (opened : EncryptedChannel) (frame : Bytes) (sealed : EncryptedChannel)
      (undecoded : ext.fromSlice (HandshakeResponse.fromJson ext) payload = none)
      (found : node.pendingClientForwards.lookup requestId = some pending)
      (decoded : ext.fromSlice (ForwardingMessage.fromJson ext) payload = some response)
      (client : node.clientForwarding.lookup pending.clientSessionId = some forwarding)
      (belongs : forwarding.context.Matches ext response packet)
      (exit : peerId = forwarding.context.exitPeer)
      (session : forwarding.context.relaySessionId = some response.data.sessionId)
      (opens : node.Opens ext response.data message opened)
      (seals : (node.withChannel response.data.sessionId opened).Seals ext
        pending.clientSessionId message.payload frame sealed) :
      ResponseStep ext inputs payload peerId requestId node
        { returned ext node pending forwarding response opened frame sealed with
          pendingClientForwards := node.pendingClientForwards.erase requestId }

theorem completeRelayHandshake_step {response : HandshakeResponse}
    (hdecoded : ext.fromSlice (HandshakeResponse.fromJson ext) payload = some response)
    (hrun : completeRelayHandshake ext inputs response peerId node = (.ok result, final)) :
    ResponseStep ext inputs payload peerId requestId node final := by
  simp only [completeRelayHandshake, Fallible.get_bind_run] at hrun
  cases hfound : node.pendingRelayHandshakes.lookup response.sessionId with
  | none =>
      simp only [hfound] at hrun
      obtain ⟨_, rfl⟩ := Fallible.pure_eq_ok.mp hrun
      exact .ignored
  | some pending =>
      simp only [hfound, Fallible.modify_bind_run, Fallible.bind_eq_ok,
        Fallible.orPanic_eq_ok] at hrun
      obtain ⟨expected, _, ⟨hlast, rfl⟩, hrest⟩ := hrun
      split_ifs at hrest with hpeer
      · obtain ⟨_, rfl⟩ := Fallible.pure_eq_ok.mp hrest
        exact .dropped response.sessionId
      · obtain ⟨session, entry, exit, hestablishes, rfl⟩ := establishForwarding_eq_ok.mp hrest
        obtain ⟨exitAddress, hroute⟩ := hestablishes.binds.route
        rw [hroute] at hlast
        exact .established response pending session entry exit exitAddress hdecoded hfound
          hestablishes.completes hroute ((not_not.mp hpeer).trans (Option.some.inj hlast).symm)

variable (ext node setup inputs payload peerId requestId) in
/-- A response is handled after the event was noted. -/
theorem handle_discoveryResponse : ∃ state,
    handle ext setup inputs (.network (.discoveryResponse peerId requestId payload)) node =
      handleResponse ext inputs payload peerId requestId { node with state } :=
  ⟨_, rfl⟩

/-- The response of the exit that a pending handshake waits for completes it. -/
theorem handleResponse_establishes {response : HandshakeResponse} {pending : PendingRelayHandshake}
    {session : SecureSession} {entry exit : PeerId}
    (hdecoded : ext.fromSlice (HandshakeResponse.fromJson ext) payload = some response)
    (hfound : node.pendingRelayHandshakes.lookup response.sessionId = some pending)
    (hestablishes : Establishes ext inputs pending response session entry exit) :
    handleResponse ext inputs payload exit requestId node =
      (.ok (), { node.established inputs pending session entry exit with
        pendingRelayHandshakes := node.pendingRelayHandshakes.erase response.sessionId
        effects := node.effects ++ handshakeAnswer ext pending }) := by
  obtain ⟨exitAddress, hroute⟩ := hestablishes.binds.route
  simp only [handleResponse, hdecoded, completeRelayHandshake, Fallible.get_bind_run, hfound,
    Fallible.modify_bind_run]
  refine Fallible.bind_eq_ok.mpr
    ⟨exit, _, Fallible.orPanic_eq_ok.mpr ⟨by rw [hroute]; rfl, rfl⟩, ?_⟩
  rw [if_neg (not_not.mpr rfl)]
  exact establishForwarding_eq_ok.mpr ⟨session, entry, exit, hestablishes, rfl⟩

theorem handleResponse_step
    (hrun : handleResponse ext inputs payload peerId requestId node = (.ok result, final)) :
    ResponseStep ext inputs payload peerId requestId node final := by
  unfold handleResponse at hrun
  cases hdecoded : ext.fromSlice (HandshakeResponse.fromJson ext) payload with
  | some response =>
      simp only [hdecoded] at hrun
      exact completeRelayHandshake_step hdecoded hrun
  | none =>
      simp only [hdecoded, Fallible.get_bind_run] at hrun
      cases hfound : node.pendingClientForwards.lookup requestId with
      | none =>
          simp only [hfound] at hrun
          obtain ⟨_, rfl⟩ := Fallible.pure_eq_ok.mp hrun
          exact .ignored
      | some pending =>
          simp only [hfound, Fallible.modify_bind_run] at hrun
          obtain ⟨response, forwarding, packet, message, opened, frame, sealed, hresponse, hclient,
            hmatches, hpeer, hsession, _, hopens, hseals, rfl⟩ := returnToClient_ok hrun
          exact .returned pending response forwarding packet message opened frame sealed hdecoded
            hfound hresponse hclient hmatches hpeer hsession hopens hseals

/-! ## Every event -/

/-- The message that carries a packet of the TUN device. -/
def tunMessage (ext : Externals) (forwarding : ForwardingContext) (relaySessionId : SessionId)
    (frame payload : Bytes) : ForwardingMessage where
  kind := forwardingKind
  forwardingId := forwarding.forwardingId
  clientSessionId := forwarding.clientSessionId
  clientPeer := ext.peerText forwarding.clientPeer
  route := forwarding.route
  data := ⟨dataPlaneKind, relaySessionId, frame⟩
  packet := some {
    protocol := .ip
    source := none
    destination := unspecifiedSocket
    flowId := forwarding.forwardingId
    sessionId := forwarding.clientSessionId
    routeId := forwarding.forwardingId
    sequence := 1
    payload }

/-- Events that only the reported state depends on, and packets. -/
def LoopEvent.quiet : LoopEvent → Bool
  | .network (.peerIdentified ..) | .network (.pingResult ..) | .network (.networkError ..)
  | .tun _ => true
  | .network _ | .heartbeat => false

/-- What an event can do to a relay that stays in its loop. -/
inductive Step (ext : Externals) (setup : Setup ext) (inputs : Inputs) (node : Node) :
    LoopEvent → Node → Prop
  | idle (event : LoopEvent) (state : RelayState) (quiet : event.quiet = true) :
      Step ext setup inputs node event { node with state }
  | listened (address : String) (state : RelayState) (lifecycle : RelayLifecycle)
      (moves : lifecycle = node.core.lifecycle ∨
        node.core.lifecycle = .starting ∧ lifecycle = .ready) :
      Step ext setup inputs node (.network (.listening address))
        { node with core := { node.core with lifecycle }, state }
  | met (peerId : PeerId) (state : RelayState) (none : waitingFor inputs peerId node = none) :
      Step ext setup inputs node (.network (.peerConnected peerId))
        { node with core := node.core.noted peerId, state }
  | left (peerId : PeerId) (state : RelayState) :
      Step ext setup inputs node (.network (.peerDisconnected peerId))
        { node with core := node.core.removePeer peerId, state }
  | beat (now : Nat) (state : RelayState) :
      Step ext setup inputs node .heartbeat
        { node with state, udpNat := node.udpNat.map (NatTable.cleanup now) }
  | requested (payload : Bytes) (peerId : PeerId) (channel : ResponseChannel) (state : RelayState)
      (final : Node)
      (step : RequestStep ext setup inputs payload peerId channel { node with state } final) :
      Step ext setup inputs node (.network (.discoveryRequest peerId payload channel)) final
  | responded (payload : Bytes) (peerId : PeerId) (requestId : RequestId) (state : RelayState)
      (final : Node)
      (step : ResponseStep ext inputs payload peerId requestId { node with state } final) :
      Step ext setup inputs node (.network (.discoveryResponse peerId requestId payload)) final
  | greeted (peerId : PeerId) (state : RelayState) (pending : PendingRelayHandshake)
      (waiting : waitingFor inputs peerId node = some pending) :
      Step ext setup inputs node (.network (.peerConnected peerId))
        (({ node with core := node.core.noted peerId, state } : Node).withEffect
          (.request inputs.requestId peerId pending.relayInit))
  | unsent (payload : Bytes) (relaySessionId : SessionId) (current next : EncryptedChannel)
      (found : node.channels.lookup relaySessionId = some current)
      (fails : next = current ∨ ∃ reason, DataPlane.send ext defaultMaximumPayloadSize payload
        current = (.error reason, next)) :
      Step ext setup inputs node (.tun payload) (node.withChannel relaySessionId next)
  | injected (payload : Bytes) (forwardingId : SessionId) (forwarding : ForwardingContext)
      (relaySessionId : SessionId) (frame : Bytes) (sealed : EncryptedChannel)
      (found : node.exitForwarding.lookup forwardingId = some forwarding)
      (active : node.activeExitRelaySession = some relaySessionId)
      (seals : node.Seals ext relaySessionId payload frame sealed) :
      Step ext setup inputs node (.tun payload)
        ((node.withChannel relaySessionId sealed).withEffect (.request inputs.requestId
          forwarding.entryPeer ((tunMessage ext forwarding relaySessionId frame payload).toJson
            ext).render))

theorem waitingFor_eq_some {pending : PendingRelayHandshake}
    (hwaiting : waitingFor inputs peerId node = some pending) :
    ∃ sessionId, node.pendingRelayHandshakes.lookup sessionId = some pending := by
  have hmem := List.mem_of_find?_eq_some hwaiting
  simp only [List.mem_map, List.mem_rotate] at hmem
  obtain ⟨⟨sessionId, _⟩, hentry, rfl⟩ := hmem
  exact ⟨sessionId, AList.mem_lookup_iff.mpr hentry⟩

theorem notePeer_run :
    notePeer peerId node = (.ok (), { node with core := node.core.noted peerId }) := by
  rw [notePeer, Fallible.bind_run]
  rcases RelayCore.admitPeer_run peerId node.core with hadmit | ⟨reason, hadmit, hnoted⟩ <;>
    simp [Fallible.attempt, onCore, Fallible.zoom, *]

/-- A peer that connects is counted, and a handshake that waits for it is sent. -/
theorem peerConnected_run :
    peerConnected inputs peerId node =
      (.ok (), match waitingFor inputs peerId node with
        | none => { node with core := node.core.noted peerId }
        | some pending => ({ node with core := node.core.noted peerId } : Node).withEffect
            (.request inputs.requestId peerId pending.relayInit)) := by
  rw [peerConnected, Fallible.bind_run, notePeer_run]
  simp only [Fallible.get_bind_run]
  have hsame : waitingFor inputs peerId { node with core := node.core.noted peerId } =
    waitingFor inputs peerId node := rfl
  rw [hsame]
  cases waitingFor inputs peerId node <;> rfl

variable (ext node setup inputs peerId) in
theorem handle_peerConnected : ∃ state,
    handle ext setup inputs (.network (.peerConnected peerId)) node =
      peerConnected inputs peerId { node with state } :=
  ⟨_, rfl⟩

variable (ext setup) in
/-- A peer connects that nobody waits for. -/
theorem handle_met (hnobody : waitingFor inputs peerId node = none) : ∃ state,
    handle ext setup inputs (.network (.peerConnected peerId)) node =
      (.ok (), { node with core := node.core.noted peerId, state }) := by
  obtain ⟨state, hrun⟩ := handle_peerConnected ext node setup inputs peerId
  have hsame : waitingFor inputs peerId { node with state } = none := hnobody
  exact ⟨state, by rw [hrun, peerConnected_run, hsame]⟩

variable (ext setup) in
/-- A peer connects that a handshake waits for. -/
theorem handle_greeted {pending : PendingRelayHandshake}
    (hwaiting : waitingFor inputs peerId node = some pending) : ∃ state,
    handle ext setup inputs (.network (.peerConnected peerId)) node =
      (.ok (), ({ node with core := node.core.noted peerId, state } : Node).withEffect
        (.request inputs.requestId peerId pending.relayInit)) := by
  obtain ⟨state, hrun⟩ := handle_peerConnected ext node setup inputs peerId
  have hsame : waitingFor inputs peerId { node with state } = some pending := hwaiting
  exact ⟨state, by rw [hrun, peerConnected_run, hsame]⟩

theorem peerConnected_step {state : RelayState}
    (hrun : peerConnected inputs peerId { node with state } = (.ok result, final)) :
    Step ext setup inputs node (.network (.peerConnected peerId)) final := by
  rw [peerConnected_run] at hrun
  obtain ⟨_, rfl⟩ := Prod.mk.inj hrun
  have hsame : waitingFor inputs peerId { node with state } = waitingFor inputs peerId node := rfl
  rw [hsame]
  cases hwaiting : waitingFor inputs peerId node with
  | none => exact .met peerId state hwaiting
  | some pending => exact .greeted peerId state pending hwaiting

theorem listening_ok (hrun : listening node = (.ok result, final)) :
    ∃ lifecycle, (lifecycle = node.core.lifecycle ∨
        node.core.lifecycle = .starting ∧ lifecycle = .ready) ∧
      final = { node with core := { node.core with lifecycle } } := by
  rw [listening, Fallible.get_bind_run] at hrun
  split_ifs at hrun with hstarting
  · obtain ⟨_, rfl⟩ := Fallible.pure_eq_ok.mp hrun
    exact ⟨node.core.lifecycle, .inl rfl, rfl⟩
  · simp only [onCore, Fallible.bind_eq_ok, Fallible.zoom_eq_ok, Fallible.mapError_eq_ok,
      RelayCore.transition_eq_ok] at hrun
    obtain ⟨_, _, ⟨_, ⟨_, rfl⟩, rfl⟩, _, ⟨_, rfl⟩, rfl⟩ := hrun
    exact ⟨.ready, .inr ⟨not_not.mp hstarting, rfl⟩, rfl⟩

/-- A packet that could not be sealed may still have used up a nonce. -/
theorem unsent_step {relaySessionId : SessionId} {missing openText sendText : String}
    {reason : RelayError}
    (hrun : sendOn ext relaySessionId missing openText sendText payload node =
      (.error reason, final)) :
    Step ext setup inputs node (.tun payload) final := by
  unfold sendOn onChannel at hrun
  cases hfound : node.channels.lookup relaySessionId with
  | none =>
      simp only [hfound] at hrun
      obtain ⟨_, rfl⟩ := Prod.mk.inj hrun
      exact .idle _ node.state rfl
  | some current =>
      simp only [hfound] at hrun
      obtain ⟨houtcome, rfl⟩ := Prod.mk.inj hrun
      refine .unsent payload relaySessionId current _ hfound ?_
      rw [Fallible.bind_run] at houtcome ⊢
      rcases hopen : DataPlane.open defaultMaximumPayloadSize current with ⟨_ | _ | _, opened⟩
      all_goals
        have hsame := DataPlane.open_state defaultMaximumPayloadSize current
        rw [hopen] at hsame
        obtain rfl : opened = current := hsame
        simp only [Fallible.mapError, hopen] at houtcome ⊢
      · refine .inr ?_
        rcases hsend : DataPlane.send ext defaultMaximumPayloadSize payload opened with
          ⟨_ | reason | _, next⟩ <;> rw [hsend] at houtcome
        · cases houtcome
        · exact ⟨reason, rfl⟩
        · cases houtcome
      · exact .inl trivial
      · exact .inl trivial

theorem handleTun_step (hrun : handleTun ext inputs payload node = (.ok result, final)) :
    Step ext setup inputs node (.tun payload) final := by
  rw [handleTun, Fallible.get_bind_run] at hrun
  cases hhead : (node.exitForwarding.entries.rotate inputs.iteration).head? with
  | none =>
      simp only [hhead, Option.map_none] at hrun
      obtain ⟨_, rfl⟩ := Fallible.pure_eq_ok.mp hrun
      exact .idle _ node.state rfl
  | some entry =>
      cases hactive : node.activeExitRelaySession with
      | none =>
          simp only [hhead, hactive, Option.map_some] at hrun
          obtain ⟨_, rfl⟩ := Fallible.pure_eq_ok.mp hrun
          exact .idle _ node.state rfl
      | some relaySessionId =>
          have hfound : node.exitForwarding.lookup entry.1 = some entry.2 :=
            AList.mem_lookup_iff.mpr (List.mem_rotate.mp (List.mem_of_mem_head? hhead))
          simp only [hhead, hactive, Option.map_some] at hrun
          obtain ⟨reason | frame, next, hattempt, hrest⟩ := Fallible.bind_eq_ok.mp hrun <;>
            rw [Fallible.attempt_eq_ok] at hattempt
          · obtain ⟨_, rfl⟩ := Fallible.pure_eq_ok.mp hrest
            exact unsent_step hattempt
          · obtain ⟨sealed, hseals, rfl⟩ := sendOn_eq_ok.mp hattempt
            obtain rfl := Fallible.modify_eq_ok.mp hrest
            exact .injected payload entry.1 entry.2 relaySessionId frame
              sealed hfound hactive hseals

/-- Every event does one of the steps. -/
theorem handle_step {event : LoopEvent}
    (hrun : handle ext setup inputs event node = (.ok result, final)) :
    Step ext setup inputs node event final := by
  cases event with
  | tun payload => exact handleTun_step hrun
  | heartbeat =>
      simp only [handle, heartbeat, Fallible.modify_eq_ok] at hrun
      subst hrun
      exact .beat inputs.natNow _
  | network event =>
      simp only [handle, handleEvent, Fallible.modify_bind_run] at hrun
      cases event with
      | listening address =>
          obtain ⟨lifecycle, hmoves, rfl⟩ := listening_ok hrun
          exact .listened address _ lifecycle hmoves
      | peerConnected peerId => exact peerConnected_step hrun
      | peerDisconnected peerId =>
          obtain rfl := Fallible.modify_eq_ok.mp hrun
          exact .left peerId _
      | discoveryRequest peerId payload channel =>
          exact .requested payload peerId channel _ final (handleRequest_step hrun)
      | discoveryResponse peerId requestId payload =>
          exact .responded payload peerId requestId _ final (handleResponse_step hrun)
      | peerIdentified | pingResult | networkError =>
          obtain ⟨_, rfl⟩ := Fallible.pure_eq_ok.mp hrun
          exact .idle _ _ rfl

/-! ## Relays that end -/

theorem startRelayHandshake_keepsOnFailure {init : HandshakeInit} {response : HandshakeResponse} :
    Fallible.KeepsOnFailure Node.effects
      (startRelayHandshake ext setup inputs init peerId response channel) := by
  unfold startRelayHandshake
  cases init.routeContext with
  | oneHop relay => exact .of_keeps (.pure _)
  | twoHop entry exit exitAddress =>
      exact .bind .ofExcept fun _ => .bind .ofExcept fun _ => .bind (.modify fun _ => rfl)
        fun _ => .modify

theorem acceptHandshake_keepsOnFailure {init : HandshakeInit} :
    Fallible.KeepsOnFailure Node.effects
      (acceptHandshake ext setup inputs init peerId channel) := by
  unfold acceptHandshake
  split
  · exact .of_keeps (.pure _)
  refine .bind (.attempt (.zoom fun _ _ => rfl)) fun outcome => ?_
  rcases outcome with reason | ⟨response, session⟩
  · exact .of_keeps (.pure _)
  refine .bind (.attempt (.zoom fun _ _ => rfl)) fun outcome => ?_
  rcases outcome with reason | _
  · exact .modify
  refine .bind .ofExcept fun _ => .bind (.modify fun _ => rfl) fun _ => ?_
  split
  · exact startRelayHandshake_keepsOnFailure
  · exact respond_keepsOnFailure

theorem answerMetadata_keepsOnFailure {request : RelayMetadataRequest} :
    Fallible.KeepsOnFailure Node.effects
      (answerMetadata ext setup inputs request channel) := by
  unfold answerMetadata
  split
  · exact .bind .get fun _ => .bind .orThrow fun _ => respond_keepsOnFailure
  · exact .of_keeps (.pure _)

theorem onClientContext_keeps {sessionId : SessionId}
    {routine : Fallible ForwardingContext RelayError Unit} :
    Fallible.Keeps Node.effects (onClientContext sessionId routine) := by
  intro node
  simp only [onClientContext]
  split <;> rfl

/-- The request to the exit is the last thing that happens. -/
theorem requestExit_keepsOnFailure {forwarding : ClientForwarding} {message : ForwardingMessage}
    {sessionId : SessionId} :
    Fallible.KeepsOnFailure Node.effects
      (requestExit ext inputs forwarding message sessionId channel) :=
  fun _ => .inl ⟨(), rfl⟩

theorem forwardPacket_keepsOnFailure {message : ForwardingMessage} :
    Fallible.KeepsOnFailure Node.effects (forwardPacket ext inputs message peerId channel) := by
  unfold forwardPacket
  exact .bind .get fun _ => .bind .orPanic fun _ =>
    .bind .ofExcept fun _ => .bind .failWhen fun _ =>
    .bind .orThrow fun _ => .bind .failWhen fun _ => .bind onChannel_keeps fun _ =>
    .bind .failWhen fun _ => .bind admitFlow_keeps fun _ => .bind onClientContext_keeps fun _ =>
    .bind onChannel_keeps fun _ => requestExit_keepsOnFailure

theorem forwardEnvelope_keepsOnFailure {envelope : DataPlaneEnvelope} :
    Fallible.KeepsOnFailure Node.effects
      (forwardEnvelope ext setup inputs envelope peerId channel) := by
  unfold forwardEnvelope
  refine .bind onChannel_keeps fun _ => .bind .get fun _ => .bind .orThrow fun _ => ?_
  split
  · exact .of_keeps (.pure _)
  · exact .bind onClientContext_keeps fun _ => .bind onChannel_keeps fun _ =>
      .bind .orThrow fun _ => .bind .orThrow fun _ => requestExit_keepsOnFailure

theorem acknowledge_keepsOnFailure {envelope : DataPlaneEnvelope} :
    Fallible.KeepsOnFailure Node.effects (acknowledge ext inputs envelope channel) := by
  unfold acknowledge
  refine .bind onChannel_keeps fun opened => ?_
  cases opened with
  | none => exact .of_keeps (.pure _)
  | some frame => exact respond_keepsOnFailure

theorem handleEnvelope_keepsOnFailure {envelope : DataPlaneEnvelope} :
    Fallible.KeepsOnFailure Node.effects
      (handleEnvelope ext setup inputs envelope peerId channel) := by
  unfold handleEnvelope
  split
  · exact .of_keeps (.pure _)
  refine .bind .get fun _ => ?_
  split
  · exact forwardEnvelope_keepsOnFailure
  split
  · exact acknowledge_keepsOnFailure
  · exact .of_keeps (.pure _)

theorem establishForwarding_keepsOnFailure {pending : PendingRelayHandshake}
    {response : HandshakeResponse} :
    Fallible.KeepsOnFailure Node.effects (establishForwarding ext inputs pending response) := by
  unfold establishForwarding
  refine .bind .ofExcept fun _ => .bind .ofExcept fun _ => .bind (.modify fun _ => rfl) fun _ => ?_
  cases pending.route with
  | oneHop relay => exact .of_keeps fun _ => rfl
  | twoHop entry exit exitAddress =>
      refine .bind .ofExcept fun _ => .bind .locally fun (_, _) =>
        .bind (.modify fun _ => rfl) fun _ => ?_
      cases pending.clientResponseChannel with
      | none => exact .of_keeps (.pure _)
      | some channel => exact respond_keepsOnFailure

theorem handleResponse_keepsOnFailure :
    Fallible.KeepsOnFailure Node.effects
      (handleResponse ext inputs payload peerId requestId) := by
  unfold handleResponse
  split
  · refine .bind .get fun node => ?_
    split
    · exact .of_keeps (.pure _)
    · refine .bind (.modify fun _ => rfl) fun _ => .bind .orPanic fun _ => ?_
      split
      · exact .of_keeps (.pure _)
      · exact establishForwarding_keepsOnFailure
  · refine .bind .get fun node => ?_
    split
    · exact .of_keeps (.pure _)
    · exact .bind (.modify fun _ => rfl) fun _ => .bind .orThrow fun _ => .bind .get fun _ =>
        .bind .orThrow fun _ => .bind .ofExcept fun _ => .bind .ofExcept fun _ =>
        .bind .ofExcept fun _ => .bind onClientContext_keeps fun _ => .bind onChannel_keeps fun _ =>
        .bind onChannel_keeps fun _ => respond_keepsOnFailure

theorem peerConnected_keepsOnFailure :
    Fallible.KeepsOnFailure Node.effects (peerConnected inputs peerId) := by
  unfold peerConnected
  refine .bind ?_ fun _ => .bind .get fun node => ?_
  · refine .bind (.attempt (.zoom fun _ _ => rfl)) fun outcome => ?_
    cases outcome with
    | ok _ => exact .pure _
    | error reason => exact .modify fun _ => rfl
  · split
    · exact .of_keeps (.pure _)
    · exact .modify

theorem handleTun_keepsOnFailure :
    Fallible.KeepsOnFailure Node.effects (handleTun ext inputs payload) := by
  unfold handleTun
  refine .bind .get fun node => ?_
  split
  · refine .bind (.attempt onChannel_keeps) fun outcome => ?_
    cases outcome with
    | error reason => exact .of_keeps (.pure _)
    | ok frame => exact .modify
  · exact .of_keeps (.pure _)

/-- A request that ends the relay leaves at most one payload handed on, and then it had reached an
exit path. -/
theorem handleRequest_fails
    (hfails : ¬ (handleRequest ext setup inputs payload peerId channel node).1.IsOk) :
    (handleRequest ext setup inputs payload peerId channel node).2.effects = node.effects ∨
      ∃ message clientPeer context packet opening opened,
        readRequest ext payload = .forwarding message ∧
        Reaches ext node message peerId clientPeer context packet opening opened ∧
        (handleRequest ext setup inputs payload peerId channel node).2.effects =
          node.effects ++ [dispatchOf message packet packet.payload] := by
  rw [handleRequest_run] at hfails ⊢
  cases hdecoded : readRequest ext payload with
  | handshake init =>
      simp only [hdecoded] at hfails ⊢
      exact .inl ((acceptHandshake_keepsOnFailure node).resolve_left hfails)
  | metadata request =>
      simp only [hdecoded] at hfails ⊢
      exact .inl ((answerMetadata_keepsOnFailure node).resolve_left hfails)
  | envelope envelope =>
      simp only [hdecoded] at hfails ⊢
      exact .inl ((handleEnvelope_keepsOnFailure node).resolve_left hfails)
  | unknown => exact .inl rfl
  | forwarding message =>
      simp only [hdecoded, handleForwarding_run] at hfails ⊢
      split_ifs at hfails ⊢
      · exact .inl rfl
      · exact .inl ((forwardPacket_keepsOnFailure node).resolve_left hfails)
      · exact .inl rfl
      · cases hpeer : ext.parsePeer message.clientPeer with
        | none => exact .inl rfl
        | some clientPeer =>
            simp only [hpeer] at hfails ⊢
            exact (exitForwarded_fails hfails).imp_right
              fun ⟨context, packet, opening, opened, hreaches, heffects⟩ =>
                ⟨message, clientPeer, context, packet, opening, opened, rfl, hreaches, heffects⟩

/-- What a relay that ends has done to the outside. -/
theorem handle_fails {event : LoopEvent}
    (hfails : ¬ (handle ext setup inputs event node).1.IsOk) :
    (handle ext setup inputs event node).2.effects = node.effects ∨
      ∃ payload peerId channel state message clientPeer context packet opening opened,
        event = .network (.discoveryRequest peerId payload channel) ∧
        readRequest ext payload = .forwarding message ∧
        Reaches ext { node with state } message peerId clientPeer context packet opening opened ∧
        (handle ext setup inputs event node).2.effects =
          node.effects ++ [dispatchOf message packet packet.payload] := by
  cases event with
  | tun payload => exact .inl ((handleTun_keepsOnFailure node).resolve_left hfails)
  | heartbeat => exact .inl rfl
  | network event =>
      simp only [handle, handleEvent, Fallible.modify_bind_run] at hfails ⊢
      cases event with
      | listening address =>
          refine .inl (Fallible.Keeps.bind .get (fun _ => ?_) _)
          split
          · exact .pure _
          · exact .bind (.zoom fun _ _ => rfl) fun _ => .zoom fun _ _ => rfl
      | peerConnected peerId => exact .inl ((peerConnected_keepsOnFailure _).resolve_left hfails)
      | peerDisconnected peerId => exact .inl rfl
      | discoveryRequest peerId payload channel =>
          exact (handleRequest_fails hfails).imp_right
            fun ⟨message, clientPeer, context, packet, opening, opened, hdecoded, hreaches,
              heffects⟩ => ⟨payload, peerId, channel, _, message, clientPeer, context, packet,
                opening, opened, rfl, hdecoded, hreaches, heffects⟩
      | discoveryResponse peerId requestId payload =>
          exact .inl ((handleResponse_keepsOnFailure _).resolve_left hfails)
      | peerIdentified | pingResult | networkError => exact .inl rfl

end Node

end Relay
