import GhostLayer.Client.Engine
import GhostLayer.Network.ChannelLaws
import GhostLayer.Relay.EntryLaws
import GhostLayer.Relay.RoutingLaws

/-! # The steps of a client

Everything that one event can do to the loop of a client, and what holds of its
session variables in every state it reaches: they are set together, to a session
over a route that was selected, and cleared together.
-/

namespace Client

open Foundation Network Relay

variable {ext : Externals}

/-- What a client seals for a packet of its TUN device. -/
structure Outgoing where
  protocol : ForwardedProtocol
  sourcePort : UInt16
  destination : SocketAddr
  payload : Bytes

def outgoing (packet : Bytes) : Option Outgoing :=
  match extractDnsPayload packet with
  | some (destination, sourcePort, payload) => some ⟨.dns, sourcePort, destination, payload⟩
  | none =>
      if 20 ≤ packet.length then some ⟨.ip, 0, .v4 (destinationIp packet) 0, packet⟩ else none

namespace Engine

variable (ext) (setup : Setup) (inputs : Inputs)

/-- The message that carries what was sealed. -/
def messageFor (route : RouteBinding) (sessionId : SessionId) (frame : Bytes) (item : Outgoing) :
    ForwardingMessage :=
  forwardingMessage ext setup route sessionId frame item.protocol item.sourcePort item.destination
    item.payload

/-- A loop whose session is established. -/
def withSession (engine : Engine) (session : SecureSession) : Engine :=
  { engine with
    pendingSession := none
    activeChannel := some (Node.freshChannel session)
    activeRoute := some session.route
    exitPeer := some (exitOf session.route)
    currentSessionId := some session.sessionId }

/-- A loop that has no session. -/
def withoutSession (engine : Engine) : Engine :=
  { engine with
    activeChannel := none
    activeRoute := none
    currentSessionId := none
    exitPeer := none }

def withEffect (engine : Engine) (effect : Effect) : Engine :=
  { engine with effects := engine.effects ++ [effect] }

/-- What one event can do to a client that stays in its loop. -/
inductive Step (engine : Engine) : LoopEvent → Engine → Prop
  | idle (event : LoopEvent) : Step engine event engine
  | asked (peerId : PeerId) : Step engine (.network (.peerConnected peerId)) (engine.withEffect
      (.request peerId
        (RelayMetadataRequest.toJson ⟨"metadata", setup.protocolVersion⟩).render))
  | failed (peerId : PeerId) (requestId : RequestId) (payload : Bytes)
      (response : HandshakeResponse) (initiator : SessionInitiator) (reason : SessionError)
      (decoded : ext.fromSlice (HandshakeResponse.fromJson ext) payload = some response)
      (pending : engine.pendingSession = some initiator)
      (fails : initiator.complete ext response = .error reason) :
      Step engine (.network (.discoveryResponse peerId requestId payload))
        { engine with pendingSession := none }
  | established (peerId : PeerId) (requestId : RequestId) (payload : Bytes)
      (response : HandshakeResponse) (initiator : SessionInitiator) (session : SecureSession)
      (decoded : ext.fromSlice (HandshakeResponse.fromJson ext) payload = some response)
      (pending : engine.pendingSession = some initiator)
      (completes : initiator.complete ext response = .ok session) :
      Step engine (.network (.discoveryResponse peerId requestId payload))
        (engine.withSession session)
  | received (peerId : PeerId) (requestId : RequestId) (payload : Bytes)
      (message : ForwardingMessage) (channel next : EncryptedChannel)
      (decoded : ext.fromSlice (ForwardingMessage.fromJson ext) payload = some message)
      (active : engine.activeChannel = some channel)
      (receives : next = channel ∨
        next = (DataPlane.receive ext defaultMaximumPayloadSize message.data channel).2) :
      Step engine (.network (.discoveryResponse peerId requestId payload))
        { engine with activeChannel := some next }
  | delivered (peerId : PeerId) (requestId : RequestId) (payload : Bytes)
      (message : ForwardingMessage) (channel next : EncryptedChannel) (opening : DataPlaneMessage)
      (decoded : ext.fromSlice (ForwardingMessage.fromJson ext) payload = some message)
      (active : engine.activeChannel = some channel)
      (receives : DataPlane.receive ext defaultMaximumPayloadSize message.data channel =
        (.ok opening, next)) :
      Step engine (.network (.discoveryResponse peerId requestId payload))
        ({ engine with activeChannel := some next }.withEffect
          (.tun (tunPacket message opening.payload)))
  | considered (peerId : PeerId) (requestId : RequestId) (payload : Bytes)
      (metadata : RelayMetadata) (candidate : RelayCandidate)
      (decoded : RelayMetadata.fromSlice ext payload = .ok metadata)
      (accepted : RelayCandidate.fromMetadata setup.parseMultiaddr metadata setup.requirements
        inputs.checkedAt = .ok candidate) :
      Step engine (.network (.discoveryResponse peerId requestId payload))
        { engine with candidates := engine.candidates ++ [candidate] }
  | begun (peerId : PeerId) (requestId : RequestId) (payload : Bytes)
      (metadata : RelayMetadata) (candidate : RelayCandidate) (route : Route)
      (initiator : SessionInitiator)
      (decoded : RelayMetadata.fromSlice ext payload = .ok metadata)
      (accepted : RelayCandidate.fromMetadata setup.parseMultiaddr metadata setup.requirements
        inputs.checkedAt = .ok candidate)
      (selected : RouteSelector.select ext (ext.peerOf setup.identity)
        (RelayRanking.rank ext (engine.candidates ++ [candidate]) inputs.rankedAt)
        setup.routePolicy inputs.selectedAt = .ok route)
      (free : engine.pendingSession = none)
      (starts : SessionInitiator.new setup.identity (bindingOf route).1 (bindingOf route).2
        setup.protocolVersion inputs.sessionId inputs.secret = .ok initiator) :
      Step engine (.network (.discoveryResponse peerId requestId payload))
        ({ engine with
          candidates := engine.candidates ++ [candidate]
          pendingSession := some initiator }.withEffect
            (.request (bindingOf route).1 ((initiator.initOf ext).toJson ext).render))
  | left (peerId : PeerId) (ends : engine.endsWith peerId = true) :
      Step engine (.network (.peerDisconnected peerId)) engine.withoutSession
  | unsent (packet : Bytes) (channel next : EncryptedChannel) (item : Outgoing)
      (shown : outgoing packet = some item)
      (active : engine.activeChannel = some channel)
      (fails : next = channel ∨ ∃ reason, DataPlane.send ext defaultMaximumPayloadSize item.payload
        channel = (.error reason, next)) :
      Step engine (.tun packet) { engine with activeChannel := some next }
  | sent (packet : Bytes) (channel next : EncryptedChannel) (route : RouteBinding) (exit : PeerId)
      (sessionId : SessionId) (item : Outgoing) (frame : Bytes)
      (shown : outgoing packet = some item)
      (active : engine.activeChannel = some channel) (along : engine.activeRoute = some route)
      (towards : engine.exitPeer = some exit) (current : engine.currentSessionId = some sessionId)
      (sends : DataPlane.send ext defaultMaximumPayloadSize item.payload channel =
        (.ok frame, next)) :
      Step engine (.tun packet) ({ engine with activeChannel := some next }.withEffect
        (.request exit ((messageFor ext setup route sessionId frame item).toJson ext).render))

variable {ext setup inputs} {engine final : Engine}

/-! ## Inversion -/

theorem onChannel_cases {α : Type} {channel : EncryptedChannel}
    {routine : Fallible EncryptedChannel DataPlaneError α} {result : Option α}
    (hrun : onChannel channel routine engine = (.ok result, final)) :
    ∃ next, final = { engine with activeChannel := some next } ∧
      ((∃ value, result = some value ∧ routine channel = (.ok value, next)) ∨
        result = none ∧ ∃ reason, routine channel = (.error reason, next)) := by
  unfold onChannel at hrun
  rcases hroutine : routine channel with ⟨value | reason | _, next⟩ <;> rw [hroutine] at hrun <;>
    cases hrun
  · exact ⟨next, rfl, .inl ⟨value, rfl, rfl⟩⟩
  · exact ⟨next, rfl, .inr ⟨rfl, reason, rfl⟩⟩

/-- What follows the opening of the data plane fails at the opening or by itself. -/
theorem open_bind_error {α : Type} {channel next : EncryptedChannel} {reason : DataPlaneError}
    {routine : Fallible EncryptedChannel DataPlaneError α}
    (hrun : (do DataPlane.open defaultMaximumPayloadSize; routine)
      channel = (.error reason, next)) :
    next = channel ∨ ∃ reason, routine channel = (.error reason, next) := by
  have hsame := DataPlane.open_state defaultMaximumPayloadSize channel
  rw [Fallible.bind_run] at hrun
  rcases hopen : DataPlane.open defaultMaximumPayloadSize channel with ⟨_ | _ | _, opened⟩ <;>
    rw [hopen] at hrun hsame <;> obtain rfl : opened = channel := hsame
  · exact .inr ⟨reason, hrun⟩
  · exact .inl (Prod.mk.inj hrun).2.symm
  · cases hrun

theorem open_bind_ok {α : Type} {channel next : EncryptedChannel} {value : α}
    {routine : Fallible EncryptedChannel DataPlaneError α}
    (hrun : (do DataPlane.open defaultMaximumPayloadSize; routine) channel = (.ok value, next)) :
    routine channel = (.ok value, next) := by
  obtain ⟨_, _, hopen, hrun⟩ := Fallible.bind_eq_ok.mp hrun
  obtain ⟨_, rfl⟩ := DataPlane.open_eq_ok.mp hopen
  exact hrun

theorem handleTun_step {packet : Bytes}
    (hrun : handleTun ext setup packet engine = (.ok (), final)) :
    Step ext setup inputs engine (.tun packet) final := by
  -- Both kinds of packets end in one send, which succeeds or leaves the packet unsent.
  have hforward : ∀ channel route exit sessionId (item : Outgoing), outgoing packet = some item →
      engine.activeChannel = some channel → engine.activeRoute = some route →
      engine.exitPeer = some exit → engine.currentSessionId = some sessionId →
      forward ext setup channel route exit sessionId item.protocol item.sourcePort item.destination
        item.payload engine = (.ok (), final) →
      Step ext setup inputs engine (.tun packet) final := by
    intro channel route exit sessionId item hitem hchannel hroute hexit hsession hforward
    obtain ⟨result, middle, hsend, hemit⟩ := Fallible.bind_eq_ok.mp hforward
    obtain ⟨next, rfl, ⟨frame, rfl, hsealed⟩ | ⟨rfl, reason, hfails⟩⟩ := onChannel_cases hsend
    · obtain rfl := (Prod.mk.inj hemit).2
      exact .sent packet channel next route exit sessionId item frame hitem hchannel hroute hexit
        hsession (open_bind_ok hsealed)
    · obtain rfl := (Prod.mk.inj hemit).2
      exact .unsent packet channel next item hitem hchannel (open_bind_error hfails)
  rw [handleTun, Fallible.get_bind_run] at hrun
  rcases hchannel : engine.activeChannel with _ | channel
  · simp only [hchannel] at hrun
    cases hrun
    exact .idle _
  rcases hroute : engine.activeRoute with _ | route
  · simp only [hchannel, hroute] at hrun
    cases hrun
    exact .idle _
  rcases hexit : engine.exitPeer with _ | exit
  · simp only [hchannel, hroute, hexit] at hrun
    cases hrun
    exact .idle _
  simp only [hchannel, hroute, hexit] at hrun
  -- A channel without a session id panics, which this run did not.
  rcases hsession : engine.currentSessionId with _ | sessionId
  · rw [hsession] at hrun
    cases hrun
  rw [hsession] at hrun
  rcases hdns : extractDnsPayload packet with _ | ⟨destination, sourcePort, payload⟩
  · by_cases hlong : 20 ≤ packet.length
    · refine hforward channel route exit sessionId ⟨.ip, 0, .v4 (destinationIp packet) 0, packet⟩
        (by rw [outgoing, hdns]; exact if_pos hlong) hchannel hroute hexit hsession ?_
      simpa [Fallible.orPanic, hdns, hlong] using hrun
    · simp [Fallible.orPanic, hdns, hlong] at hrun
      rw [hrun]
      exact .idle _
  · refine hforward channel route exit sessionId ⟨.dns, sourcePort, destination, payload⟩
      (by rw [outgoing, hdns]) hchannel hroute hexit hsession ?_
    simpa [Fallible.orPanic, hdns] using hrun

theorem completeSession_step {peerId : PeerId} {requestId : RequestId} {payload : Bytes}
    {response : HandshakeResponse}
    (hdecoded : ext.fromSlice (HandshakeResponse.fromJson ext) payload = some response)
    (hrun : completeSession ext response engine = (.ok (), final)) :
    Step ext setup inputs engine
      (.network (.discoveryResponse peerId requestId payload)) final := by
  unfold completeSession at hrun
  by_cases hkind : response.kind = "secure_session_response"
  · simp only [if_pos hkind, Fallible.get_bind_run] at hrun
    cases hpending : engine.pendingSession with
    | none =>
        simp only [hpending] at hrun
        cases hrun
        exact .idle _
    | some initiator =>
        simp only [hpending, Fallible.modify_bind_run] at hrun
        cases hcomplete : initiator.complete ext response with
        | error reason =>
            rw [hcomplete] at hrun
            cases hrun
            exact .failed peerId requestId payload response initiator reason hdecoded hpending
              hcomplete
        | ok session =>
            have hopen : EncryptedChannel.open session channelProtocolVersion 4096 8 =
                .ok (Node.freshChannel session) := by
              obtain ⟨_, _, _, rfl⟩ := SessionInitiator.complete_eq_ok.mp hcomplete
              rfl
            simp only [hcomplete, hopen, Fallible.modify_bind_run] at hrun
            cases hrun
            exact .established peerId requestId payload response initiator session hdecoded
              hpending hcomplete
  · simp only [if_neg hkind] at hrun
    cases hrun
    exact .idle _

theorem deliver_step {peerId : PeerId} {requestId : RequestId} {payload : Bytes}
    {message : ForwardingMessage}
    (hdecoded : ext.fromSlice (ForwardingMessage.fromJson ext) payload = some message)
    (hrun : deliver ext setup message engine = (.ok (), final)) :
    Step ext setup inputs engine
      (.network (.discoveryResponse peerId requestId payload)) final := by
  unfold deliver at hrun
  by_cases hkind : message.kind = forwardingKind
  · simp only [if_pos hkind, Fallible.get_bind_run] at hrun
    cases hchannel : engine.activeChannel with
    | none =>
        simp only [hchannel] at hrun
        cases hrun
        exact .idle _
    | some channel =>
        simp only [hchannel] at hrun
        obtain ⟨result, middle, hreceive, hrest⟩ := Fallible.bind_eq_ok.mp hrun
        obtain ⟨next, rfl, ⟨opening, rfl, hopened⟩ | ⟨rfl, reason, hfails⟩⟩ :=
          onChannel_cases hreceive
        · have hopens := open_bind_ok hopened
          by_cases hwriter : setup.tunWriter = true
          · simp only [if_pos hwriter] at hrest
            obtain rfl := (Prod.mk.inj hrest).2
            exact .delivered peerId requestId payload message channel next opening hdecoded
              hchannel hopens
          · simp only [if_neg hwriter] at hrest
            cases hrest
            exact .received peerId requestId payload message channel next hdecoded hchannel
              (.inr (by rw [hopens]))
        · cases hrest
          refine .received peerId requestId payload message channel next hdecoded hchannel ?_
          exact (open_bind_error hfails).imp_right fun ⟨reason, hreceives⟩ => by rw [hreceives]
  · simp only [if_neg hkind] at hrun
    cases hrun
    exact .idle _

theorem considerRelay_step {peerId : PeerId} {requestId : RequestId} {payload : Bytes}
    {metadata : RelayMetadata} (hdecoded : RelayMetadata.fromSlice ext payload = .ok metadata)
    (hrun : considerRelay ext setup inputs metadata engine = (.ok (), final)) :
    Step ext setup inputs engine
      (.network (.discoveryResponse peerId requestId payload)) final := by
  unfold considerRelay at hrun
  cases haccepted : RelayCandidate.fromMetadata setup.parseMultiaddr metadata setup.requirements
      inputs.checkedAt with
  | error reason =>
      rw [haccepted] at hrun
      cases hrun
      exact .idle _
  | ok candidate =>
      have hconsidered : Step ext setup inputs engine
          (.network (.discoveryResponse peerId requestId payload))
          { engine with candidates := engine.candidates ++ [candidate] } :=
        .considered peerId requestId payload metadata candidate hdecoded haccepted
      -- The candidate is kept even where no session follows.
      simp only [haccepted, Fallible.modify_bind_run, Fallible.get_bind_run] at hrun
      cases hselected : RouteSelector.select ext (ext.peerOf setup.identity)
          (RelayRanking.rank ext (engine.candidates ++ [candidate]) inputs.rankedAt)
          setup.routePolicy inputs.selectedAt with
      | error reason =>
          rw [hselected] at hrun
          cases hrun
          exact hconsidered
      | ok route =>
          simp only [hselected, startSession, Fallible.get_bind_run] at hrun
          cases hpending : engine.pendingSession with
          | some initiator =>
              simp only [hpending] at hrun
              cases hrun
              rwa [hpending] at hconsidered
          | none =>
              simp only [hpending, Option.isNone_none, if_true] at hrun
              cases hstarts : SessionInitiator.new setup.identity (bindingOf route).1
                  (bindingOf route).2 setup.protocolVersion inputs.sessionId inputs.secret with
              | error reason =>
                  simp only [hstarts] at hrun
                  cases hrun
                  rwa [hpending] at hconsidered
              | ok initiator =>
                  have hbuilt : initiator.buildInit ext = .ok (initiator.initOf ext) := by
                    obtain ⟨_, _, rfl⟩ := SessionInitiator.new_eq_ok.mp hstarts
                    rfl
                  simp only [hstarts, hbuilt] at hrun
                  cases hrun
                  exact .begun peerId requestId payload metadata candidate route initiator
                    hdecoded haccepted hselected hpending hstarts

theorem handle_step {event : LoopEvent}
    (hrun : handle ext setup inputs event engine = (.ok (), final)) :
    Step ext setup inputs engine event final := by
  cases event with
  | tun packet => exact handleTun_step hrun
  | network event =>
      cases event with
      | peerConnected peerId =>
          obtain rfl := (Prod.mk.inj hrun).2
          exact .asked peerId
      | peerDisconnected peerId =>
          obtain rfl := (Prod.mk.inj hrun).2
          by_cases hends : engine.endsWith peerId = true
          · simp only [if_pos hends]
            exact .left peerId hends
          · simp only [if_neg hends]
            exact .idle _
      | discoveryResponse peerId requestId payload =>
          change handleResponse ext setup inputs payload engine = _ at hrun
          -- The source tries the three kinds of messages one after another.
          unfold handleResponse at hrun
          cases hresponse : ext.fromSlice (HandshakeResponse.fromJson ext) payload with
          | some response =>
              rw [hresponse] at hrun
              exact completeSession_step hresponse hrun
          | none =>
              simp only [hresponse] at hrun
              cases hmessage : ext.fromSlice (ForwardingMessage.fromJson ext) payload with
              | some message =>
                  rw [hmessage] at hrun
                  exact deliver_step hmessage hrun
              | none =>
                  simp only [hmessage] at hrun
                  cases hmetadata : RelayMetadata.fromSlice ext payload with
                  | ok metadata =>
                      rw [hmetadata] at hrun
                      exact considerRelay_step hmetadata hrun
                  | error reason =>
                      rw [hmetadata] at hrun
                      cases hrun
                      exact .idle _
                  | panic =>
                      rw [hmetadata] at hrun
                      cases hrun
      | peerIdentified | pingResult | discoveryRequest | listening | networkError =>
          cases hrun
          exact .idle _

/-! ## The session variables -/

/-- The relay that a session over a route is with. -/
def firstOf : RouteBinding → PeerId
  | .twoHop entry _ _ => entry
  | .oneHop relay => relay

/-- A session with the first relay of a valid route that the client is no part of. -/
structure Chosen (ext : Externals) (setup : Setup) (route : RouteBinding) (peer : PeerId) :
    Prop where
  valid : route.Valid
  first : peer = firstOf route
  foreign : ext.peerOf setup.identity ∉ route.peers

/-- The session variables agree with the channel. -/
structure Active (ext : Externals) (setup : Setup) (engine : Engine) (channel : EncryptedChannel) :
    Prop where
  route : engine.activeRoute = some channel.session.route
  exit : engine.exitPeer = some (exitOf channel.session.route)
  session : engine.currentSessionId = some channel.session.sessionId
  chosen : Chosen ext setup channel.session.route channel.session.peerId

/-- A loop whose session variables are set and cleared together. -/
structure Coherent (ext : Externals) (setup : Setup) (engine : Engine) : Prop where
  pending : ∀ initiator, engine.pendingSession = some initiator →
    initiator.identity = setup.identity ∧ Chosen ext setup initiator.route initiator.expectedPeer
  active : ∀ channel, engine.activeChannel = some channel → Active ext setup engine channel
  cleared : engine.activeChannel = none →
    engine.activeRoute = none ∧ engine.exitPeer = none ∧ engine.currentSessionId = none

theorem new_coherent : Coherent ext setup new where
  pending initiator hpending := by cases hpending
  active channel hactive := by cases hactive
  cleared _ := ⟨rfl, rfl, rfl⟩

theorem bindingOf_peers (route : Route) :
    (bindingOf route).2.peers = route.hops.map RelayHop.peerId := by
  cases route <;> rfl

/-- The hops of a selected route are relays other than the client. -/
theorem select_foreign {clientPeerId : PeerId} {candidates : List RelayCandidate}
    {policy : RouteSelectionPolicy} {now : Int} {route : Route}
    (hselected : RouteSelector.select ext clientPeerId candidates policy now = .ok route) :
    clientPeerId ∉ (bindingOf route).2.peers := by
  obtain ⟨hhops, -⟩ := RouteSelector.select_hops hselected
  intro hmem
  rw [bindingOf_peers] at hmem
  obtain ⟨hop, hhop, hsame⟩ := List.mem_map.mp hmem
  obtain ⟨candidate, -, heligible, rfl⟩ := hhops hop hhop
  simp only [RouteSelector.eligible, decide_eq_true_eq] at heligible
  exact heligible.1 hsame

theorem bindingOf_first (route : Route) : (bindingOf route).1 = firstOf (bindingOf route).2 := by
  cases route <;> rfl

/-- The channel changes, and its session stays. -/
theorem Coherent.withChannel {channel next : EncryptedChannel}
    (hcoherent : Coherent ext setup engine) (hactive : engine.activeChannel = some channel)
    (hsession : next.session.sessionId = channel.session.sessionId)
    (hpeer : next.session.peerId = channel.session.peerId)
    (hroute : next.session.route = channel.session.route) :
    Coherent ext setup { engine with activeChannel := some next } := by
  have hbefore := hcoherent.active channel hactive
  refine { pending := hcoherent.pending, active := ?_, cleared := nofun }
  intro current hcurrent
  obtain rfl := Option.some.inj hcurrent
  constructor
  · rw [hroute]
    exact hbefore.route
  · rw [hroute]
    exact hbefore.exit
  · rw [hsession]
    exact hbefore.session
  · rw [hroute, hpeer]
    exact hbefore.chosen

theorem Coherent.withEffect (hcoherent : Coherent ext setup engine) (effect : Effect) :
    Coherent ext setup (engine.withEffect effect) where
  pending := hcoherent.pending
  active channel hactive := { hcoherent.active channel hactive with }
  cleared := hcoherent.cleared

theorem Coherent.receivedOn {channel next : EncryptedChannel}
    (hcoherent : Coherent ext setup engine) (hactive : engine.activeChannel = some channel)
    (hreceived : channel.ReceivedOn next) :
    Coherent ext setup { engine with activeChannel := some next } :=
  hcoherent.withChannel hactive hreceived.sessionId hreceived.peerId hreceived.route

theorem Coherent.sentOn {channel next : EncryptedChannel}
    (hcoherent : Coherent ext setup engine) (hactive : engine.activeChannel = some channel)
    (hsent : channel.SentOn next) :
    Coherent ext setup { engine with activeChannel := some next } :=
  hcoherent.withChannel hactive hsent.sessionId hsent.peerId hsent.route

/-- Every event keeps the session variables together. -/
theorem Coherent.step {event : LoopEvent} (hcoherent : Coherent ext setup engine)
    (hstep : Step ext setup inputs engine event final) : Coherent ext setup final := by
  cases hstep with
  | idle => exact hcoherent
  | asked peerId => exact hcoherent.withEffect _
  | failed =>
      exact { pending := nofun, cleared := hcoherent.cleared, active := fun channel hactive =>
        { hcoherent.active channel hactive with } }
  | established _ _ _ response initiator session decoded pending completes =>
      obtain ⟨_, _, _, rfl⟩ := SessionInitiator.complete_eq_ok.mp completes
      refine { pending := nofun, active := ?_, cleared := nofun }
      intro channel hactive
      obtain rfl := Option.some.inj hactive
      exact ⟨rfl, rfl, rfl, (hcoherent.pending initiator pending).2⟩
  | received _ _ _ message channel next decoded active receives =>
      refine hcoherent.receivedOn active ?_
      rcases receives with rfl | rfl
      · exact .refl _
      · exact DataPlane.receive_receivedOn ext _ _ _
  | delivered _ _ _ message channel next opening decoded active receives =>
      exact (hcoherent.receivedOn active (DataPlane.receivedOn_of_receive receives)).withEffect _
  | considered => exact { pending := hcoherent.pending, cleared := hcoherent.cleared
                          active := fun channel hactive =>
                            { hcoherent.active channel hactive with } }
  -- Only here a session is begun; its route comes from the selection over other relays.
  | begun _ _ _ metadata candidate route initiator decoded accepted selected free starts =>
      obtain ⟨hvalid, _, rfl⟩ := SessionInitiator.new_eq_ok.mp starts
      have hbegun : Coherent ext setup { engine with
          candidates := engine.candidates ++ [candidate]
          pendingSession := some ⟨setup.identity, (bindingOf route).1, (bindingOf route).2,
            setup.protocolVersion, inputs.sessionId, inputs.secret, .negotiating⟩ } := by
        refine { pending := ?_, active := fun channel hactive =>
          { hcoherent.active channel hactive with }, cleared := hcoherent.cleared }
        intro initiator hinitiator
        obtain rfl := Option.some.inj hinitiator
        exact ⟨rfl, hvalid, bindingOf_first route, select_foreign selected⟩
      exact hbegun.withEffect _
  | left =>
      refine { pending := hcoherent.pending, active := ?_, cleared := fun _ => ⟨rfl, rfl, rfl⟩ }
      intro channel hactive
      cases hactive
  | unsent packet channel next item shown active fails =>
      refine hcoherent.sentOn active ?_
      rcases fails with rfl | ⟨reason, hfails⟩
      · exact .refl _
      · have hsent := DataPlane.send_sentOn ext defaultMaximumPayloadSize item.payload channel
        rwa [hfails] at hsent
  | sent packet channel next route exit sessionId item frame shown active along towards current
      sends =>
      have hsent := DataPlane.send_sentOn ext defaultMaximumPayloadSize item.payload channel
      rw [sends] at hsent
      exact (hcoherent.sentOn active hsent).withEffect _

theorem coherent_of_reachable (hreach : (loop ext setup).Reachable engine) :
    Coherent ext setup engine := by
  refine hreach.invariant (Coherent ext setup) ?_ ?_
  · rintro _ rfl
    exact new_coherent
  · rintro _ _ _ hcoherent ⟨_, _, hrun⟩
    exact hcoherent.step (handle_step hrun)

end Engine

end Client
