import GhostLayer.Relay.ExitFlow

/-! # Requests that a relay comes back from

An error in the handler of a request ends the process of the relay. A handshake
that is rejected is only ignored, but the data of a client or of an entry has to
pass every check of its path, down to the socket of the destination. Which
requests a relay comes back from is said here exactly.
-/

namespace Relay

open Foundation Network

variable {ext : Externals}

/-! ## The size of a payload that was exchanged -/

theorem TcpExitNetworkAdapter.connect_config {destination : String} {policy : DestinationPolicy}
    {config : TcpAdapterConfig} {stream : TcpSocket} {adapter : TcpExitNetworkAdapter}
    {before after : List SocketAddr}
    (hconnect : TcpExitNetworkAdapter.connect ext destination policy config stream before =
      (.ok adapter, after)) :
    adapter.config = config := by
  simp only [TcpExitNetworkAdapter.connect, Fallible.bind_eq_ok, Fallible.pure_eq_ok] at hconnect
  obtain ⟨_, _, _, _, _, _, _, _, _, _, _, _, _, _, _, _, _, _, rfl, _⟩ := hconnect
  rfl

theorem TcpExitNetworkAdapter.exchange_size {payload response : Bytes}
    {adapter used : TcpExitNetworkAdapter}
    (hexchange : exchange payload adapter = (.ok response, used)) :
    payload.length ≤ adapter.config.maximumRequestSize := by
  simp only [exchange, send, Fallible.modify_bind_run, Fallible.bind_eq_ok, Fallible.get_bind_run,
    Fallible.failWhen_eq_ok, not_lt] at hexchange
  obtain ⟨_, _, ⟨_, _, _, _, _, ⟨hsize, _⟩, _⟩, _⟩ := hexchange
  exact hsize

theorem UdpExitNetworkAdapter.connect_size {destination : String} {policy : DestinationPolicy}
    {maximumDatagramSize timeout : Nat} {socket : UdpSocket} {adapter : UdpExitNetworkAdapter}
    {before after : List SocketAddr}
    (hconnect : UdpExitNetworkAdapter.connect ext destination policy maximumDatagramSize timeout
      socket before = (.ok adapter, after)) :
    adapter.maximumDatagramSize = maximumDatagramSize := by
  simp only [UdpExitNetworkAdapter.connect, Fallible.bind_eq_ok, Fallible.pure_eq_ok] at hconnect
  obtain ⟨_, _, _, _, _, _, _, _, _, _, _, _, _, _, _, _, _, _, _, _, _, rfl, _⟩ := hconnect
  rfl

theorem UdpExitNetworkAdapter.exchange_size {adapter : UdpExitNetworkAdapter}
    {payload response : Bytes} (hexchange : adapter.exchange payload = .ok response) :
    payload.length ≤ adapter.maximumDatagramSize := by
  simp only [exchange, send, Check.bind_eq_ok, Check.failWhen_eq_ok, not_lt] at hexchange
  obtain ⟨_, ⟨_, _, _, hsize, _⟩, _⟩ := hexchange
  exact hsize

theorem resolvePacket_size {resolver : UdpDnsResolver} {socket : UdpSocket}
    {request response : Bytes} {before after : List SocketAddr}
    (hresolve : resolver.resolvePacket socket request before = (.ok response, after)) :
    request.length ≤ resolver.limits.maximumRequestSize := by
  simp only [UdpDnsResolver.resolvePacket, DnsQuery.parse, Fallible.bind_eq_ok,
    Fallible.failWhen_eq_ok, not_lt] at hresolve
  obtain ⟨_, _, _, _, _, ⟨_, _, _, _, _, ⟨hsize, _⟩, _⟩, _⟩ := hresolve
  exact hsize

/-- What a destination answers was asked with a payload within the limit of the exit. -/
theorem Answered.size {setup : Setup ext} {inputs : Inputs} {packet : ForwardedPacket}
    {response : Bytes} (hanswered : Answered setup inputs packet (some response)) :
    packet.payload.length ≤ setup.config.tun.maximumPacketSize := by
  cases hanswered with
  | tcp destination policy _ adapter used closed called protocol configured address allowed connects
      exchanges closes =>
      have hsize := TcpExitNetworkAdapter.exchange_size exchanges
      rwa [TcpExitNetworkAdapter.connect_config connects] at hsize
  | udp policy _ adapter closed called protocol enabled translated allowed connects exchanges
      closes =>
      have hsize := UdpExitNetworkAdapter.exchange_size exchanges
      rwa [UdpExitNetworkAdapter.connect_size connects] at hsize
  | dns configured _ resolver called protocol enabled server address resolves exchanges =>
      have hsize := resolvePacket_size exchanges
      simp only [UdpDnsResolver.new, Check.bind_eq_ok, pure, Except.pure,
        Except.ok.injEq] at resolves
      obtain ⟨_, _, _, _, rfl⟩ := resolves
      exact hsize

namespace Node

variable {node : Node} {setup : Setup ext} {inputs : Inputs} {peerId clientPeer : PeerId}
  {forwarded : ForwardingMessage} {packet : ForwardedPacket} {context : ForwardingContext}
  {answer : Option Bytes} {channel : ResponseChannel}

/-! ## The exit side -/

/-- The exchange of a packet comes back: a raw packet is not answered, any other is answered by its
destination, a datagram through the translation table. -/
def Served (setup : Setup ext) (inputs : Inputs) (node : Node) (packet : ForwardedPacket) :
    Option Bytes → Prop
  | none => packet.protocol = .ip
  | some response => Answered setup inputs packet (some response) ∧
      (packet.protocol = .udp → Translatable inputs node)

/-- An exchange that comes back with a response was one with a destination that answers. -/
theorem answered_of_exchange {response : Bytes} {next : Node}
    (henabled : node.udpNat.isSome = setup.config.natEnabled)
    (hexchange : exchange ext setup inputs forwarded peerId packet packet.payload node =
      (.ok (some response), next)) : Answered setup inputs packet (some response) := by
  unfold exchange at hexchange
  cases hprotocol : packet.protocol with
  | udp =>
      simp only [hprotocol, Fallible.bind_eq_ok, exchangeUdp_eq_ok] at hexchange
      obtain ⟨_, _, ⟨_, _, table, _, _, policy, adapter, called, closed, _,
        _, hudp, _, _, _, htable,
        _, hpolicy, hconnects, hexchanges, hcloses, _, _⟩, hpure⟩ := hexchange
      obtain ⟨hsame, _⟩ := Fallible.pure_eq_ok.mp hpure
      obtain rfl := Option.some.inj hsame
      exact .udp policy _ adapter closed called hprotocol hudp
        (by rw [← henabled, htable, Option.isSome_some]) hpolicy hconnects hexchanges hcloses
  | dns =>
      simp only [hprotocol, Fallible.bind_eq_ok, exchangeDns_eq_ok] at hexchange
      obtain ⟨_, _, ⟨_, configured, resolver, called, hdns, hserver, haddress, _, _, hresolves,
        hexchanges, _⟩, hpure⟩ := hexchange
      obtain ⟨hsame, _⟩ := Fallible.pure_eq_ok.mp hpure
      obtain rfl := Option.some.inj hsame
      exact .dns configured _ resolver called hprotocol hdns hserver haddress hresolves hexchanges
  | tcp =>
      simp only [hprotocol, Fallible.bind_eq_ok, exchangeTcp_eq_ok] at hexchange
      obtain ⟨_, _, ⟨_, destination, policy, adapter, called, used, closed, hconfigured, haddress,
        hpolicy, hconnects, _, hexchanges, hcloses, _⟩, hpure⟩ := hexchange
      obtain ⟨hsame, _⟩ := Fallible.pure_eq_ok.mp hpure
      obtain rfl := Option.some.inj hsame
      exact .tcp destination policy _ adapter used closed called hprotocol hconfigured haddress
        hpolicy hconnects hexchanges hcloses
  | ip =>
      simp only [hprotocol, Fallible.bind_eq_ok] at hexchange
      obtain ⟨_, _, _, hpure⟩ := hexchange
      obtain ⟨hnone, _⟩ := Fallible.pure_eq_ok.mp hpure
      cases hnone

/-- Only a raw packet comes back without a response. -/
theorem exchange_none {next : Node} (hexchange : exchange ext setup inputs forwarded peerId packet
      packet.payload node = (.ok none, next)) : packet.protocol = .ip := by
  unfold exchange at hexchange
  cases hprotocol : packet.protocol with
  | ip => rfl
  | udp | dns | tcp =>
      simp only [hprotocol, Fallible.bind_eq_ok] at hexchange
      obtain ⟨_, _, _, hpure⟩ := hexchange
      obtain ⟨hsome, _⟩ := Fallible.pure_eq_ok.mp hpure
      cases hsome

/-- The exchange of the first packet of a flow comes back exactly when the packet is served. -/
theorem exchange_isOk (htakes : Takes setup node forwarded peerId context)
    (hlimit : node.exitHandler.maximumPacketSize = setup.config.tun.maximumPacketSize)
    (henabled : node.udpNat.isSome = setup.config.natEnabled)
    (hsource : packet.protocol = .udp → packet.source ≠ none)
    {forwarding : AList (fun _ : SessionId => ForwardingContext)}
    (hcounted : ∀ table ∈ node.udpNat, Translates forwarding table)
    (hunused : forwarding.lookup forwarded.forwardingId = none) :
    (∃ next, exchange ext setup inputs forwarded peerId packet packet.payload node =
        (.ok answer, next)) ↔ Served setup inputs node packet answer := by
  cases answer with
  | none =>
      constructor
      · rintro ⟨_, hexchange⟩
        exact exchange_none hexchange
      · intro hprotocol
        simp only [exchange, show packet.protocol = .ip from hprotocol, Fallible.bind_eq_ok]
        rcases writeTun_run node setup forwarded packet packet.payload with hsame | hwritten
        · exact ⟨_, (), _, hsame, rfl⟩
        · exact ⟨_, (), _, hwritten, rfl⟩
  | some response =>
      constructor
      · rintro ⟨next, hexchange⟩
        have hanswered := answered_of_exchange henabled hexchange
        obtain ⟨called, hiff⟩ := exchange_answered htakes (hlimit ▸ hanswered.size) hanswered
        exact ⟨hanswered, (exists_exchanged hsource hcounted hunused).mp
          ⟨next, ((hiff _ _).mp hexchange).2⟩⟩
      · rintro ⟨hanswered, htranslated⟩
        obtain ⟨called, hiff⟩ := exchange_answered htakes (hlimit ▸ hanswered.size) hanswered
        obtain ⟨next, hexchanged⟩ := (exists_exchanged hsource hcounted hunused).mpr htranslated
        exact ⟨next, (hiff _ _).mpr ⟨rfl, hexchanged⟩⟩

/-- A message that the exit takes: the first under its forwarding id, from the entry of a two-hop
route that ends here, with a packet of its flow whose payload is sealed on a session of the
relay. -/
structure FirstMessage (setup : Setup ext) (node : Node) (forwarded : ForwardingMessage)
    (peerId clientPeer : PeerId) (packet : ForwardedPacket) (receiver : EncryptedChannel) :
    Prop where
  unused : node.exitForwarding.lookup forwarded.forwardingId = none
  route : ForwardingContext.Bindable forwarded.route clientPeer peerId setup.peerId
  shown : forwarded.packet = some packet
  carries : (exitContext forwarded clientPeer).Carries packet
  room : node.core.HasRoom forwarded.forwardingId
  session : node.channels.lookup forwarded.data.sessionId = some receiver
  opens : ∃ message opened, DataPlane.receive ext defaultMaximumPayloadSize
    forwarded.data receiver =
    (.ok message, opened) ∧ packet.payload = message.payload

/-- The exit serves a message and can answer it. -/
def ServesMessage (setup : Setup ext) (inputs : Inputs) (node : Node)
    (forwarded : ForwardingMessage)
    (peerId clientPeer : PeerId) : Prop :=
  ∃ packet receiver answer, FirstMessage setup node forwarded peerId clientPeer packet receiver ∧
    Served setup inputs node packet answer ∧
    ∀ response ∈ answer, inputs.channelOpen = true ∧ DataPlane.CanSend ext receiver response

/-- The exit is where the route of a message ends. -/
theorem isExitOf_eq_true (clientPeer : PeerId) {route : RouteBinding} :
    isExitOf ext setup route = true ↔ (routeEnds clientPeer route).2 = setup.peerId := by
  cases route <;> simp [isExitOf, routeEnds]

/-- The handler of the exit lets the first message under a forwarding id through. -/
theorem takes_first (hsound : Sound setup node)
    (hunused : node.exitForwarding.lookup forwarded.forwardingId = none)
    (hentry : peerId = (routeEnds clientPeer forwarded.route).1)
    (hexit : (routeEnds clientPeer forwarded.route).2 = setup.peerId) (opened : EncryptedChannel) :
    Takes setup (node.reached forwarded (exitContext forwarded clientPeer) packet opened) forwarded
      peerId (counted (exitContext forwarded clientPeer) forwarded packet) := by
  refine ⟨AList.lookup_insert _, hsound.handler, ⟨rfl, hentry, hexit.symm, rfl⟩, ?_⟩
  intro hhandled
  have hcounted := hsound.handled _ hhandled
  rw [hunused] at hcounted
  cases hcounted

/-- What a message must be for the exit to count it, on the context that it makes. -/
theorem FirstMessage.reaches {receiver opened : EncryptedChannel} {message : DataPlaneMessage}
    (hkind : forwarded.kind = forwardingKind)
    (hpeer : ext.parsePeer forwarded.clientPeer = some clientPeer)
    (hfirst : FirstMessage setup node forwarded peerId clientPeer packet receiver)
    (hreceive : DataPlane.receive ext defaultMaximumPayloadSize forwarded.data receiver =
      (.ok message, opened)) (hpayload : packet.payload = message.payload) :
    Reaches ext node forwarded peerId clientPeer (exitContext forwarded clientPeer) packet message
      opened := by
  obtain ⟨exitAddress, hroute⟩ := hfirst.route.route
  have hends : routeEnds clientPeer forwarded.route = (peerId, setup.peerId) := by
    rw [hroute, routeEnds]
  have hdata := (DataPlane.receive_eq_ok.mp hreceive).1
  refine ⟨.made hfirst.unused ?_, ⟨⟨hkind, rfl, rfl, hpeer, rfl, hdata, hfirst.shown,
    hfirst.carries⟩, ?_, rfl, ⟨hfirst.carries.sequence, nofun⟩, .inl rfl, nofun⟩,
    ⟨receiver, hfirst.session, hreceive⟩, hpayload, hfirst.room⟩
  · rw [hends]
    exact hfirst.route
  · rw [exitContext, hends]
    rfl

/-- The exit comes back from a message exactly when it serves it. -/
theorem exitForwarded_isOk (hsound : Sound setup node) (hkind : forwarded.kind = forwardingKind)
    (hexit : isExitOf ext setup forwarded.route = true)
    (hpeer : ext.parsePeer forwarded.clientPeer = some clientPeer) :
    (exitForwarded ext setup inputs forwarded peerId clientPeer channel node).1.IsOk ↔
      ServesMessage setup inputs node forwarded peerId clientPeer := by
  have hends := (isExitOf_eq_true clientPeer).mp hexit
  rw [Fallible.isOk_iff]
  constructor
  · rintro ⟨_, final, hrun⟩
    obtain ⟨context, packet, message, opened, answer, next, hreaches, hexchange, hanswers⟩ :=
      exitForwarded_eq_ok.mp hrun
    obtain ⟨hunused, rfl⟩ := hsound.unused hreaches.held hreaches.admits
    obtain ⟨receiver, hreceiver, hreceive⟩ := hreaches.opens
    -- A context that is known was counted, so on the first message it is made from the route.
    have hroute : ForwardingContext.Bindable forwarded.route clientPeer peerId setup.peerId := by
      cases hreaches.held with
      | known _ hknown => rw [hunused] at hknown; cases hknown
      | made _ hbindable =>
          rw [hends] at hbindable
          exact hreaches.admits.entry ▸ hbindable
    have hserved := (exchange_isOk (takes_first hsound hunused hreaches.admits.entry hends opened)
      hsound.limit hsound.enabled hreaches.admits.belongs.carries.source hsound.nat hunused).mp
      ⟨next, hexchange⟩
    have hopened : next.channels.lookup forwarded.data.sessionId = some opened := by
      obtain ⟨_, _, _, _, rfl, _⟩ := exchange_ok hexchange
      exact AList.lookup_insert _
    refine ⟨packet, receiver, answer, ⟨hunused, hroute, hreaches.admits.belongs.shown,
      hreaches.admits.belongs.carries, hreaches.room, hreceiver, message, opened, hreceive,
      hreaches.payload⟩, hserved, ?_⟩
    exact (Flow.answers_iff channel hopened (DataPlane.receivedOn_of_receive hreceive)
      (DataPlane.established_of_receive hreceive) (DataPlane.established_after_receive hreceive)).mp
      ⟨final, hanswers⟩
  · rintro ⟨packet, receiver, answer, hfirst, hserved, hanswers⟩
    obtain ⟨message, opened, hreceive, hpayload⟩ := hfirst.opens
    have hreaches := hfirst.reaches hkind hpeer hreceive hpayload
    obtain ⟨next, hexchange⟩ := (exchange_isOk
      (takes_first hsound hfirst.unused hreaches.admits.entry hends opened)
      hsound.limit hsound.enabled hfirst.carries.source hsound.nat hfirst.unused).mpr hserved
    have hopened : next.channels.lookup forwarded.data.sessionId = some opened := by
      obtain ⟨_, _, _, _, rfl, _⟩ := exchange_ok hexchange
      exact AList.lookup_insert _
    obtain ⟨final, hfinal⟩ := (Flow.answers_iff channel hopened
      (DataPlane.receivedOn_of_receive hreceive) (DataPlane.established_of_receive hreceive)
      (DataPlane.established_after_receive hreceive)).mpr hanswers
    exact ⟨(), final, exitForwarded_eq_ok.mpr ⟨_, packet, message, opened, answer, _, hreaches,
      hexchange, hfinal⟩⟩

/-! ## The entry side -/

/-- A channel of the table can seal a payload. -/
def CanSeal (ext : Externals) (node : Node) (sessionId : SessionId) (payload : Bytes) : Prop :=
  ∃ current, node.channels.lookup sessionId = some current ∧ DataPlane.CanSend ext current payload

theorem canSeal_iff {sessionId : SessionId} {payload : Bytes} :
    CanSeal ext node sessionId payload ↔
      ∃ frame sealed, node.Seals ext sessionId payload frame sealed := by
  simp only [CanSeal, Seals, ← DataPlane.send_isOk, Fallible.isOk_iff]
  constructor
  · rintro ⟨current, hcurrent, frame, sealed, hsend⟩
    exact ⟨frame, sealed, current, hcurrent, hsend⟩
  · rintro ⟨frame, sealed, current, hcurrent, hsend⟩
    exact ⟨current, hcurrent, frame, sealed, hsend⟩

/-- The context of a client has not counted the request before, and its relay session can take a
payload, once the channel of the client is in the state `opened`. -/
structure CanRelay (ext : Externals) (node : Node) (forwarding : ClientForwarding)
    (sessionId : SessionId) (opened : EncryptedChannel) (payload : Bytes) : Prop where
  «begin» : forwarding.context.CanBegin forwarding.context.forwardingId .clientToExit
  relay : (node.withChannel sessionId opened).CanSeal ext forwarding.relaySessionId payload

/-- The entry forwards the message of a client: it is bound to the context of the client, shows the
payload that it seals, and there is room for its flow. -/
def RelaysPacket (ext : Externals) (node : Node) (forwarded : ForwardingMessage)
    (peerId : PeerId) : Prop :=
  ∃ forwarding packet message opened,
    node.clientForwarding.lookup forwarded.data.sessionId = some forwarding ∧
    BoundPacket ext forwarding forwarded peerId packet ∧
    node.Opens ext forwarded.data message opened ∧ packet.payload = message.payload ∧
    node.core.HasRoom forwarded.forwardingId ∧
    CanRelay ext node forwarding forwarded.data.sessionId opened message.payload

theorem forwardPacket_isOk :
    (forwardPacket ext inputs forwarded peerId channel node).1.IsOk ↔
      RelaysPacket ext node forwarded peerId := by
  simp only [Fallible.isOk_iff, forwardPacket_eq_ok]
  constructor
  · rintro ⟨_, _, forwarding, packet, message, opened, frame, sealed,
      hfound, hbound, hopens, hshown,
      hroom, hbegin, hseals, _⟩
    exact ⟨forwarding, packet, message, opened, hfound, hbound, hopens, hshown, hroom, hbegin,
      canSeal_iff.mpr ⟨frame, sealed, hseals⟩⟩
  · rintro ⟨forwarding, packet, message, opened, hfound, hbound, hopens, hshown, hroom, hcan⟩
    obtain ⟨frame, sealed, hseals⟩ := canSeal_iff.mp hcan.relay
    exact ⟨(), _, forwarding, packet, message, opened, frame, sealed,
      hfound, hbound, hopens, hshown,
      hroom, hcan.begin, hseals, rfl⟩

/-- The entry takes a bare payload on the session of a client. From another peer it is dropped once
it was opened; from the client it goes to the destination that is configured first. -/
def RelaysBare (setup : Setup ext) (node : Node) (envelope : DataPlaneEnvelope) (peerId : PeerId)
    (forwarding : ClientForwarding) : Prop :=
  ∃ message opened, node.Opens ext envelope message opened ∧
    (forwarding.clientPeer = peerId →
      CanRelay ext node forwarding envelope.sessionId opened message.payload ∧
      ∃ first ∈ setup.config.allowedExitDestinations.head?, (ext.parseSocket first).isSome)

theorem forwardEnvelope_isOk {envelope : DataPlaneEnvelope} {forwarding : ClientForwarding}
    (hfound : node.clientForwarding.lookup envelope.sessionId = some forwarding) :
    (forwardEnvelope ext setup inputs envelope peerId channel node).1.IsOk ↔
      RelaysBare setup node envelope peerId forwarding := by
  simp only [Fallible.isOk_iff, forwardEnvelope_eq_ok, hfound, Option.some.injEq]
  constructor
  · rintro ⟨_, _, message, opened, _, hopens, rfl, ⟨hother, _⟩ | ⟨_, frame, sealed, first,
      destination, hbegin, hseals, hfirst, hdestination, _⟩⟩
    · exact ⟨message, opened, hopens, fun hclient => absurd hclient hother⟩
    · exact ⟨message, opened, hopens, fun _ => ⟨⟨hbegin, canSeal_iff.mpr ⟨frame, sealed, hseals⟩⟩,
        first, hfirst, by rw [hdestination, Option.isSome_some]⟩⟩
  · rintro ⟨message, opened, hopens, hrelays⟩
    by_cases hclient : forwarding.clientPeer = peerId
    · obtain ⟨hcan, first, hfirst, hparses⟩ := hrelays hclient
      obtain ⟨frame, sealed, hseals⟩ := canSeal_iff.mp hcan.relay
      obtain ⟨destination, hdestination⟩ := Option.isSome_iff_exists.mp hparses
      exact ⟨(), _, message, opened, forwarding, hopens, rfl, .inr ⟨hclient, frame, sealed, first,
        destination, hcan.begin, hseals, hfirst, hdestination, rfl⟩⟩
    · exact ⟨(), _, message, opened, forwarding, hopens, rfl, .inl ⟨hclient, rfl⟩⟩

/-- The data on a session that is not forwarded can be acknowledged, where it is accepted. -/
structure CanAcknowledge (ext : Externals) (inputs : Inputs) (envelope : DataPlaneEnvelope)
    (current : EncryptedChannel) : Prop where
  established : current.state = .established
  answers : ∀ message opened,
    DataPlane.receive ext defaultMaximumPayloadSize envelope current = (.ok message, opened) →
    inputs.channelOpen = true ∧ DataPlane.CanSend ext current (acknowledgement message)

theorem acknowledge_isOk {envelope : DataPlaneEnvelope} {current : EncryptedChannel}
    (hfound : node.channels.lookup envelope.sessionId = some current) :
    (acknowledge ext inputs envelope channel node).1.IsOk ↔
      CanAcknowledge ext inputs envelope current := by
  simp only [Fallible.isOk_iff, acknowledge_eq_ok, hfound, Option.some.injEq]
  have hsends : ∀ message opened,
      DataPlane.receive ext defaultMaximumPayloadSize envelope current = (.ok message, opened) →
      ((∃ frame sealed, DataPlane.send ext defaultMaximumPayloadSize (acknowledgement message)
        opened = (.ok frame, sealed)) ↔
          DataPlane.CanSend ext current (acknowledgement message)) := by
    intro message opened hreceive
    rw [← DataPlane.canSend_of_receivedOn (DataPlane.receivedOn_of_receive hreceive)
      (DataPlane.established_of_receive hreceive) (DataPlane.established_after_receive hreceive),
      ← DataPlane.send_isOk, Fallible.isOk_iff]
  constructor
  · rintro ⟨_, _, _, rfl, hstate, ⟨reason, next, hreceive, _⟩ |
      ⟨message, opened, frame, sealed, hreceive, hsend, hopen, _⟩⟩
    · refine ⟨hstate, fun message opened haccepts => ?_⟩
      cases hreceive.symm.trans haccepts
    · refine ⟨hstate, fun message' opened' haccepts => ?_⟩
      obtain ⟨hmessage, rfl⟩ := Prod.mk.inj (hreceive.symm.trans haccepts)
      obtain rfl := Outcome.ok.inj hmessage
      exact ⟨hopen, (hsends message opened hreceive).mp ⟨frame, sealed, hsend⟩⟩
  · intro hcan
    rcases hreceive : DataPlane.receive ext defaultMaximumPayloadSize envelope current with
      ⟨message | reason | _, next⟩
    · obtain ⟨hopen, hsend⟩ := hcan.answers message next hreceive
      obtain ⟨frame, sealed, hsent⟩ := (hsends message next hreceive).mpr hsend
      exact ⟨(), _, current, rfl, hcan.established, .inr ⟨message, next, frame, sealed, hreceive,
        hsent, hopen, rfl⟩⟩
    · exact ⟨(), _, current, rfl, hcan.established, .inl ⟨reason, next, hreceive, rfl⟩⟩
    · have hpanic := DataPlane.receive_ne_panic ext defaultMaximumPayloadSize envelope current
      rw [hreceive] at hpanic
      exact absurd rfl hpanic

/-! ## Handshakes and metadata -/

variable (ext) in
theorem acceptInit_ne_panic (init : HandshakeInit) (transportPeer : PeerId)
    (protocolVersion : String) (secret : Bytes32) (responder : SessionResponder) :
    (SessionResponder.acceptInit ext init transportPeer protocolVersion secret responder).1 ≠
      .panic := by
  unfold SessionResponder.acceptInit
  simp only [Fallible.get_bind_run, Fallible.failWhen_bind_run]
  split_ifs
  · simp
  cases validateInit ext init transportPeer (ext.peerOf responder.identity) init.routeContext
    protocolVersion with
  | error reason => simp
  | ok checked =>
      simp only [Fallible.ofExcept_ok, Fallible.pure_bind_run, Fallible.failWhen_bind_run,
        Fallible.modify_bind_run]
      split_ifs <;> simp

theorem openSession_isOk {init : HandshakeInit} {response : HandshakeResponse}
    {session : SecureSession} (hestablished : session.state = .established)
    {responder : SessionResponder} :
    (openSession ext setup inputs init peerId channel response session
        { node with sessionResponder := responder }).1.IsOk ↔
      (node.core.TakesSession → isEntry ext setup peerId init.routeContext = false →
        inputs.channelOpen = true) := by
  simp only [Fallible.isOk_iff, openSession_eq_ok hestablished]
  constructor
  · rintro ⟨_, _, ⟨hfull, _⟩ | ⟨_, ⟨_, _, _, _, hentry, _⟩ | ⟨_, hopen, _⟩⟩⟩ htakes hother
    · exact absurd htakes hfull
    · rw [hother] at hentry
      cases hentry
    · exact hopen
  · intro hanswers
    by_cases htakes : node.core.TakesSession
    · cases hentry : isEntry ext setup peerId init.routeContext with
      | true =>
          obtain ⟨exit, exitAddress, hroute⟩ := isEntry_eq_true hentry
          exact ⟨(), _, .inr ⟨htakes, .inl ⟨_, exit, exitAddress, hroute, rfl, rfl⟩⟩⟩
      | false => exact ⟨(), _, .inr ⟨htakes, .inr ⟨rfl, hanswers htakes hentry, rfl⟩⟩⟩
    · exact ⟨(), _, .inl ⟨htakes, rfl⟩⟩

/-- Only the answer to a handshake can fail. The entry of a route leaves the answer for later. -/
theorem acceptHandshake_isOk {init : HandshakeInit} :
    (acceptHandshake ext setup inputs init peerId channel node).1.IsOk ↔
      (init.kind = "secure_session_init" →
        (SessionResponder.acceptInit ext init peerId setup.config.protocolVersion inputs.secret
          node.sessionResponder).1.IsOk →
        node.core.TakesSession → isEntry ext setup peerId init.routeContext = false →
        inputs.channelOpen = true) := by
  by_cases hkind : init.kind = "secure_session_init"
  swap
  · rw [acceptHandshake, if_pos hkind]
    exact ⟨fun _ hsame => absurd hsame hkind, fun _ => ⟨(), rfl⟩⟩
  simp only [Fallible.isOk_iff, acceptHandshake_eq_ok hkind, hkind, true_implies]
  rcases haccept : SessionResponder.acceptInit ext init peerId setup.config.protocolVersion
    inputs.secret node.sessionResponder with ⟨⟨response, session⟩ | reason | _, responder⟩
  · have hestablished := acceptInit_established haccept
    constructor
    · rintro ⟨_, final, ⟨_, _, hrejects, _⟩ | ⟨_, _, _, haccepts, hopen⟩⟩ _
      · cases hrejects
      · obtain ⟨hsame, rfl⟩ := Prod.mk.inj haccepts
        obtain ⟨rfl, rfl⟩ := Prod.mk.inj (Outcome.ok.inj hsame)
        exact (openSession_isOk hestablished).mp (Fallible.isOk_iff.mpr ⟨(), final, hopen⟩)
    · intro hanswers
      obtain ⟨_, final, hopen⟩ := Fallible.isOk_iff.mp
        ((openSession_isOk hestablished).mpr (hanswers ⟨_, _, rfl⟩))
      exact ⟨(), final, .inr ⟨response, session, responder, rfl, hopen⟩⟩
  · constructor
    · rintro _ ⟨_, _, hfalse⟩
      cases hfalse
    · intro _
      exact ⟨(), _, .inl ⟨reason, responder, rfl, rfl⟩⟩
  · have hpanic := acceptInit_ne_panic ext init peerId setup.config.protocolVersion inputs.secret
      node.sessionResponder
    rw [haccept] at hpanic
    exact absurd rfl hpanic

/-- A report is written when no time in it lies before the epoch. -/
theorem metadataOf_toJson : (∃ json, (metadataOf setup inputs node).toJson ext = some json) ↔
    0 ≤ inputs.stamp ∧ ∀ heartbeat ∈ node.state.lastHeartbeat, 0 ≤ heartbeat := by
  simp only [metadataOf, RelayMetadata.fromStateWithCapabilities, RelayMetadata.toJson,
    unixTimestamp]
  cases node.state.lastHeartbeat with
  | none => by_cases hstamp : 0 ≤ inputs.stamp <;> simp [hstamp]
  | some heartbeat =>
      by_cases hstamp : 0 ≤ inputs.stamp <;> by_cases hheartbeat : 0 ≤ heartbeat <;>
        simp [hstamp, hheartbeat]

theorem answerMetadata_isOk {request : RelayMetadataRequest} :
    (answerMetadata ext setup inputs request channel node).1.IsOk ↔
      (request.kind = "metadata" ∧ request.protocolVersion = setup.config.protocolVersion →
        (0 ≤ inputs.stamp ∧ ∀ heartbeat ∈ node.state.lastHeartbeat, 0 ≤ heartbeat) ∧
          inputs.channelOpen = true) := by
  by_cases hrequest : request.kind = "metadata" ∧
      request.protocolVersion = setup.config.protocolVersion
  · simp only [Fallible.isOk_iff, answerMetadata_eq_ok hrequest]
    constructor
    · rintro ⟨_, _, json, hjson, hopen, _⟩ _
      exact ⟨metadataOf_toJson.mp ⟨json, hjson⟩, hopen⟩
    · intro hanswers
      obtain ⟨htimes, hopen⟩ := hanswers hrequest
      obtain ⟨json, hjson⟩ := metadataOf_toJson.mpr htimes
      exact ⟨(), _, json, hjson, hopen, rfl⟩
  · rw [answerMetadata, if_neg hrequest]
    exact ⟨fun _ hsame => absurd hsame hrequest, fun _ => ⟨(), rfl⟩⟩

/-! ## Requests -/

/-- A request that the relay comes back from, in the state before it. -/
def Tolerated (setup : Setup ext) (inputs : Inputs) (node : Node) (peerId : PeerId) :
    Request → Prop
  | .handshake init => init.kind = "secure_session_init" →
      (SessionResponder.acceptInit ext init peerId setup.config.protocolVersion inputs.secret
        node.sessionResponder).1.IsOk →
      node.core.TakesSession → isEntry ext setup peerId init.routeContext = false →
      inputs.channelOpen = true
  | .metadata request => request.kind = "metadata" ∧
      request.protocolVersion = setup.config.protocolVersion →
      (0 ≤ inputs.stamp ∧ ∀ heartbeat ∈ node.state.lastHeartbeat, 0 ≤ heartbeat) ∧
        inputs.channelOpen = true
  | .forwarding message => message.kind = forwardingKind →
      if isClientProtocolRequest ext setup message node then RelaysPacket ext node message peerId
      else setup.config.relayRole ≠ .entry → isExitOf ext setup message.route = true →
        ∀ clientPeer ∈ ext.parsePeer message.clientPeer,
          ServesMessage setup inputs node message peerId clientPeer
  | .envelope envelope => envelope.kind = dataPlaneKind →
      match node.clientForwarding.lookup envelope.sessionId with
      | some forwarding => RelaysBare setup node envelope peerId forwarding
      | none => ∀ current ∈ node.channels.lookup envelope.sessionId,
          CanAcknowledge ext inputs envelope current
  | .unknown => True

theorem handleForwarding_isOk (hsound : Sound setup node) {message : ForwardingMessage} :
    (handleForwarding ext setup inputs message peerId channel node).1.IsOk ↔
      Tolerated setup inputs node peerId (.forwarding message) := by
  rw [handleForwarding_run, Tolerated]
  by_cases hkind : message.kind = forwardingKind
  swap
  · rw [if_pos hkind]
    exact ⟨fun _ hsame => absurd hsame hkind, fun _ => ⟨(), rfl⟩⟩
  rw [if_neg (not_not.mpr hkind)]
  simp only [hkind, true_implies]
  by_cases hclient : isClientProtocolRequest ext setup message node = true
  · rw [if_pos hclient, if_pos hclient]
    exact forwardPacket_isOk
  rw [if_neg hclient, if_neg hclient]
  by_cases hignored : setup.config.relayRole = .entry ∨ ¬ isExitOf ext setup message.route = true
  · rw [if_pos hignored]
    refine ⟨fun _ hrole hexit => ?_, fun _ => ⟨(), rfl⟩⟩
    rcases hignored with hentry | hother
    · exact absurd hentry hrole
    · exact absurd hexit hother
  rw [if_neg hignored]
  obtain ⟨hrole, hexit⟩ := not_or.mp hignored
  have hends := not_not.mp hexit
  cases hpeer : ext.parsePeer message.clientPeer with
  | none => exact ⟨fun _ _ _ _ hsome => (by cases hsome), fun _ => ⟨(), rfl⟩⟩
  | some clientPeer =>
      simp only [Option.mem_some, forall_eq', hrole, ne_eq, not_false_eq_true, hends, true_implies]
      exact exitForwarded_isOk hsound hkind hends hpeer

theorem handleEnvelope_isOk {envelope : DataPlaneEnvelope} :
    (handleEnvelope ext setup inputs envelope peerId channel node).1.IsOk ↔
      Tolerated setup inputs node peerId (.envelope envelope) := by
  rw [handleEnvelope_run, Tolerated]
  by_cases hkind : envelope.kind = dataPlaneKind
  swap
  · rw [if_pos hkind]
    exact ⟨fun _ hsame => absurd hsame hkind, fun _ => ⟨(), rfl⟩⟩
  rw [if_neg (not_not.mpr hkind)]
  simp only [hkind, true_implies]
  cases hclient : node.clientForwarding.lookup envelope.sessionId with
  | some forwarding => exact forwardEnvelope_isOk hclient
  | none =>
      cases hcurrent : node.channels.lookup envelope.sessionId with
      | some current =>
          simp only [Option.mem_some, forall_eq']
          exact acknowledge_isOk hcurrent
      | none => exact ⟨fun _ _ hsome => (by cases hsome), fun _ => ⟨(), rfl⟩⟩

/-- A relay comes back from a request exactly when the request is tolerated. -/
theorem request_returns_iff (hreach : (loop ext setup).Reachable node) (inputs : Inputs)
    (peerId : PeerId) (payload : Bytes) (channel : ResponseChannel) :
    (handle ext setup inputs (.network (.discoveryRequest peerId payload channel)) node).1.IsOk ↔
      Tolerated setup inputs node peerId (readRequest ext payload) := by
  have hsound := sound_of_reachable hreach
  have hrun : handle ext setup inputs (.network (.discoveryRequest peerId payload channel)) node =
      handleRequest ext setup inputs payload peerId channel node := rfl
  rw [hrun, handleRequest_run]
  cases readRequest ext payload with
  | handshake init => exact acceptHandshake_isOk
  | metadata request => exact answerMetadata_isOk
  | forwarding message => exact handleForwarding_isOk hsound
  | envelope envelope => exact handleEnvelope_isOk
  | unknown => exact ⟨fun _ => trivial, fun _ => ⟨(), rfl⟩⟩

/-! ## A peer of an exit -/

section Visitor

open ReferenceRelay Relay.Flow

/-- A message for a relay on a one-hop route. -/
noncomputable def oneHopMessage (relay : PeerId) : ForwardingMessage where
  kind := forwardingKind
  forwardingId := ⟨Vector.replicate 16 6⟩
  clientSessionId := ⟨Vector.replicate 16 7⟩
  clientPeer := reference.peerText ⟨[3]⟩
  route := .oneHop relay
  data := ⟨dataPlaneKind, ⟨Vector.replicate 16 5⟩, []⟩
  packet := none

theorem readRequest_oneHopMessage (relay : PeerId) :
    readRequest reference ((oneHopMessage relay).toJson reference).render =
      .forwarding (oneHopMessage relay) :=
  readRequest_forwarding reference.parsesJson reference.readsIdentities reference.readsSockets _

/-- A peer is connected to the exit. -/
theorem exitRelay_visited : ∃ node, (loop reference exitRelay).Reachable node ∧
    ⟨[1]⟩ ∈ node.core.peers := by
  have hready := ready_reachable .exit (bounds 8 8 8)
  obtain ⟨state, hrun⟩ : ∃ state, handle reference exitRelay (ReferenceRelay.inputs 0)
      (.network (.peerConnected ⟨[1]⟩)) (ready .exit (bounds 8 8 8)) = _ :=
    handle_met reference exitRelay (by simp [waitingFor, ready, started])
  refine ⟨_, hready.tail ⟨ReferenceRelay.inputs 0, _, hrun⟩, ?_⟩
  simp [RelayCore.noted, ready, started, RelayCore.new, bounds]

/-- A message for another relay is ignored. -/
theorem request_returns_elsewhere : ∃ node, (loop reference exitRelay).Reachable node ∧
    (handle reference exitRelay (ReferenceRelay.inputs 0) (.network (.discoveryRequest ⟨[1]⟩
      ((oneHopMessage ⟨[9]⟩).toJson reference).render ⟨⟨[1]⟩, 0⟩)) node).1.IsOk := by
  obtain ⟨node, hreach, _⟩ := exitRelay_visited
  refine ⟨node, hreach, (request_returns_iff hreach _ _ _ _).mpr ?_⟩
  rw [readRequest_oneHopMessage, Tolerated]
  intro _
  have hclient : isClientProtocolRequest reference exitRelay
    (oneHopMessage ⟨[9]⟩) node = false := rfl
  have hother : isExitOf reference exitRelay (oneHopMessage ⟨[9]⟩).route = false := by
    simp [isExitOf, oneHopMessage, exitRelay, Setup.peerId, ReferenceRelay.setup, Externals.peerOf,
      reference]
  rw [hclient, if_neg Bool.false_ne_true, hother]
  intro _ hends
  cases hends

/-- A message for the relay itself ends it: no context can be made for a one-hop route. -/
theorem request_ends_relay : ¬ ∀ (node : Node) (inputs : Inputs) (peerId : PeerId) (payload : Bytes)
    (channel : ResponseChannel), (loop reference exitRelay).Reachable node →
    peerId ∈ node.core.peers →
    (handle reference exitRelay inputs (.network (.discoveryRequest peerId payload channel))
      node).1.IsOk := by
  intro hreturns
  obtain ⟨node, hreach, hconnected⟩ := exitRelay_visited
  have hok := hreturns node (ReferenceRelay.inputs 0) ⟨[1]⟩
    ((oneHopMessage exitRelay.peerId).toJson reference).render ⟨⟨[1]⟩, 0⟩ hreach hconnected
  have hrun : handle reference exitRelay (ReferenceRelay.inputs 0)
    (.network (.discoveryRequest ⟨[1]⟩
      ((oneHopMessage exitRelay.peerId).toJson reference).render ⟨⟨[1]⟩, 0⟩)) node =
      handleRequest reference exitRelay (ReferenceRelay.inputs 0)
        ((oneHopMessage exitRelay.peerId).toJson reference).render ⟨[1]⟩ ⟨⟨[1]⟩, 0⟩ node := rfl
  rw [hrun, handleRequest_run, readRequest_oneHopMessage] at hok
  have hserves := (handleForwarding_isOk (sound_of_reachable hreach)).mp hok rfl
  have hclient : isClientProtocolRequest reference exitRelay (oneHopMessage exitRelay.peerId) node =
      false := rfl
  rw [hclient, if_neg Bool.false_ne_true] at hserves
  have hrole : exitRelay.config.relayRole ≠ .entry := clientFlow_endsAt.role
  obtain ⟨_, _, _, hfirst, _⟩ := hserves hrole (by simp [isExitOf, oneHopMessage]) ⟨[3]⟩
    (reference.readsIdentities.peer ⟨[3]⟩)
  obtain ⟨exitAddress, hroute⟩ := hfirst.route.route
  cases hroute

end Visitor

end Node

end Relay
