import GhostLayer.Relay.Joining

/-! # The messages of one flow at an exit

An entry sends the packets of a flow one after the other under one forwarding
id. The exit takes the first of them and none after it: the context of the flow
refuses a request that repeats the one before, and requests are told apart by
the forwarding id only.
-/

namespace Relay

open Foundation Network

variable {ext : Externals}

/-! ## Destinations that answer -/

/-- A destination that is enabled and allowed, and what it answers to a packet. -/
inductive Answered (setup : Setup ext) (inputs : Inputs) (packet : ForwardedPacket) :
    Option Bytes → Prop
  | tcp (destination : String) (policy : DestinationPolicy) (response : Bytes)
      (adapter used closed : TcpExitNetworkAdapter) (called : List SocketAddr)
      (protocol : packet.protocol = .tcp)
      (configured : setup.config.externalTestDestination = some destination)
      (address : ext.parseSocket destination = some packet.destination)
      (allowed : setup.destinationPolicy = some policy)
      (connects : TcpExitNetworkAdapter.connect ext destination policy
        ⟨setup.config.tun.maximumPacketSize, setup.config.tun.maximumPacketSize,
          Node.exchangeTimeout, Node.exchangeTimeout, Node.exchangeTimeout⟩ inputs.tcp [] =
        (.ok adapter, called))
      (exchanges : TcpExitNetworkAdapter.exchange packet.payload adapter = (.ok response, used))
      (closes : TcpExitNetworkAdapter.close used = (.ok (), closed)) :
      Answered setup inputs packet (some response)
  | udp (policy : DestinationPolicy) (response : Bytes) (adapter closed : UdpExitNetworkAdapter)
      (called : List SocketAddr)
      (protocol : packet.protocol = .udp)
      (enabled : setup.config.udpEnabled = true)
      (translated : setup.config.natEnabled = true)
      (allowed : setup.destinationPolicy = some policy)
      (connects : UdpExitNetworkAdapter.connect ext (ext.socketText packet.destination) policy
        setup.config.tun.maximumPacketSize Node.exchangeTimeout inputs.udp
          [] = (.ok adapter, called))
      (exchanges : adapter.exchange packet.payload = .ok response)
      (closes : UdpExitNetworkAdapter.close adapter = (.ok (), closed)) :
      Answered setup inputs packet (some response)
  | dns (configured : String) (response : Bytes) (resolver : UdpDnsResolver)
      (called : List SocketAddr)
      (protocol : packet.protocol = .dns)
      (enabled : setup.config.dnsEnabled = true)
      (server : setup.config.dnsServer = some configured)
      (address : ext.parseSocket configured = some packet.destination)
      (resolves : UdpDnsResolver.new packet.destination ⟨setup.config.tun.maximumPacketSize,
        setup.config.tun.maximumPacketSize, setup.config.dnsTimeout⟩ true = .ok resolver)
      (exchanges : resolver.resolvePacket inputs.dns packet.payload [] = (.ok response, called)) :
      Answered setup inputs packet (some response)
  | ip (written : NetworkPacket)
      (protocol : packet.protocol = .ip)
      (device : setup.tunWriter = true)
      (fits : NetworkPacket.new packet.payload setup.config.tun.maximumPacketSize
        setup.config.tun.mtu = .ok written) :
      Answered setup inputs packet none

namespace Node

variable {node next : Node} {setup : Setup ext} {inputs : Inputs} {forwarded : ForwardingMessage}
  {packet : ForwardedPacket} {peerId : PeerId} {context : ForwardingContext}
  {answer : Option Bytes}

/-- What the exchange with a destination that answers does to the loop when it calls some
addresses. -/
def Exchanged (inputs : Inputs) (node : Node) (forwarded : ForwardingMessage)
    (packet : ForwardedPacket) (context : ForwardingContext) (called : List SocketAddr)
    (next : Node) : Prop :=
  match packet.protocol with
  | .udp => ∃ source table mapping created reverse kept, packet.source = some source ∧
      node.udpNat = some table ∧
      NatTable.create inputs.natNow inputs.natStamp (flowKeyOf forwarded packet source context)
        table = (.ok mapping, created) ∧
      NatTable.lookupReverse inputs.natReturn mapping.translated
        (flowKeyOf forwarded packet source context) created = (.ok reverse, kept) ∧
      { node.handedOn forwarded packet packet.payload with
        udpNat := some kept
        contacted := node.contacted ++ called } = next
  | .dns | .tcp => { node.handedOn forwarded packet packet.payload with
      contacted := node.contacted ++ called } = next
  | .ip => node.withEffect (dispatchOf forwarded packet packet.payload) = next

theorem exchange_answered (htakes : Takes setup node forwarded peerId context)
    (hsize : packet.payload.length ≤ node.exitHandler.maximumPacketSize)
    (hanswered : Answered setup inputs packet answer) : ∃ called, ∀ answer' next,
    exchange ext setup inputs forwarded peerId packet packet.payload node = (.ok answer', next) ↔
      answer = answer' ∧ Exchanged inputs node forwarded packet context called next := by
  have hcontext : ∀ context', Takes setup node forwarded peerId context' → context' = context :=
    fun context' htakes' => Option.some.inj (htakes'.1.symm.trans htakes.1)
  -- Each protocol determines what is looked up on the way, so a run finds the same values.
  cases hanswered with
  | tcp destination policy response adapter used closed called protocol configured address allowed
      connects exchanges closes =>
      refine ⟨called, fun answer' next => ?_⟩
      simp only [exchange, Exchanged, protocol, Fallible.bind_eq_ok, exchangeTcp_eq_ok,
        Fallible.pure_eq_ok]
      constructor
      · rintro ⟨response', _, ⟨_, destination', policy', adapter', called', used', closed',
          hconfigured, _, hallowed, hconnects, _, hexchanges, _, rfl⟩, rfl, rfl⟩
        obtain rfl := Option.some.inj (configured.symm.trans hconfigured)
        obtain rfl := Option.some.inj (allowed.symm.trans hallowed)
        obtain ⟨hadapter, rfl⟩ := Prod.mk.inj (connects.symm.trans hconnects)
        obtain rfl := Outcome.ok.inj hadapter
        obtain ⟨hsame, _⟩ := Prod.mk.inj (exchanges.symm.trans hexchanges)
        exact ⟨congrArg some (Outcome.ok.inj hsame), rfl⟩
      · rintro ⟨rfl, rfl⟩
        exact ⟨response, _, ⟨context, destination, policy, adapter, called,
          used, closed, configured,
          address, allowed, connects, htakes, exchanges, closes, rfl⟩, rfl, rfl⟩
  | udp policy response adapter closed called protocol enabled _ allowed
      connects exchanges closes =>
      refine ⟨called, fun answer' next => ?_⟩
      simp only [exchange, Exchanged, protocol, Fallible.bind_eq_ok, exchangeUdp_eq_ok,
        Fallible.pure_eq_ok]
      constructor
      · rintro ⟨response', _,
          ⟨context', source, table, mapping, created, policy', adapter', called',
          _, reverse, kept, _, htakes', _, hsource, htable, hcreate,
            hallowed, hconnects, hexchanges,
          _, hreverse, rfl⟩, rfl, rfl⟩
        obtain rfl := hcontext context' htakes'
        obtain rfl := Option.some.inj (allowed.symm.trans hallowed)
        obtain ⟨hadapter, rfl⟩ := Prod.mk.inj (connects.symm.trans hconnects)
        obtain rfl := Outcome.ok.inj hadapter
        obtain rfl := Except.ok.inj (exchanges.symm.trans hexchanges)
        exact ⟨rfl, source, table, mapping, created, reverse, kept, hsource, htable, hcreate,
          hreverse, rfl⟩
      · rintro ⟨rfl, source, table, mapping, created, reverse, kept, hsource, htable, hcreate,
          hreverse, rfl⟩
        exact ⟨response, _, ⟨context, source, table, mapping, created,
          policy, adapter, called, closed,
          reverse, kept, enabled, htakes, hsize, hsource, htable, hcreate, allowed, connects,
          exchanges, closes, hreverse, rfl⟩, rfl, rfl⟩
  | dns configured response resolver called protocol enabled server address resolves exchanges =>
      refine ⟨called, fun answer' next => ?_⟩
      simp only [exchange, Exchanged, protocol, Fallible.bind_eq_ok, exchangeDns_eq_ok,
        Fallible.pure_eq_ok]
      constructor
      · rintro ⟨response', _, ⟨_, _, resolver', called', _, _, _, _, _, hresolves, hexchanges, rfl⟩,
          rfl, rfl⟩
        obtain rfl := Except.ok.inj (resolves.symm.trans hresolves)
        obtain ⟨hsame, rfl⟩ := Prod.mk.inj (exchanges.symm.trans hexchanges)
        exact ⟨congrArg some (Outcome.ok.inj hsame), rfl⟩
      · rintro ⟨rfl, rfl⟩
        exact ⟨response, _, ⟨context, configured, resolver, called, enabled,
          server, address, htakes, hsize,
          resolves, exchanges, rfl⟩, rfl, rfl⟩
  | ip written protocol device fits =>
      refine ⟨[], fun answer' next => ?_⟩
      simp only [exchange, Exchanged, protocol, writeTun, device, fits, emit, Fallible.bind_eq_ok,
        Fallible.modify_eq_ok, Fallible.pure_eq_ok]
      constructor
      · rintro ⟨_, _, rfl, rfl, rfl⟩
        exact ⟨rfl, rfl⟩
      · rintro ⟨rfl, rfl⟩
        exact ⟨(), _, rfl, rfl, rfl⟩

variable {called : List SocketAddr}

theorem Exchanged.keeps
    (hexchanged : Exchanged inputs node forwarded packet context called next) :
    next.channels = node.channels ∧ next.exitForwarding = node.exitForwarding ∧
      next.effects = node.effects ++ [dispatchOf forwarded packet packet.payload] := by
  unfold Exchanged at hexchanged
  cases hprotocol : packet.protocol <;> simp only [hprotocol] at hexchanged
  case udp =>
    obtain ⟨_, _, _, _, _, _, _, _, _, _, rfl⟩ := hexchanged
    exact ⟨rfl, rfl, rfl⟩
  all_goals
    subst hexchanged
    exact ⟨rfl, rfl, rfl⟩

/-- The translation table takes one more flow and keeps it until its answer is there. -/
def Translatable (inputs : Inputs) (node : Node) : Prop :=
  ∃ table, node.udpNat = some table ∧
    (table.cleanup inputs.natNow).mappings.entries.length < 1024 ∧
    (table.cleanup inputs.natNow).HasFreePort (65535 - 40000 + 1) ∧
    inputs.natReturn < inputs.natStamp + 30 * 10 ^ 9

/-- A flow that was not counted before is translated where the table has room. -/
theorem exists_exchanged (hsource : packet.protocol = .udp → packet.source ≠ none)
    {forwarding : AList (fun _ : SessionId => ForwardingContext)}
    (hcounted : ∀ table ∈ node.udpNat, Translates forwarding table)
    (hunused : forwarding.lookup forwarded.forwardingId = none) :
    (∃ next, Exchanged inputs node forwarded packet context called next) ↔
      (packet.protocol = .udp → Translatable inputs node) := by
  unfold Exchanged
  cases hprotocol : packet.protocol with
  | tcp | dns | ip => simp
  | udp =>
      obtain ⟨source, hshown⟩ := Option.ne_none_iff_exists'.mp (hsource hprotocol)
      simp only [true_implies]
      constructor
      · rintro ⟨_, source', table, mapping, created, reverse, kept, _, htable, hcreate, hreverse, _⟩
        have hcan := (NatTable.create_isOk _).mp (Fallible.isOk_iff.mpr ⟨_, _, hcreate⟩)
        obtain ⟨_, _, hexpires, hmappings, _⟩ := NatTable.create_ok hcreate
        have hfound : created.mappings.lookup (flowKeyOf forwarded packet source' context) =
            some mapping := by rw [hmappings, AList.lookup_insert]
        have hlive := (((hcounted table htable).coherent.create hcreate).lookupReverse_isOk
          hfound).mp (Fallible.isOk_iff.mpr ⟨_, _, hreverse⟩)
        rw [hexpires, (hcounted table htable).lifetime] at hlive
        exact ⟨table, htable, (hcounted table htable).maximum ▸ hcan.room, hcan.port, hlive⟩
      · rintro ⟨table, htable, hroom, hport, hlive⟩
        have htranslates := hcounted table htable
        -- A mapping is of a flow that was counted, and this one was not.
        have hfresh : (table.cleanup inputs.natNow).mappings.lookup
            (flowKeyOf forwarded packet source context) = none := by
          by_contra hknown
          obtain ⟨mapping, hmapping⟩ := Option.ne_none_iff_exists'.mp hknown
          have hflow := htranslates.flows _ _ (NatTable.cleanup_mappings.mp hmapping).1
          rw [show (flowKeyOf forwarded packet source context).flowId = forwarded.forwardingId
            from rfl, hunused] at hflow
          cases hflow
        obtain ⟨mapping, created, hcreate⟩ := Fallible.isOk_iff.mp
          ((NatTable.create_isOk inputs.natStamp).mpr
            ⟨hfresh, htranslates.maximum.symm ▸ hroom, hport⟩)
        obtain ⟨_, _, hexpires, hmappings, _⟩ := NatTable.create_ok hcreate
        obtain ⟨reverse, kept, hreverse⟩ := Fallible.isOk_iff.mp
          (((htranslates.coherent.create hcreate).lookupReverse_isOk
            (by rw [hmappings, AList.lookup_insert])).mpr
            (by rw [hexpires, htranslates.lifetime]; exact hlive))
        exact ⟨_, source, table, mapping, created, reverse, kept, hshown, htable, hcreate,
          hreverse, rfl⟩

end Node

/-! ## Flows -/

/-- What the messages of a flow have in common. -/
structure Flow where
  forwardingId : SessionId
  clientSessionId : SessionId
  clientPeer : PeerId
  entryPeer : PeerId
  exitAddress : String
  relaySessionId : SessionId

/-- A message of a flow, and what the platform returns while it is handled. -/
structure Delivery where
  message : ForwardingMessage
  packet : ForwardedPacket
  answer : Option Bytes
  channel : ResponseChannel
  inputs : Inputs

namespace Flow

section Statement

variable (setup : Setup ext) (flow : Flow)

def route : RouteBinding := .twoHop flow.entryPeer setup.peerId flow.exitAddress

/-- The context of the flow when nothing was counted. -/
def context : ForwardingContext :=
  .bound flow.forwardingId flow.clientSessionId flow.clientPeer flow.entryPeer setup.peerId
    (flow.route setup) flow.relaySessionId

/-- The relay is the exit of the flow. -/
structure EndsAt : Prop where
  role : setup.config.relayRole ≠ .entry
  bindable : ForwardingContext.Bindable (flow.route setup) flow.clientPeer flow.entryPeer
    setup.peerId

/-- A message of the flow within the limits, to a destination that answers. -/
structure Sends (delivery : Delivery) : Prop where
  belongs : (flow.context setup).Matches ext delivery.message delivery.packet
  session : delivery.message.data.sessionId = flow.relaySessionId
  size : delivery.packet.payload.length ≤ setup.config.tun.maximumPacketSize
  answered : Answered setup delivery.inputs delivery.packet delivery.answer

/-- The messages carry what a channel sealed, one after the other. The sender may take frames from
its queue in between. -/
inductive SealedBy (ext : Externals) : EncryptedChannel → List Delivery → Prop
  | none (sender : EncryptedChannel) : SealedBy ext sender []
  | taken (sender : EncryptedChannel) (deliveries : List Delivery)
      (rest : SealedBy ext sender.takePending.2 deliveries) : SealedBy ext sender deliveries
  | sent (sender next : EncryptedChannel) (delivery : Delivery) (deliveries : List Delivery)
      (sends : DataPlane.send ext defaultMaximumPayloadSize delivery.packet.payload sender =
        (.ok delivery.message.data.frame, next))
      (rest : SealedBy ext next deliveries) : SealedBy ext sender (delivery :: deliveries)

/-- A message arrives from the entry of the flow. -/
def arrival (ext : Externals) (delivery : Delivery) : Node.LoopEvent :=
  .network (.discoveryRequest flow.entryPeer (delivery.message.toJson ext).render delivery.channel)

/-- The relay takes the messages one after the other and hands on the payload of each. -/
def Accepts : List Delivery → Node → Prop
  | [], _ => True
  | delivery :: deliveries, node => ∃ next answer,
      Node.handle ext setup delivery.inputs (flow.arrival ext delivery) node = (.ok (), next) ∧
      next.effects = node.effects ++
        Node.dispatchOf delivery.message delivery.packet delivery.packet.payload :: answer ∧
      Accepts deliveries next

end Statement

/-- What the relay needs to take the message of a flow: the flow is new, the policy and, for a
datagram, the translation table have room for it, and an answer can be sent back. -/
structure CanAccept (ext : Externals) (flow : Flow) (node : Node) (receiver : EncryptedChannel)
    (delivery : Delivery) : Prop where
  unused : node.exitForwarding.lookup flow.forwardingId = none
  room : node.core.HasRoom flow.forwardingId
  translated : delivery.packet.protocol = .udp → Node.Translatable delivery.inputs node
  returned : ∀ response ∈ delivery.answer, delivery.inputs.channelOpen = true ∧
    DataPlane.CanSend ext receiver response

variable {setup : Setup ext} {flow : Flow} {node next : Node} {delivery : Delivery}

variable (node) in
/-- A message of the flow is handled on the exit side. -/
theorem handle_run (hparse : ext.ParsesJson) (hreads : ext.ReadsIdentities)
    (hsockets : ext.ReadsSockets) (hends : flow.EndsAt setup) (hsends : flow.Sends setup delivery) :
    ∃ state, Node.handle ext setup delivery.inputs (flow.arrival ext delivery) node =
      Node.exitForwarded ext setup delivery.inputs delivery.message flow.entryPeer flow.clientPeer
        delivery.channel { node with state } := by
  have hroute : delivery.message.route = .twoHop flow.entryPeer setup.peerId flow.exitAddress :=
    hsends.belongs.route
  have hentry : flow.entryPeer ≠ setup.peerId := hends.bindable.hops
  have hpeer : ext.parsePeer delivery.message.clientPeer = some flow.clientPeer :=
    hsends.belongs.clientPeer
  obtain ⟨state, hrun⟩ := Node.handle_discoveryRequest ext node setup delivery.inputs
    (delivery.message.toJson ext).render flow.entryPeer delivery.channel
  refine ⟨state, hrun.trans ?_⟩
  simp only [Node.handleRequest_run, Node.readRequest_forwarding hparse hreads hsockets,
    Node.handleForwarding_run, hsends.belongs.kind, Node.isClientProtocolRequest, Node.isExitOf,
    hroute, hentry, hends.role, hpeer]
  simp

/-- The context that a message of the flow makes. -/
theorem exitContext_eq (hsends : flow.Sends setup delivery) :
    Node.exitContext delivery.message flow.clientPeer = flow.context setup := by
  simp only [Node.exitContext, hsends.belongs.forwardingId, hsends.belongs.clientSessionId,
    hsends.belongs.route, hsends.session]
  rfl

theorem SealedBy.receives {sender receiver : EncryptedChannel} {deliveries : List Delivery}
    (hparse : ext.ParsesJson) (hcipher : ext.CipherOpens)
    (hlinked : DataPlane.Linked sender receiver)
    (hsealed : SealedBy ext sender (delivery :: deliveries)) :
    ∃ message opened, message.payload = delivery.packet.payload ∧ opened.state = .established ∧
      DataPlane.receive ext defaultMaximumPayloadSize ⟨dataPlaneKind, receiver.session.sessionId,
        delivery.message.data.frame⟩ receiver = (.ok message, opened) := by
  generalize hlist : delivery :: deliveries = sealed at hsealed
  induction hsealed with
  | none => cases hlist
  | taken sender _ _ ih => exact ih { hlinked with } hlist
  | sent sender next _ _ sends _ _ =>
      obtain ⟨rfl, rfl⟩ := List.cons.inj hlist
      exact hlinked.receives hparse hcipher sends

/-- An answer is sealed on the channel that opened the message. -/
theorem answers_iff (channel : ResponseChannel) {node : Node} {message : ForwardingMessage}
    {inputs : Inputs} {answer : Option Bytes} {receiver opened : EncryptedChannel}
    (hopened : node.channels.lookup message.data.sessionId = some opened)
    (hreceived : receiver.ReceivedOn opened) (hbefore : receiver.state = .established)
    (hafter : opened.state = .established) :
    (∃ final, Node.Answers ext inputs node message channel answer final) ↔
      ∀ response ∈ answer, inputs.channelOpen = true ∧
        DataPlane.CanSend ext receiver response := by
  cases answer with
  | none => simp [Node.Answers]
  | some response =>
      simp only [Node.Answers, Node.Seals, hopened, Option.some.injEq, exists_eq_left',
        Option.mem_some, forall_eq']
      rw [← DataPlane.canSend_of_receivedOn hreceived hbefore hafter, ← DataPlane.send_isOk,
        Fallible.isOk_iff]
      constructor
      · rintro ⟨_, frame, sealed, hsends, hchannel, _⟩
        exact ⟨hchannel, frame, sealed, hsends⟩
      · rintro ⟨hchannel, frame, sealed, hsends⟩
        exact ⟨_, frame, sealed, hsends, hchannel, rfl⟩

/-- The first message of a flow, while the exchange starts. -/
theorem takes_reached (hsound : Node.Sound setup node) (hsends : flow.Sends setup delivery)
    (opened : EncryptedChannel) (hunused : node.exitForwarding.lookup flow.forwardingId = none) :
    Node.Takes setup (node.reached delivery.message (flow.context setup) delivery.packet opened)
      delivery.message flow.entryPeer
      (Node.counted (flow.context setup) delivery.message delivery.packet) := by
  refine ⟨AList.lookup_insert _, hsound.handler, ⟨rfl, rfl, rfl, ?_⟩, ?_⟩
  · exact congrArg some hsends.session.symm
  · intro hhandled
    have hcounted := hsound.handled _ hhandled
    rw [hsends.belongs.forwardingId] at hcounted
    rw [show (flow.context setup).forwardingId = flow.forwardingId from rfl, hunused] at hcounted
    cases hcounted

/-- When the exit takes one message of a flow and hands its payload on. -/
theorem exitForwarded_iff {receiver opened : EncryptedChannel} {message : DataPlaneMessage}
    (hsound : Node.Sound setup node) (hends : flow.EndsAt setup)
    (hsends : flow.Sends setup delivery)
    (hreceiver : node.channels.lookup flow.relaySessionId = some receiver)
    (hreceives : DataPlane.receive ext defaultMaximumPayloadSize delivery.message.data receiver =
      (.ok message, opened))
    (hpayload : message.payload = delivery.packet.payload)
    (hbefore : receiver.state = .established) (hafter : opened.state = .established) :
    (∃ next answer, Node.exitForwarded ext setup delivery.inputs delivery.message flow.entryPeer
        flow.clientPeer delivery.channel node = (.ok (), next) ∧
      next.effects = node.effects ++
        Node.dispatchOf delivery.message delivery.packet delivery.packet.payload :: answer) ↔
      flow.CanAccept ext node receiver delivery := by
  have hreceived : receiver.ReceivedOn opened := DataPlane.receivedOn_of_receive hreceives
  have hopens : node.Opens ext delivery.message.data message opened :=
    ⟨receiver, by rw [hsends.session, hreceiver], hreceives⟩
  have hid : delivery.message.forwardingId = flow.forwardingId := hsends.belongs.forwardingId
  have hsize : delivery.packet.payload.length ≤ node.exitHandler.maximumPacketSize :=
    hsound.limit ▸ hsends.size
  let reached := node.reached delivery.message (flow.context setup) delivery.packet opened
  have hchannels : reached.channels.lookup delivery.message.data.sessionId = some opened :=
    AList.lookup_insert _
  let context := Node.counted (flow.context setup) delivery.message delivery.packet
  have hexchange := fun hunused => Node.exchange_answered
    (takes_reached hsound hsends opened hunused) hsize hsends.answered
  have htranslated : node.exitForwarding.lookup flow.forwardingId = none → ∀ called,
      ((∃ next, Node.Exchanged delivery.inputs reached delivery.message delivery.packet context
        called next) ↔
          (delivery.packet.protocol = .udp → Node.Translatable delivery.inputs reached)) :=
    fun hunused _ => Node.exists_exchanged hsends.belongs.carries.source hsound.nat
      (hid.symm ▸ hunused)
  -- Both directions meet where the payload is exchanged, in the state after it was opened.
  constructor
  · rintro ⟨_, _, hrun, _⟩
    obtain ⟨context, packet, message', opened', answer, next, hreaches, hexchanges, hanswers⟩ :=
      Node.exitForwarded_eq_ok.mp hrun
    obtain ⟨hunused, rfl⟩ := hsound.unused hreaches.held hreaches.admits
    obtain rfl := Option.some.inj (hsends.belongs.shown.symm.trans hreaches.admits.belongs.shown)
    -- The channel opens a frame in one way, so what the run opened is what is given here.
    obtain ⟨receiver', hreceiver', hreceives'⟩ := hreaches.opens
    rw [hsends.session, hreceiver] at hreceiver'
    obtain rfl := Option.some.inj hreceiver'
    obtain ⟨_, rfl⟩ := Prod.mk.inj (hreceives.symm.trans hreceives')
    rw [hid] at hunused
    rw [exitContext_eq hsends] at hexchanges
    obtain ⟨called, hexchange⟩ := hexchange hunused
    obtain ⟨rfl, hexchanged⟩ := (hexchange _ _).mp hexchanges
    refine ⟨hunused, hid ▸ hreaches.room, (htranslated hunused called).mp ⟨next, hexchanged⟩, ?_⟩
    exact (answers_iff _ (by rw [hexchanged.keeps.1]; exact hchannels) hreceived hbefore hafter).mp
      ⟨_, hanswers⟩
  · intro hcan
    obtain ⟨called, hexchange⟩ := hexchange hcan.unused
    obtain ⟨next, hexchanged⟩ := (htranslated hcan.unused called).mpr hcan.translated
    obtain ⟨final, hanswers⟩ := (answers_iff delivery.channel
      (by rw [hexchanged.keeps.1]; exact hchannels) hreceived hbefore hafter).mpr hcan.returned
    have hheld : Node.ContextOf node delivery.message flow.clientPeer (flow.context setup) := by
      rw [← exitContext_eq hsends]
      refine .made (hid.symm ▸ hcan.unused) ?_
      rw [hsends.belongs.route]
      exact hends.bindable
    have hadmits : Node.Admits ext (flow.context setup) delivery.message flow.entryPeer
        delivery.packet :=
      ⟨hsends.belongs, rfl, congrArg some hsends.session.symm,
        ⟨hsends.belongs.carries.sequence, nofun⟩, ⟨.inl rfl, nofun⟩⟩
    have hrun : Node.exitForwarded ext setup delivery.inputs delivery.message flow.entryPeer
        flow.clientPeer delivery.channel node = (.ok (), final) :=
      Node.exitForwarded_eq_ok.mpr ⟨_, _, _, _, _, _,
      ⟨hheld, hadmits, hopens, hpayload.symm, hid.symm ▸ hcan.room⟩,
      (hexchange _ _).mpr ⟨rfl, hexchanged⟩, hanswers⟩
    have heffects : next.effects = node.effects ++
        [Node.dispatchOf delivery.message delivery.packet delivery.packet.payload] :=
      hexchanged.keeps.2.2
    cases hanswer : delivery.answer with
    | none =>
        rw [hanswer] at hanswers
        obtain rfl : next = final := hanswers
        exact ⟨next, [], hrun, heffects⟩
    | some response =>
        rw [hanswer] at hanswers
        obtain ⟨frame, sealed, _, _, rfl⟩ := hanswers
        exact ⟨_, [.respond delivery.channel
          ((Node.exitResponse delivery.message frame).toJson ext).render], hrun,
          by simp [Node.withEffect, Node.withChannel, heffects]⟩

/-- What the exit keeps of a message that it took. -/
structure Kept (node next : Node) (message : ForwardingMessage) (context : ForwardingContext)
    (packet : ForwardedPacket) (opened : EncryptedChannel) : Prop where
  contexts : next.exitForwarding = node.exitForwarding.insert message.forwardingId
    (Node.counted context message packet)
  active : next.activeExitRelaySession = some message.data.sessionId
  core : next.core = node.core.withFlow message.forwardingId packet.payload.length
  others : ∀ sessionId ≠ message.data.sessionId,
    next.channels.lookup sessionId = node.channels.lookup sessionId
  served : (next.channels.lookup message.data.sessionId).isSome
  responder : next.sessionResponder = node.sessionResponder
  unanswered : packet.protocol = .ip → next.channels.lookup message.data.sessionId = some opened

theorem kept_of_exitForwarded {message : ForwardingMessage} {inputs : Inputs}
    {peerId clientPeer : PeerId} {channel : ResponseChannel}
    (hrun : Node.exitForwarded ext setup inputs message peerId clientPeer channel node =
      (.ok (), next)) : ∃ context packet opening opened,
    Node.Reaches ext node message peerId clientPeer context packet opening opened ∧
      Kept node next message context packet opened := by
  obtain ⟨context, packet, opening, opened, answer, middle, hreaches, hexchange, hanswers⟩ :=
    Node.exitForwarded_eq_ok.mp hrun
  refine ⟨context, packet, opening, opened, hreaches, ?_⟩
  have hip : packet.protocol = .ip → answer = none := by
    intro hprotocol
    simp only [Node.exchange, hprotocol, Fallible.bind_eq_ok] at hexchange
    obtain ⟨_, _, _, hnone⟩ := hexchange
    exact (Fallible.pure_eq_ok.mp hnone).1.symm
  obtain ⟨_, _, _, _, rfl, _⟩ := Node.exchange_ok hexchange
  have hothers : ∀ sessionId ≠ message.data.sessionId,
      (node.reached message context packet opened).channels.lookup sessionId =
        node.channels.lookup sessionId :=
    fun sessionId hother => AList.lookup_insert_ne hother
  cases answer with
  | none =>
      obtain rfl := hanswers
      exact ⟨rfl, rfl, rfl, hothers, isSome_lookup_insert (.inl rfl), rfl,
        fun _ => AList.lookup_insert _⟩
  | some response =>
      obtain ⟨frame, sealed, _, _, rfl⟩ := hanswers
      refine ⟨rfl, rfl, rfl, fun sessionId hother => ?_, isSome_lookup_insert (.inl rfl), rfl,
        fun hprotocol => by cases hip hprotocol⟩
      exact (AList.lookup_insert_ne hother).trans (hothers sessionId hother)

/-- A second message of a flow is never taken: the context has counted the forwarding id. -/
theorem not_accepts_second (hparse : ext.ParsesJson) (hreads : ext.ReadsIdentities)
    (hsockets : ext.ReadsSockets) (hreach : (Node.loop ext setup).Reachable node)
    (hends : flow.EndsAt setup) {first second : Delivery} {rest : List Delivery}
    (hfirst : flow.Sends setup first) (hsecond : flow.Sends setup second) :
    ¬ flow.Accepts setup (first :: second :: rest) node := by
  rintro ⟨next, _, hhandled, _, _, _, hagain, _⟩
  have hnext : Node.Sound setup next :=
    Node.sound_of_reachable (hreach.tail ⟨first.inputs, _, hhandled⟩)
  obtain ⟨_, hrun⟩ := handle_run node hparse hreads hsockets hends hfirst
  obtain ⟨_, _, _, _, _, hkept⟩ := kept_of_exitForwarded (hrun.symm.trans hhandled)
  have hknown : (next.exitForwarding.lookup first.message.forwardingId).isSome := by
    rw [hkept.contexts, AList.lookup_insert]
    rfl
  obtain ⟨state, hrun⟩ := handle_run next hparse hreads hsockets hends hsecond
  obtain ⟨_, _, _, _, _, _, hreaches, _⟩ :=
    Node.exitForwarded_eq_ok.mp (hrun.symm.trans hagain)
  have hnoted : Node.Sound setup { next with state } := { hnext with }
  have hunused := (hnoted.unused hreaches.held hreaches.admits).1
  rw [hfirst.belongs.forwardingId, ← hsecond.belongs.forwardingId, hunused] at hknown
  cases hknown

/-- The exit takes a list of messages of a flow exactly when there is at most one of them and it
is the first that the flow brings. -/
theorem accepts_iff (hparse : ext.ParsesJson) (hreads : ext.ReadsIdentities)
    (hsockets : ext.ReadsSockets) (hcipher : ext.CipherOpens)
    (hreach : (Node.loop ext setup).Reachable node) (hends : flow.EndsAt setup)
    {sender receiver : EncryptedChannel} {deliveries : List Delivery}
    (hreceiver : node.channels.lookup flow.relaySessionId = some receiver)
    (hlinked : DataPlane.Linked sender receiver)
    (hsends : ∀ delivery ∈ deliveries, flow.Sends setup delivery)
    (hsealed : SealedBy ext sender deliveries)
    (_hincreasing : (deliveries.map (fun delivery => delivery.packet.sequence)).Pairwise (· < ·)) :
    flow.Accepts setup deliveries node ↔ deliveries = [] ∨
      ∃ delivery, deliveries = [delivery] ∧ flow.CanAccept ext node receiver delivery := by
  have hsound := Node.sound_of_reachable hreach
  match deliveries with
  | [] => simp [Accepts]
  | [delivery] =>
      have hfirst := hsends delivery List.mem_cons_self
      obtain ⟨state, hrun⟩ := handle_run node hparse hreads hsockets hends hfirst
      obtain ⟨message, opened, hpayload, hafter, hreceives⟩ :=
        hsealed.receives hparse hcipher hlinked
      have hdata : (⟨dataPlaneKind, receiver.session.sessionId, delivery.message.data.frame⟩ :
          DataPlaneEnvelope) = delivery.message.data := by
        rw [hsound.channels _ _ hreceiver, ← hfirst.session, ← hfirst.belongs.dataKind]
      rw [hdata] at hreceives
      have hnoted : Node.Sound setup { node with state } := { hsound with }
      have hiff := exitForwarded_iff hnoted hends hfirst hreceiver hreceives hpayload
        hlinked.established hafter
      simp only [Accepts, hrun, and_true, reduceCtorEq, List.cons.injEq, exists_eq_left',
        false_or]
      refine hiff.trans ⟨fun hcan => { hcan with }, fun hcan => { hcan with }⟩
  | first :: second :: rest =>
      simp only [reduceCtorEq, List.cons.injEq, and_false, false_and, exists_false, or_false,
        iff_false]
      exact not_accepts_second hparse hreads hsockets hreach hends
        (hsends first List.mem_cons_self)
        (hsends second (List.mem_cons_of_mem _ List.mem_cons_self))

/-! ### A flow of two messages -/

section TwoMessages

open ReferenceRelay

noncomputable def exitRelay : Setup reference := ReferenceRelay.setup .exit (bounds 8 8 8)

/-- An entry has sessions with the exit. -/
def entryInitiator (index : UInt8) : SessionInitiator := initiator 1 index (.oneHop ⟨[2]⟩)

noncomputable def entryChannel (index : UInt8) : EncryptedChannel :=
  Node.freshChannel (deriveSession reference ⟨Vector.replicate 16 index⟩ ⟨[2]⟩ (.oneHop ⟨[2]⟩)
    .initiator (reference.diffieHellman (Vector.replicate 32 2) (Vector.replicate 32 1)) "1.0")

noncomputable def exitChannel (index : UInt8) : EncryptedChannel :=
  Node.freshChannel (Node.joinedSession reference (inputs 0) (entryInitiator index))

theorem linked (index : UInt8) : DataPlane.Linked (entryChannel index) (exitChannel index) where
  established := rfl
  session := rfl
  sessionId := rfl
  key := rfl
  version := rfl
  limit := Nat.le_refl _
  bounded := by show 4096 < 2 ^ 32; decide
  sequence := rfl
  nonce := nofun

theorem entry_joins {node : Node} (index : UInt8)
    (hreach : (Node.loop reference exitRelay).Reachable node)
    (hunseen : ⟨Vector.replicate 16 index⟩ ∉ node.sessionResponder.seenSessions)
    (htakes : node.core.TakesSession) :
    ∃ next, (Node.loop reference exitRelay).Reachable next ∧
      Node.Joined reference (inputs 0) (entryInitiator index) node next := by
  have hjoins : Node.Joins exitRelay node (inputs 0) (entryInitiator index) :=
    joins .exit (bounds 8 8 8) (Node.sound_of_reachable hreach).identity hunseen trivial
      (List.mem_singleton_self _) rfl
  obtain ⟨next, hrun, hjoined, _⟩ := hjoins.joined ⟨⟨[1]⟩, 0⟩ reference.parsesJson
    reference.readsIdentities reference.signaturesVerify htakes rfl rfl
  exact ⟨next, hreach.tail ⟨inputs 0, _, hrun⟩, hjoined⟩

theorem exitRelay_joined (index : UInt8) : ∃ node, (Node.loop reference exitRelay).Reachable node ∧
    Node.Joined reference (inputs 0) (entryInitiator index) (ready .exit (bounds 8 8 8)) node :=
  entry_joins _ (ready_reachable .exit (bounds 8 8 8)) (Finset.notMem_empty _) ⟨.inl rfl, by decide⟩

/-- A client behind the entry. -/
def clientFlow : Flow where
  forwardingId := ⟨Vector.replicate 16 6⟩
  clientSessionId := ⟨Vector.replicate 16 7⟩
  clientPeer := ⟨[3]⟩
  entryPeer := ⟨[1]⟩
  exitAddress := ""
  relaySessionId := ⟨Vector.replicate 16 5⟩

def clientPacket (sequence : UInt64) : ForwardedPacket where
  protocol := .tcp
  source := none
  destination := destination
  flowId := clientFlow.forwardingId
  sessionId := clientFlow.clientSessionId
  routeId := clientFlow.forwardingId
  sequence
  payload := [1]

noncomputable def clientDelivery (sequence : UInt64) (frame : Bytes) : Delivery where
  message := {
    kind := forwardingKind
    forwardingId := clientFlow.forwardingId
    clientSessionId := clientFlow.clientSessionId
    clientPeer := reference.peerText clientFlow.clientPeer
    route := clientFlow.route exitRelay
    data := ⟨dataPlaneKind, clientFlow.relaySessionId, frame⟩
    packet := some (clientPacket sequence) }
  packet := clientPacket sequence
  answer := some [9]
  channel := ⟨⟨[1]⟩, 1⟩
  inputs := inputs 0

theorem clientFlow_endsAt : clientFlow.EndsAt exitRelay where
  role := by simp [exitRelay, ReferenceRelay.setup, config]
  bindable := by
    refine ⟨⟨"", rfl⟩, ?_, ?_, ?_⟩ <;>
      simp [clientFlow, exitRelay, Setup.peerId, ReferenceRelay.setup, Externals.peerOf, reference]

theorem clientFlow_sends {sequence : UInt64} (hsequence : sequence ≠ 0) (frame : Bytes) :
    clientFlow.Sends exitRelay (clientDelivery sequence frame) where
  belongs := by
    refine ⟨rfl, rfl, rfl, reference.readsIdentities.peer _, rfl, rfl, rfl, rfl, rfl, rfl, ?_,
      hsequence, ?_, nofun⟩
    · show 1 ≤ 2048
      decide
    · show destination.port ≠ 0
      decide
  session := rfl
  size := by show 1 ≤ 1500; decide
  answered := by
    have hvalid : DestinationPolicy.validate reference ⟨[destination]⟩
        (reference.socketText destination) = .ok destination := by
      simp [DestinationPolicy.validate, parse_destination, bind, Except.bind, Check.failWhen,
        pure, Except.pure]
    let limits : TcpAdapterConfig :=
      ⟨1500, 1500, Node.exchangeTimeout, Node.exchangeTimeout, Node.exchangeTimeout⟩
    refine .tcp (reference.socketText destination) ⟨[destination]⟩ [9]
      ⟨(inputs 0).tcp, limits, false, []⟩ ⟨(inputs 0).tcp, limits, false, [[1]]⟩
      ⟨(inputs 0).tcp, limits, true, [[1]]⟩ [destination] rfl rfl
        (reference.readsSockets destination) rfl ?_ rfl
      rfl
    rw [TcpExitNetworkAdapter.connect, hvalid]
    rfl

theorem entryChannel_sends : ∃ first second next last,
    DataPlane.send reference defaultMaximumPayloadSize [1] (entryChannel 5) = (.ok first, next) ∧
      DataPlane.send reference defaultMaximumPayloadSize [1] next = (.ok second, last) := by
  have hfirst : (DataPlane.send reference defaultMaximumPayloadSize [1]
    (entryChannel 5)).1.IsOk := by
    decide +kernel
  have hsecond : (DataPlane.send reference defaultMaximumPayloadSize [1]
      (DataPlane.send reference defaultMaximumPayloadSize [1] (entryChannel 5)).2).1.IsOk := by
    decide +kernel
  obtain ⟨first, next, hfirst⟩ := Fallible.isOk_iff.mp hfirst
  rw [hfirst] at hsecond
  obtain ⟨second, last, hsecond⟩ := Fallible.isOk_iff.mp hsecond
  exact ⟨first, second, next, last, hfirst, hsecond⟩

/-- An exit that was joined by the entry can take the first message of a flow. -/
theorem exit_canAccept : ∃ node frame next, (Node.loop reference exitRelay).Reachable node ∧
    node.channels.lookup clientFlow.relaySessionId = some (exitChannel 5) ∧
    DataPlane.send reference defaultMaximumPayloadSize [1] (entryChannel 5) = (.ok frame, next) ∧
    clientFlow.CanAccept reference node (exitChannel 5) (clientDelivery 1 frame) ∧
    clientFlow.relaySessionId ∈ node.core.sessions := by
  obtain ⟨frame, _, next, _, hfirst, _⟩ := entryChannel_sends
  obtain ⟨node, hreach, hjoined⟩ := exitRelay_joined 5
  have hreceiver : node.channels.lookup clientFlow.relaySessionId = some (exitChannel 5) := by
    rw [hjoined.channels]
    exact AList.lookup_insert _
  have hanswer : (DataPlane.send reference defaultMaximumPayloadSize [9]
    (exitChannel 5)).1.IsOk := by
    decide +kernel
  refine ⟨node, frame, next, hreach, hreceiver, hfirst, ⟨?_, ?_, nofun, ?_⟩, ?_⟩
  · rw [hjoined.exits]
    rfl
  · rw [hjoined.core]
    exact .inr (by show 0 < 8; decide)
  · rintro response hresponse
    obtain rfl := Option.some.inj hresponse
    exact ⟨rfl, DataPlane.send_isOk.mp hanswer⟩
  · rw [hjoined.core]
    exact Finset.mem_insert_self _ _

/-- The first message of the flow is taken. -/
theorem exit_takes : ∃ node final frame, (Node.loop reference exitRelay).Reachable node ∧
    clientFlow.relaySessionId ∈ node.core.sessions ∧
    Node.handle reference exitRelay (inputs 0)
      (clientFlow.arrival reference (clientDelivery 1 frame)) node = (.ok (), final) ∧
    ∃ state, Node.exitForwarded reference exitRelay (inputs 0) (clientDelivery 1 frame).message
      clientFlow.entryPeer clientFlow.clientPeer ⟨⟨[1]⟩, 1⟩ { node with state } =
        (.ok (), final) := by
  obtain ⟨node, frame, sealed, hreach, hreceiver, hfirst, hcan, hsession⟩ := exit_canAccept
  have hsends := clientFlow_sends (by decide : (1 : UInt64) ≠ 0) frame
  obtain ⟨state, hhandle⟩ := handle_run node reference.parsesJson reference.readsIdentities
    reference.readsSockets clientFlow_endsAt hsends
  obtain ⟨message, opened, hpayload, hafter, hreceives⟩ :=
    (linked 5).receives reference.parsesJson reference.cipherOpens hfirst
  have hnoted : Node.Sound exitRelay { node with state } := { Node.sound_of_reachable hreach with }
  obtain ⟨final, _, hrun, _⟩ := (exitForwarded_iff hnoted clientFlow_endsAt hsends hreceiver
    hreceives hpayload rfl hafter).mpr { hcan with }
  exact ⟨node, final, frame, hreach, hsession, hhandle.trans hrun, state, hrun⟩

/-- The exit can have a session with an entry, its channel and a flow on it. -/
theorem exit_carries : ∃ node, (Node.loop reference exitRelay).Reachable node ∧
    clientFlow.relaySessionId ∈ node.core.sessions ∧
    (node.channels.lookup clientFlow.relaySessionId).isSome ∧
    clientFlow.forwardingId ∈ node.core.flows := by
  obtain ⟨node, final, frame, hreach, hsession, hhandle, state, hrun⟩ := exit_takes
  obtain ⟨_, packet, _, _, _, hkept⟩ := kept_of_exitForwarded hrun
  have hsessions : final.core.sessions = node.core.sessions := by
    rw [hkept.core, RelayCore.withFlow]
    split_ifs <;> rfl
  refine ⟨final, hreach.tail ⟨inputs 0, _, hhandle⟩, hsessions ▸ hsession, hkept.served, ?_⟩
  rw [hkept.core, RelayCore.withFlow]
  split_ifs with hknown
  · exact hknown
  · exact Finset.mem_insert_self _ _

/-- The exit takes the first message of a flow. -/
theorem accepts_first : ∃ node frame,
    clientFlow.Accepts exitRelay [clientDelivery 1 frame] node := by
  obtain ⟨node, frame, next, hreach, hreceiver, hfirst, hcan, -⟩ := exit_canAccept
  have hsends : ∀ delivery ∈ [clientDelivery 1 frame], clientFlow.Sends exitRelay delivery := by
    rintro delivery hdelivery
    obtain rfl := List.mem_singleton.mp hdelivery
    exact clientFlow_sends (by decide) frame
  have hsealed : SealedBy reference (entryChannel 5) [clientDelivery 1 frame] :=
    .sent _ next _ _ hfirst (.none _)
  have hiff := accepts_iff reference.parsesJson reference.readsIdentities reference.readsSockets
    reference.cipherOpens hreach clientFlow_endsAt hreceiver (linked 5) hsends hsealed (by simp)
  exact ⟨node, frame, hiff.mpr (.inr ⟨_, rfl, hcan⟩)⟩

/-- Two messages of one flow that are all they should be are not both taken. -/
theorem not_accepts_both :
    ¬ ∀ (flow : Flow) (node : Node) (sender receiver : EncryptedChannel)
      (deliveries : List Delivery), (Node.loop reference exitRelay).Reachable node →
      flow.EndsAt exitRelay → node.channels.lookup flow.relaySessionId = some receiver →
      DataPlane.Linked sender receiver → (∀ delivery ∈ deliveries, flow.Sends exitRelay delivery) →
      SealedBy reference sender deliveries →
      (deliveries.map (fun delivery => delivery.packet.sequence)).Pairwise (· < ·) →
      flow.Accepts exitRelay deliveries node := by
  intro haccepts
  obtain ⟨first, second, next, last, hfirst, hsecond⟩ := entryChannel_sends
  obtain ⟨node, hreach, hjoined⟩ := exitRelay_joined 5
  have hreceiver : node.channels.lookup clientFlow.relaySessionId = some (exitChannel 5) := by
    rw [hjoined.channels]
    exact AList.lookup_insert _
  have hsends : ∀ delivery ∈ [clientDelivery 1 first, clientDelivery 2 second],
      clientFlow.Sends exitRelay delivery := by
    simp only [List.mem_cons, List.not_mem_nil, or_false, forall_eq_or_imp, forall_eq]
    exact ⟨clientFlow_sends (by decide) first, clientFlow_sends (by decide) second⟩
  have hsealed : SealedBy reference (entryChannel 5)
      [clientDelivery 1 first, clientDelivery 2 second] :=
    .sent _ next _ _ hfirst (.sent _ last _ _ hsecond (.none _))
  have hincreasing : ([clientDelivery 1 first, clientDelivery 2 second].map
      (fun delivery => delivery.packet.sequence)).Pairwise (· < ·) := by
    simp [clientDelivery, clientPacket]
  exact not_accepts_second reference.parsesJson reference.readsIdentities reference.readsSockets
    hreach clientFlow_endsAt (clientFlow_sends (by decide) first)
    (clientFlow_sends (by decide) second)
      (haccepts clientFlow node (entryChannel 5) (exitChannel 5) _
      hreach clientFlow_endsAt hreceiver (linked 5) hsends hsealed hincreasing)

end TwoMessages

end Flow

end Relay
