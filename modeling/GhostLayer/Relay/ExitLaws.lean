import GhostLayer.Foundation.Frames
import GhostLayer.Relay.NodeLaws

/-! # What the exit side of a relay does

When a message of an entry is admitted, opened, exchanged with its destination
and answered, and what each part leaves behind. A payload is handed to an exit
path at most once while a message is handled, also where the exchange fails.
-/

namespace Relay

open Foundation Network

variable {ext : Externals}

/-! ## Adapters and the packet handler -/

theorem TcpExitNetworkAdapter.exchange_handed (payload : Bytes)
    (adapter : TcpExitNetworkAdapter) :
    (exchange payload adapter).2.handed = adapter.handed ++ [payload] := by
  have hsend : ∀ adapter : TcpExitNetworkAdapter, (send payload adapter).2 = adapter := by
    intro adapter
    simp only [send, Fallible.get_bind_run, Fallible.failWhen_bind_run]
    split_ifs
    · rfl
    · rfl
    · cases adapter.stream.write <;> rfl
  have hreceive : ∀ adapter : TcpExitNetworkAdapter, (receive adapter).2 = adapter := by
    intro adapter
    simp only [receive, Fallible.get_bind_run, Fallible.failWhen_bind_run]
    split_ifs
    · rfl
    · cases adapter.stream.read with
      | error reason => rfl
      | ok available =>
          simp only [Except.mapError, Fallible.ofExcept_ok, Fallible.pure_bind_run,
            Fallible.failWhen_bind_run]
          split_ifs <;> rfl
  rw [exchange, Fallible.modify_bind_run, Fallible.bind_run]
  rcases hrun : send payload { adapter with handed := adapter.handed ++ [payload] } with
    ⟨_ | _ | _, next⟩
  all_goals
    have hnext := hsend { adapter with handed := adapter.handed ++ [payload] }
    rw [hrun] at hnext
    obtain rfl : next = { adapter with handed := adapter.handed ++ [payload] } := hnext
  · simp only [hreceive]
  · rfl
  · rfl

namespace ExitPacketHandler

variable {handler final : ExitPacketHandler} {context : ForwardingContext}
  {binding : ExitForwardingBinding} {packetId : SessionId} {payload : Bytes} {result : Unit}

/-- A context that counts a request now, with the peers and the session of a binding. -/
structure Bound (context : ForwardingContext) (binding : ExitForwardingBinding) : Prop where
  state : context.state = .forwarding
  entry : binding.entryPeer = context.entryPeer
  exit : binding.exitPeer = context.exitPeer
  session : context.relaySessionId = some binding.relaySessionId

theorem validateBinding_eq_ok :
    validateBinding context binding handler = (.ok result, final) ↔
      handler.closed = false ∧ Bound context binding ∧ handler = final := by
  simp only [validateBinding, Fallible.get_bind_run, Fallible.bind_eq_ok, Fallible.failWhen_eq_ok,
    Fallible.ofExcept_eq_ok, Check.mapError_eq_ok, ForwardingContext.validateEntry_eq_ok,
    ForwardingContext.validateExit_eq_ok, ForwardingContext.validateRelaySession_eq_ok, not_not]
  constructor
  · rintro ⟨_, _, ⟨hclosed, rfl⟩, _, _, ⟨hstate, rfl⟩, _, _, ⟨hentry, rfl⟩, _, _, ⟨hexit, rfl⟩,
      hsession, rfl⟩
    exact ⟨Bool.eq_false_iff.mpr hclosed, ⟨hstate, hentry, hexit, hsession⟩, rfl⟩
  · rintro ⟨hclosed, hbound, rfl⟩
    exact ⟨(), _, ⟨Bool.eq_false_iff.mp hclosed, rfl⟩, (), _, ⟨hbound.state, rfl⟩, (), _,
      ⟨hbound.entry, rfl⟩, (), _, ⟨hbound.exit, rfl⟩, hbound.session, rfl⟩

/-- The handler after it let a packet id through. -/
def marked (handler : ExitPacketHandler) (packetId : SessionId) : ExitPacketHandler :=
  { handler with handledPackets := insert packetId handler.handledPackets }

theorem markHandled_eq_ok :
    markHandled packetId handler = (.ok result, final) ↔
      packetId ∉ handler.handledPackets ∧ handler.marked packetId = final := by
  simp only [markHandled, Fallible.get_bind_run, Fallible.bind_eq_ok, Fallible.failWhen_eq_ok,
    Fallible.modify_eq_ok]
  constructor
  · rintro ⟨_, _, ⟨hfresh, rfl⟩, rfl⟩
    exact ⟨hfresh, rfl⟩
  · rintro ⟨hfresh, rfl⟩
    exact ⟨(), handler, ⟨hfresh, rfl⟩, rfl⟩

/-- The handler takes a packet id for a binding of its context. -/
structure Takes (handler : ExitPacketHandler) (packetId : SessionId) (context : ForwardingContext)
    (binding : ExitForwardingBinding) : Prop where
  opened : handler.closed = false
  bound : Bound context binding
  fresh : packetId ∉ handler.handledPackets

theorem validateBoundPayload_eq_ok :
    validateBoundPayload packetId payload context binding handler = (.ok result, final) ↔
      handler.Takes packetId context binding ∧ payload.length ≤ handler.maximumPacketSize ∧
        handler.marked packetId = final := by
  simp only [validateBoundPayload, Fallible.bind_eq_ok, validateBinding_eq_ok, Fallible.get_eq_ok,
    Fallible.failWhen_eq_ok, markHandled_eq_ok, not_lt]
  constructor
  · rintro ⟨_, _, ⟨hclosed, hbound, rfl⟩, _, _, ⟨rfl, rfl⟩, _, _, ⟨hsize, rfl⟩, hfresh, rfl⟩
    exact ⟨⟨hclosed, hbound, hfresh⟩, hsize, rfl⟩
  · rintro ⟨htakes, hsize, rfl⟩
    exact ⟨(), handler, ⟨htakes.opened, htakes.bound, rfl⟩, handler, handler, ⟨rfl, rfl⟩, (),
      handler, ⟨hsize, rfl⟩, htakes.fresh, rfl⟩

theorem handleBoundWithAdapterPayload_eq_ok {adapter : TcpExitNetworkAdapter} {response : Bytes}
    {next : ExitPacketHandler × TcpExitNetworkAdapter} :
    handleBoundWithAdapterPayload packetId payload context binding (handler, adapter) =
        (.ok response, next) ↔
      handler.Takes packetId context binding ∧ ∃ used,
        TcpExitNetworkAdapter.exchange payload adapter = (.ok response, used) ∧
        (handler.marked packetId, used) = next := by
  simp only [handleBoundWithAdapterPayload, Fallible.bind_eq_ok, Fallible.zoom_eq_ok,
    validateBinding_eq_ok, markHandled_eq_ok, Fallible.mapError_eq_ok]
  constructor
  · rintro ⟨_, _, ⟨_, ⟨hclosed, hbound, rfl⟩, rfl⟩, _, _, ⟨_, ⟨hfresh, rfl⟩, rfl⟩, used, hexchange,
      rfl⟩
    exact ⟨⟨hclosed, hbound, hfresh⟩, used, hexchange, rfl⟩
  · rintro ⟨htakes, used, hexchange, rfl⟩
    exact ⟨(), _, ⟨_, ⟨htakes.opened, htakes.bound, rfl⟩, rfl⟩, (), _,
      ⟨_, ⟨htakes.fresh, rfl⟩, rfl⟩, used, hexchange, rfl⟩

end ExitPacketHandler

/-! ## Admission -/

namespace Node

variable {node final : Node} {result : Unit} {setup : Setup ext} {inputs : Inputs}
  {forwarded : ForwardingMessage} {peerId clientPeer : PeerId} {packet : ForwardedPacket}
  {payload : Bytes}

/-- The context that the first message under a forwarding id makes. -/
def exitContext (forwarded : ForwardingMessage) (clientPeer : PeerId) : ForwardingContext :=
  .bound forwarded.forwardingId forwarded.clientSessionId clientPeer
    (routeEnds clientPeer forwarded.route).1 (routeEnds clientPeer forwarded.route).2
    forwarded.route forwarded.data.sessionId

/-- The context of a message: the one in the table, or the one it makes. -/
inductive ContextOf (node : Node) (forwarded : ForwardingMessage) (clientPeer : PeerId) :
    ForwardingContext → Prop
  | known (context : ForwardingContext) :
      node.exitForwarding.lookup forwarded.forwardingId = some context →
      ContextOf node forwarded clientPeer context
  | made : node.exitForwarding.lookup forwarded.forwardingId = none →
      ForwardingContext.Bindable forwarded.route clientPeer
        (routeEnds clientPeer forwarded.route).1 (routeEnds clientPeer forwarded.route).2 →
      ContextOf node forwarded clientPeer (exitContext forwarded clientPeer)

/-- What a message must be for the exit to count it. -/
structure Admits (ext : Externals) (context : ForwardingContext) (forwarded : ForwardingMessage)
    (peerId : PeerId) (packet : ForwardedPacket) : Prop where
  belongs : context.Matches ext forwarded packet
  entry : peerId = context.entryPeer
  session : context.relaySessionId = some forwarded.data.sessionId
  sequence : context.NextSequence packet.sequence
  «begin» : context.CanBegin forwarded.forwardingId .clientToExit

/-- The context after it counted a message. -/
def counted (context : ForwardingContext) (forwarded : ForwardingMessage)
    (packet : ForwardedPacket) : ForwardingContext :=
  ForwardingContext.begun { context with lastSequence := some packet.sequence }
    forwarded.forwardingId .clientToExit

/-- The loop after the exit counted a message. -/
def countedIn (node : Node) (context : ForwardingContext) (forwarded : ForwardingMessage)
    (packet : ForwardedPacket) : Node :=
  { node with
    exitForwarding := node.exitForwarding.insert forwarded.forwardingId
      (counted context forwarded packet)
    activeExitRelaySession := some forwarded.data.sessionId }

theorem openExitContext_eq_ok :
    openExitContext forwarded clientPeer node = (.ok result, final) ↔
      ∃ context, ContextOf node forwarded clientPeer context ∧
        (if (node.exitForwarding.lookup forwarded.forwardingId).isSome then node
          else node.withExitContext forwarded.forwardingId context) = final := by
  simp only [openExitContext, Fallible.get_bind_run]
  cases hlookup : node.exitForwarding.lookup forwarded.forwardingId with
  | some context =>
      simp only [Option.isSome_some, ↓reduceIte, Fallible.pure_eq_ok]
      constructor
      · rintro ⟨_, rfl⟩
        exact ⟨context, .known context hlookup, rfl⟩
      · rintro ⟨_, _, rfl⟩
        exact ⟨trivial, rfl⟩
  | none =>
      simp only [Option.isSome_none, Bool.false_eq_true, ↓reduceIte, Fallible.bind_eq_ok,
        Fallible.ofExcept_eq_ok, Check.mapError_eq_ok, ForwardingContext.withForwardingId_eq_ok,
        Fallible.modify_eq_ok]
      constructor
      · rintro ⟨_, _, ⟨⟨hbindable, rfl⟩, rfl⟩, ⟨_, context⟩, _, hconnect, rfl⟩
        obtain ⟨hcontext, rfl⟩ := Fallible.locally_eq_ok.mp hconnect
        obtain rfl := ForwardingContext.connect_eq_ok.mp (Fallible.mapError_eq_ok.mp hcontext)
        exact ⟨_, .made hlookup hbindable, rfl⟩
      · rintro ⟨context, hcontext, rfl⟩
        cases hcontext with
        | known _ hknown => rw [hknown] at hlookup; cases hlookup
        | made _ hbindable =>
            refine ⟨_, _, ⟨⟨hbindable, rfl⟩, rfl⟩, ((), exitContext forwarded clientPeer), _,
              Fallible.locally_eq_ok.mpr ⟨Fallible.mapError_eq_ok.mpr ?_, rfl⟩, rfl⟩
            exact ForwardingContext.connect_eq_ok.mpr rfl

theorem admitForwarded_eq_ok :
    admitForwarded ext forwarded peerId node = (.ok packet, final) ↔
      ∃ context, node.exitForwarding.lookup forwarded.forwardingId = some context ∧
        Admits ext context forwarded peerId packet ∧
        node.countedIn context forwarded packet = final := by
  simp only [admitForwarded, Fallible.bind_eq_ok, onExitContext_eq_ok, Fallible.get_bind_run,
    Fallible.ofExcept_eq_ok, Check.mapError_eq_ok, ForwardingContext.validateMessage_eq_ok,
    ForwardingContext.validateEntry_eq_ok, ForwardingContext.validateRelaySession_eq_ok,
    Fallible.modify_eq_ok, Fallible.orPanic_eq_ok, Fallible.mapError_eq_ok,
    ForwardingContext.acceptSequence_eq_ok, ForwardingContext.beginForwarding_eq_ok,
    Fallible.pure_eq_ok]
  constructor
  · rintro ⟨_, _, ⟨context, _, hcontext, ⟨_, _, ⟨⟨shown, hmatches⟩, rfl⟩, hentry, rfl⟩, rfl⟩, _, _,
      rfl, _, _, ⟨second, _, hsecond, ⟨hsession, rfl⟩, rfl⟩, _, _, ⟨hpacket, rfl⟩, _, _,
      ⟨third, _, hthird, ⟨_, _, ⟨hsequence, rfl⟩, hbegin, rfl⟩, rfl⟩, rfl, rfl⟩
    simp only [withExitContext, AList.lookup_insert, Option.some.injEq] at hsecond hthird
    subst hsecond hthird
    obtain rfl := Option.some.inj (hpacket.symm.trans hmatches.shown)
    refine ⟨context, hcontext, ⟨hmatches, hentry, hsession, hsequence,
      ⟨hbegin.state, hbegin.fresh⟩⟩, ?_⟩
    simp only [countedIn, withExitContext, AList.insert_insert]
    rfl
  · rintro ⟨context, hcontext, hadmits, rfl⟩
    refine ⟨(), _, ⟨context, context, hcontext, ⟨(), context, ⟨⟨packet, hadmits.belongs⟩, rfl⟩,
      hadmits.entry, rfl⟩, rfl⟩, (), _, rfl, (), _,
      ⟨context, context, by simp [withExitContext], ⟨hadmits.session, rfl⟩, rfl⟩, packet, _,
      ⟨hadmits.belongs.shown, rfl⟩, (), _, ⟨context, _, by simp [withExitContext],
      ⟨(), _, ⟨hadmits.sequence, rfl⟩, ⟨hadmits.begin.state, hadmits.begin.fresh⟩, rfl⟩, rfl⟩,
      rfl, ?_⟩
    simp only [countedIn, withExitContext, AList.insert_insert]
    rfl

/-- A message is counted in the context it finds or makes. -/
theorem openExitContext_admitForwarded {next : Node} :
    (∃ middle, openExitContext forwarded clientPeer node = (.ok result, middle) ∧
        admitForwarded ext forwarded peerId middle = (.ok packet, next)) ↔
      ∃ context, ContextOf node forwarded clientPeer context ∧
        Admits ext context forwarded peerId packet ∧
        node.countedIn context forwarded packet = next := by
  simp only [openExitContext_eq_ok, admitForwarded_eq_ok]
  constructor
  · rintro ⟨_, ⟨context, hcontext, rfl⟩, found, hfound, hadmits, rfl⟩
    cases hcontext with
    | known _ hknown =>
        simp only [hknown, Option.isSome_some, ↓reduceIte, Option.some.injEq] at hfound ⊢
        subst hfound
        exact ⟨context, .known context hknown, hadmits, rfl⟩
    | made hnone hbindable =>
        simp only [hnone, Option.isSome_none, Bool.false_eq_true, ↓reduceIte, withExitContext,
          AList.lookup_insert, Option.some.injEq] at hfound ⊢
        subst hfound
        exact ⟨_, .made hnone hbindable, hadmits, by simp only [countedIn, AList.insert_insert]⟩
  · rintro ⟨context, hcontext, hadmits, rfl⟩
    refine ⟨_, ⟨context, hcontext, rfl⟩, context, ?_, hadmits, ?_⟩
    · cases hcontext with
      | known _ hknown => simp [hknown]
      | made hnone _ => simp [hnone, withExitContext]
    · cases hcontext with
      | known _ hknown => simp [hknown]
      | made hnone _ => simp [hnone, withExitContext, countedIn, AList.insert_insert]

/-- The loop after the exit opened the payload of a message. -/
def openedIn (node : Node) (forwarded : ForwardingMessage) (opened : EncryptedChannel)
    (payload : Bytes) : Node :=
  { node with
    channels := node.channels.insert forwarded.data.sessionId opened
    core := node.core.withFlow forwarded.forwardingId payload.length }

theorem openForwarded_eq_ok :
    openForwarded ext forwarded packet node = (.ok payload, final) ↔
      packet.payload = payload ∧ node.core.HasRoom forwarded.forwardingId ∧
        ∃ message opened, message.payload = payload ∧
          node.Opens ext forwarded.data message opened ∧
          node.openedIn forwarded opened payload = final := by
  simp only [openForwarded, Fallible.bind_eq_ok, receiveOn_eq_ok, Fallible.failWhen_eq_ok,
    admitFlow_eq_ok, Fallible.pure_eq_ok, not_not, ne_eq]
  constructor
  · rintro ⟨message, _, ⟨opened, hopens, rfl⟩, _, _, ⟨hpayload, rfl⟩, _, _, ⟨hroom, rfl⟩, rfl, rfl⟩
    exact ⟨hpayload, hroom, message, opened, rfl, hopens, rfl⟩
  · rintro ⟨hpayload, hroom, message, opened, rfl, hopens, rfl⟩
    exact ⟨message, _, ⟨opened, hopens, rfl⟩, (), _, ⟨hpayload, rfl⟩, (), _, ⟨hroom, rfl⟩, rfl,
      rfl⟩

/-! ## Exchanges -/

/-- The handler of the exit takes a message for the context it has. -/
def Takes (setup : Setup ext) (node : Node) (forwarded : ForwardingMessage) (peerId : PeerId)
    (context : ForwardingContext) : Prop :=
  node.exitForwarding.lookup forwarded.forwardingId = some context ∧
    node.exitHandler.Takes forwarded.forwardingId context (bindingOf ext setup forwarded peerId)

/-- The loop after the handler took a message and its payload was handed to an exit path. -/
def handedOn (node : Node) (forwarded : ForwardingMessage) (packet : ForwardedPacket)
    (payload : Bytes) : Node :=
  { node with
    exitHandler := node.exitHandler.marked forwarded.forwardingId
    effects := node.effects ++ [dispatchOf forwarded packet payload] }

theorem validatePayload_eq_ok {text : String} {context : ForwardingContext} :
    validatePayload ext setup forwarded peerId payload text node = (.ok context, final) ↔
      Takes setup node forwarded peerId context ∧
        payload.length ≤ node.exitHandler.maximumPacketSize ∧
        { node with exitHandler := node.exitHandler.marked forwarded.forwardingId } = final := by
  simp only [validatePayload, Fallible.get_bind_run, Fallible.bind_eq_ok, Fallible.orPanic_eq_ok,
    Fallible.zoom_eq_ok, Fallible.mapError_eq_ok, ExitPacketHandler.validateBoundPayload_eq_ok,
    Fallible.pure_eq_ok, Takes]
  constructor
  · rintro ⟨_, _, ⟨hcontext, rfl⟩, _, _, ⟨_, ⟨htakes, hsize, rfl⟩, rfl⟩, rfl, rfl⟩
    exact ⟨⟨hcontext, htakes⟩, hsize, rfl⟩
  · rintro ⟨⟨hcontext, htakes⟩, hsize, rfl⟩
    exact ⟨context, node, ⟨hcontext, rfl⟩, (), _, ⟨_, ⟨htakes, hsize, rfl⟩, rfl⟩, rfl, rfl⟩

theorem onNat_eq_ok {α : Type} {text : String} {routine : Fallible NatTable NatError α}
    {value : α} :
    onNat text routine node = (.ok value, final) ↔
      ∃ table next, node.udpNat = some table ∧ routine table = (.ok value, next) ∧
        { node with udpNat := some next } = final := by
  unfold onNat
  cases node.udpNat with
  | none => simp
  | some table =>
      rcases hrun : routine table with ⟨_ | _ | _, next⟩ <;> simp [Fallible.mapError, hrun]

/-! ## Sockets -/

theorem TcpExitNetworkAdapter.connect_appends {destination : String} {policy : DestinationPolicy}
    {config : TcpAdapterConfig} {stream : TcpSocket} :
    Fallible.Appends (TcpExitNetworkAdapter.connect ext destination policy config stream) := by
  unfold TcpExitNetworkAdapter.connect
  exact .bind (.of_ignores .ofExcept) fun _ => .bind (.of_ignores .ofExcept) fun _ =>
    .bind (.modify _) fun _ => .of_ignores <| .bind .ofExcept fun _ => .bind .ofExcept fun _ =>
      .bind .ofExcept fun _ => .pure _

theorem UdpExitNetworkAdapter.connect_appends {destination : String} {policy : DestinationPolicy}
    {maximumDatagramSize timeout : Nat} {socket : UdpSocket} :
    Fallible.Appends (UdpExitNetworkAdapter.connect ext destination policy maximumDatagramSize
      timeout socket) := by
  unfold UdpExitNetworkAdapter.connect
  exact .bind (.of_ignores .failWhen) fun _ => .bind (.of_ignores .ofExcept) fun _ =>
    .bind (.of_ignores .ofExcept) fun _ => .bind (.modify _) fun _ => .of_ignores <|
      .bind .ofExcept fun _ => .bind .ofExcept fun _ => .bind .ofExcept fun _ => .pure _

theorem u16At_ignores {σ : Type} {packet : Bytes} {index : Nat} :
    Fallible.Ignores (u16At packet index : Fallible σ DnsError UInt16) :=
  .bind .orPanic fun _ => .bind .orPanic fun _ => .pure _

theorem skipLabels_ignores {σ : Type} {packet : Bytes} (fuel index : Nat) :
    Fallible.Ignores (skipLabels packet fuel index : Fallible σ DnsError Nat) := by
  induction fuel generalizing index with
  | zero => exact .pure _
  | succ fuel ih =>
      unfold skipLabels
      split
      · exact .pure _
      · split
        · exact .pure _
        · exact .bind .failWhen fun _ => ih _

theorem DnsQuery.parse_ignores {σ : Type} {packet : Bytes} {maximumSize : Nat} :
    Fallible.Ignores (DnsQuery.parse packet maximumSize : Fallible σ DnsError DnsQuery) := by
  unfold DnsQuery.parse
  refine .bind .failWhen fun _ => .bind .failWhen fun _ => .bind .orPanic fun _ =>
    .bind .orPanic fun _ => .bind .orPanic fun _ => .bind .failWhen fun _ =>
    .bind (skipLabels_ignores _ _) fun _ => .bind .failWhen fun _ => .bind u16At_ignores fun _ =>
    ?_
  dsimp only
  split_ifs
  · exact .bind (.pure _) fun _ => .bind u16At_ignores fun _ => .pure _
  · exact .bind (.pure _) fun _ => .bind u16At_ignores fun _ => .pure _
  · exact .bind (.throw _) fun _ => .bind u16At_ignores fun _ => .pure _

theorem UdpDnsResolver.exchange_ignores {σ : Type} {resolver : UdpDnsResolver}
    {socket : UdpSocket} {query : DnsQuery} :
    Fallible.Ignores (resolver.exchange socket query : Fallible σ DnsError Bytes) := by
  unfold UdpDnsResolver.exchange
  refine .bind .ofExcept fun _ => .bind .ofExcept fun _ => .bind .failWhen fun _ =>
    .bind .failWhen fun _ => .bind u16At_ignores fun _ => .bind .failWhen fun _ =>
    .bind .orPanic fun _ => .bind .failWhen fun _ => .bind .orPanic fun _ => ?_
  dsimp only
  split_ifs
  · exact .pure _
  · exact .throw _
  · exact .throw _

theorem UdpDnsResolver.resolvePacket_appends {resolver : UdpDnsResolver} {socket : UdpSocket}
    {request : Bytes} : Fallible.Appends (resolver.resolvePacket socket request) := by
  unfold UdpDnsResolver.resolvePacket
  exact .bind (.of_ignores .failWhen) fun _ => .bind (.of_ignores DnsQuery.parse_ignores) fun _ =>
    .bind (.of_ignores .ofExcept) fun _ => .bind (.of_ignores .ofExcept) fun _ =>
    .bind (.of_ignores .ofExcept) fun _ => .bind (.modify _) fun _ =>
    .of_ignores UdpDnsResolver.exchange_ignores

theorem onSockets_eq_ok {ε α : Type} {convert : ε → RelayError}
    {routine : Fallible (List SocketAddr) ε α} {value : α}
    (happends : Fallible.Appends routine) :
    onSockets convert routine node = (.ok value, final) ↔ ∃ called,
      routine [] = (.ok value, called) ∧
        { node with contacted := node.contacted ++ called } = final := by
  rw [onSockets, Fallible.zoom_eq_ok]
  simp only [Fallible.mapError_eq_ok, happends node.contacted]
  rcases hrun : routine [] with ⟨_ | _ | _, called⟩ <;> simp

/-- A datagram exchange: the flow gets a port, the destination answers, and the answer finds the
flow again. -/
theorem exchangeUdp_eq_ok {response : Bytes} :
    exchangeUdp ext setup inputs forwarded peerId packet payload node = (.ok response, final) ↔
      ∃ context source table mapping created policy adapter called closed reverse kept,
        setup.config.udpEnabled = true ∧ Takes setup node forwarded peerId context ∧
        payload.length ≤ node.exitHandler.maximumPacketSize ∧ packet.source = some source ∧
        node.udpNat = some table ∧
        NatTable.create inputs.natNow inputs.natStamp (flowKeyOf forwarded packet source context)
          table = (.ok mapping, created) ∧
        setup.destinationPolicy = some policy ∧
        UdpExitNetworkAdapter.connect ext (ext.socketText packet.destination) policy
          setup.config.tun.maximumPacketSize exchangeTimeout inputs.udp [] =
            (.ok adapter, called) ∧
        adapter.exchange payload = .ok response ∧
        UdpExitNetworkAdapter.close adapter = (.ok (), closed) ∧
        NatTable.lookupReverse inputs.natReturn mapping.translated
          (flowKeyOf forwarded packet source context) created = (.ok reverse, kept) ∧
        { node.handedOn forwarded packet payload with
          udpNat := some kept
          contacted := node.contacted ++ called } = final := by
  simp only [exchangeUdp, onSockets_eq_ok UdpExitNetworkAdapter.connect_appends,
    Fallible.bind_eq_ok, Fallible.failWhen_eq_ok, validatePayload_eq_ok,
    Fallible.orPanic_eq_ok, onNat_eq_ok, Fallible.orThrow_eq_ok, Fallible.ofExcept_eq_ok,
    Check.mapError_eq_ok, emit, Fallible.modify_eq_ok, Fallible.pure_eq_ok, not_not]
  constructor
  · rintro ⟨_, _, ⟨henabled, rfl⟩, context, _, ⟨htakes, hsize, rfl⟩, source, _, ⟨hsource, rfl⟩,
      mapping, _, ⟨table, created, htable, hcreate, rfl⟩, policy, _, ⟨hpolicy, rfl⟩, adapter, _,
      ⟨called, hadapter, rfl⟩, _, _, rfl, _, _, ⟨hexchange, rfl⟩, ⟨_, closed⟩, _, hlocal, reverse,
      _, ⟨_, kept, htable', hreverse, rfl⟩, rfl, rfl⟩
    obtain ⟨hclose, rfl⟩ := Fallible.locally_eq_ok.mp hlocal
    obtain rfl := Option.some.inj htable'
    exact ⟨context, source, table, mapping, created, policy, adapter, called, closed, reverse, kept,
      henabled, htakes, hsize, hsource, htable, hcreate, hpolicy, hadapter, hexchange,
      Fallible.mapError_eq_ok.mp hclose, hreverse, rfl⟩
  · rintro ⟨context, source, table, mapping, created, policy, adapter,
      called, closed, reverse, kept,
      henabled, htakes, hsize, hsource, htable, hcreate, hpolicy, hadapter, hexchange, hclose,
      hreverse, rfl⟩
    exact ⟨(), node, ⟨henabled, rfl⟩, context, _, ⟨htakes, hsize, rfl⟩, source, _, ⟨hsource, rfl⟩,
      mapping, _, ⟨table, created, htable, hcreate, rfl⟩, policy, _, ⟨hpolicy, rfl⟩, adapter, _,
      ⟨called, hadapter, rfl⟩, (), _, rfl, response, _, ⟨hexchange, rfl⟩, ((), closed), _,
      Fallible.locally_eq_ok.mpr ⟨Fallible.mapError_eq_ok.mpr hclose, rfl⟩, reverse, _,
      ⟨created, kept, rfl, hreverse, rfl⟩, rfl, rfl⟩

/-- A query is put to the configured server. -/
theorem exchangeDns_eq_ok {response : Bytes} :
    exchangeDns ext setup inputs forwarded peerId packet payload node = (.ok response, final) ↔
      ∃ context configured resolver called, setup.config.dnsEnabled = true ∧
        setup.config.dnsServer = some configured ∧
        ext.parseSocket configured = some packet.destination ∧
        Takes setup node forwarded peerId context ∧
        payload.length ≤ node.exitHandler.maximumPacketSize ∧
        UdpDnsResolver.new packet.destination ⟨setup.config.tun.maximumPacketSize,
          setup.config.tun.maximumPacketSize, setup.config.dnsTimeout⟩ true = .ok resolver ∧
        resolver.resolvePacket inputs.dns payload [] = (.ok response, called) ∧
        { node.handedOn forwarded packet payload with
          contacted := node.contacted ++ called } = final := by
  simp only [exchangeDns, onSockets_eq_ok UdpDnsResolver.resolvePacket_appends, Fallible.bind_eq_ok,
    Fallible.failWhen_eq_ok, validatePayload_eq_ok, Fallible.orThrow_eq_ok, Fallible.ofExcept_eq_ok,
    Check.mapError_eq_ok, emit, Fallible.modify_eq_ok, not_not, ne_eq]
  constructor
  · rintro ⟨_, _, ⟨henabled, rfl⟩, configured, _, ⟨hconfigured, rfl⟩, _, _, ⟨hserver, rfl⟩, _, _,
      ⟨rfl, rfl⟩, context, _, ⟨htakes, hsize, rfl⟩, resolver, _, ⟨hresolver, rfl⟩, _, _, rfl,
      called, hresolve, rfl⟩
    exact ⟨context, configured, resolver, called, henabled, hconfigured, hserver, htakes, hsize,
      hresolver, hresolve, rfl⟩
  · rintro ⟨context, configured, resolver, called, henabled, hconfigured, hserver, htakes, hsize,
      hresolver, hresolve, rfl⟩
    exact ⟨(), node, ⟨henabled, rfl⟩, configured, _, ⟨hconfigured, rfl⟩, _, _, ⟨hserver, rfl⟩, (),
      _, ⟨rfl, rfl⟩, context, _, ⟨htakes, hsize, rfl⟩, resolver, _, ⟨hresolver, rfl⟩, (), _, rfl,
      called, hresolve, rfl⟩

theorem driveAdapter_eq_ok {adapter used : TcpExitNetworkAdapter} {response : Bytes}
    (hfresh : adapter.handed = []) :
    driveAdapter ext setup forwarded peerId packet payload adapter node =
        (.ok (response, used), final) ↔
      ∃ context, Takes setup node forwarded peerId context ∧
        TcpExitNetworkAdapter.exchange payload adapter = (.ok response, used) ∧
        node.handedOn forwarded packet payload = final := by
  unfold driveAdapter Takes
  cases node.exitForwarding.lookup forwarded.forwardingId with
  | none => simp
  | some context =>
      have hhanded := TcpExitNetworkAdapter.exchange_handed payload adapter
      rcases hrun : ExitPacketHandler.handleBoundWithAdapterPayload forwarded.forwardingId payload
        context (bindingOf ext setup forwarded peerId) (node.exitHandler, adapter) with
        ⟨answer | reason | _, next⟩
      · obtain ⟨htakes, used', hexchange, rfl⟩ :=
          ExitPacketHandler.handleBoundWithAdapterPayload_eq_ok.mp hrun
        have hused : used'.handed = [payload] := by simpa [hexchange, hfresh] using hhanded
        simp only [hrun, hused, List.map_cons, List.map_nil, Prod.mk.injEq, Outcome.ok.injEq,
          Option.some.injEq, hexchange]
        constructor
        · rintro ⟨⟨rfl, rfl⟩, rfl⟩
          exact ⟨context, ⟨rfl, htakes⟩, ⟨rfl, rfl⟩, rfl⟩
        · rintro ⟨_, _, ⟨rfl, rfl⟩, rfl⟩
          exact ⟨⟨rfl, rfl⟩, rfl⟩
      all_goals
        simp only [hrun, Prod.mk.injEq, reduceCtorEq, false_and, false_iff]
        rintro ⟨_, ⟨hsame, htakes⟩, hexchange, _⟩
        obtain rfl := Option.some.inj hsame
        have hok := ExitPacketHandler.handleBoundWithAdapterPayload_eq_ok.mpr
          ⟨htakes, used, hexchange, rfl⟩
        rw [hrun] at hok
        cases hok

theorem TcpExitNetworkAdapter.connect_handed {destination : String} {policy : DestinationPolicy}
    {config : TcpAdapterConfig} {stream : TcpSocket} {adapter : TcpExitNetworkAdapter}
    {before after : List SocketAddr}
    (hconnect : TcpExitNetworkAdapter.connect ext destination policy config stream before =
      (.ok adapter, after)) :
    adapter.handed = [] := by
  simp only [TcpExitNetworkAdapter.connect, Fallible.bind_eq_ok, Fallible.pure_eq_ok] at hconnect
  obtain ⟨_, _, _, _, _, _, _, _, _, _, _, _, _, _, _, _, _, _, rfl, _⟩ := hconnect
  rfl

/-- A stream exchange with the configured destination. -/
theorem exchangeTcp_eq_ok {response : Bytes} :
    exchangeTcp ext setup inputs forwarded peerId packet payload node = (.ok response, final) ↔
      ∃ context destination policy adapter called used closed,
        setup.config.externalTestDestination = some destination ∧
        ext.parseSocket destination = some packet.destination ∧
        setup.destinationPolicy = some policy ∧
        TcpExitNetworkAdapter.connect ext destination policy
          ⟨setup.config.tun.maximumPacketSize, setup.config.tun.maximumPacketSize,
            exchangeTimeout, exchangeTimeout, exchangeTimeout⟩ inputs.tcp [] =
            (.ok adapter, called) ∧
        Takes setup node forwarded peerId context ∧
        TcpExitNetworkAdapter.exchange payload adapter = (.ok response, used) ∧
        TcpExitNetworkAdapter.close used = (.ok (), closed) ∧
        { node.handedOn forwarded packet payload with
          contacted := node.contacted ++ called } = final := by
  simp only [exchangeTcp, onSockets_eq_ok TcpExitNetworkAdapter.connect_appends,
    Fallible.bind_eq_ok,
    Fallible.failWhen_eq_ok, Fallible.orThrow_eq_ok, Fallible.pure_eq_ok, not_not, ne_eq]
  constructor
  · rintro ⟨destination, _, ⟨hdestination, rfl⟩, _, _, ⟨hparse, rfl⟩, _, _, ⟨rfl, rfl⟩, policy, _,
      ⟨hpolicy, rfl⟩, adapter, _, ⟨called, hadapter, rfl⟩, ⟨_, used⟩, _, hdrive, ⟨_, closed⟩, _,
      hlocal, rfl, rfl⟩
    obtain ⟨context, htakes, hexchange, rfl⟩ :=
      (driveAdapter_eq_ok (TcpExitNetworkAdapter.connect_handed hadapter)).mp hdrive
    obtain ⟨hclose, rfl⟩ := Fallible.locally_eq_ok.mp hlocal
    exact ⟨context, destination, policy, adapter, called, used, closed,
      hdestination, hparse, hpolicy,
      hadapter, htakes, hexchange, Fallible.mapError_eq_ok.mp hclose, rfl⟩
  · rintro ⟨context, destination, policy, adapter, called, used, closed, hdestination, hparse,
      hpolicy, hadapter, htakes, hexchange, hclose, rfl⟩
    have hfresh := TcpExitNetworkAdapter.connect_handed hadapter
    have hdrive : driveAdapter ext setup forwarded peerId packet payload adapter
        { node with contacted := node.contacted ++ called } = (.ok (response, used), _) :=
      (driveAdapter_eq_ok hfresh).mpr ⟨context, htakes, hexchange, rfl⟩
    exact ⟨destination, node, ⟨hdestination, rfl⟩, _, _, ⟨hparse, rfl⟩, (), _, ⟨rfl, rfl⟩, policy,
      _, ⟨hpolicy, rfl⟩, adapter, _, ⟨called, hadapter, rfl⟩, (response, used),
        _, hdrive, ((), closed), _,
      Fallible.locally_eq_ok.mpr ⟨Fallible.mapError_eq_ok.mpr hclose, rfl⟩, rfl, rfl⟩

/-! ## Effects of an exchange -/

theorem onNat_keeps {α : Type} {text : String} {routine : Fallible NatTable NatError α} :
    Fallible.Keeps Node.effects (onNat text routine) := by
  intro node
  simp only [onNat]
  split <;> rfl

theorem validatePayload_keeps {text : String} :
    Fallible.Keeps Node.effects (validatePayload ext setup forwarded peerId payload text) := by
  unfold validatePayload
  exact .bind .get fun _ => .bind .orPanic fun _ =>
    .bind (.zoom fun _ _ => rfl) fun _ => .pure _

theorem onSockets_keeps {ε α : Type} {convert : ε → RelayError}
    {routine : Fallible (List SocketAddr) ε α} :
    Fallible.Keeps Node.effects (onSockets convert routine) := .zoom fun _ _ => rfl

theorem exchangeUdp_adds :
    Fallible.Adds Node.effects (dispatchOf forwarded packet payload)
      (exchangeUdp ext setup inputs forwarded peerId packet payload) := by
  unfold exchangeUdp
  refine .after .failWhen fun _ => .after validatePayload_keeps fun _ => .after .orPanic fun _ =>
    .after onNat_keeps fun _ => .after .orThrow fun _ => .after onSockets_keeps fun _ =>
    .before (.modify fun _ => rfl) fun _ => ?_
  exact .bind .ofExcept fun _ => .bind .locally fun _ => .bind onNat_keeps fun _ => .pure _

theorem exchangeDns_adds :
    Fallible.Adds Node.effects (dispatchOf forwarded packet payload)
      (exchangeDns ext setup inputs forwarded peerId packet payload) := by
  unfold exchangeDns
  refine .after .failWhen fun _ => .after .orThrow fun _ => .after .orThrow fun _ =>
    .after .failWhen fun _ => .after validatePayload_keeps fun _ => .after .ofExcept fun _ =>
    .before (.modify fun _ => rfl) fun _ => onSockets_keeps

theorem handleBoundWithAdapterPayload_handed (packetId : SessionId) (payload : Bytes)
    (context : ForwardingContext) (binding : ExitForwardingBinding) (handler : ExitPacketHandler)
    (adapter : TcpExitNetworkAdapter) :
    (ExitPacketHandler.handleBoundWithAdapterPayload packetId payload context binding
        (handler, adapter)).2.2.handed = adapter.handed ∨
      (ExitPacketHandler.handleBoundWithAdapterPayload packetId payload context binding
        (handler, adapter)).2.2.handed = adapter.handed ++ [payload] := by
  have hadds : Fallible.Adds (fun both : ExitPacketHandler × TcpExitNetworkAdapter =>
      both.2.handed) payload (ExitPacketHandler.handleBoundWithAdapterPayload packetId payload
        context binding) := by
    unfold ExitPacketHandler.handleBoundWithAdapterPayload
    refine .after (.zoom fun _ _ => rfl) fun _ => .after (.zoom fun _ _ => rfl) fun _ => ?_
    intro both
    refine .inr ?_
    have hexchange := TcpExitNetworkAdapter.exchange_handed payload both.2
    rcases hrun : TcpExitNetworkAdapter.exchange payload both.2 with ⟨_ | _ | _, next⟩ <;>
      simpa [Fallible.zoom, Fallible.mapError, hrun] using hexchange
  exact hadds (handler, adapter)

theorem driveAdapter_adds {adapter : TcpExitNetworkAdapter} (hfresh : adapter.handed = []) :
    Fallible.Adds Node.effects (dispatchOf forwarded packet payload)
      (driveAdapter ext setup forwarded peerId packet payload adapter) := by
  intro node
  unfold driveAdapter
  cases node.exitForwarding.lookup forwarded.forwardingId with
  | none => exact .inl rfl
  | some context =>
      have hhanded := handleBoundWithAdapterPayload_handed forwarded.forwardingId payload context
        (bindingOf ext setup forwarded peerId) node.exitHandler adapter
      rcases hrun : ExitPacketHandler.handleBoundWithAdapterPayload forwarded.forwardingId payload
        context (bindingOf ext setup forwarded peerId) (node.exitHandler, adapter) with
        ⟨_ | _ | _, next⟩ <;>
      · rw [hrun, hfresh] at hhanded
        rcases hhanded with hnone | hone
        · exact .inl (by simp [hrun, show next.2.handed = [] from hnone])
        · exact .inr (by simp [hrun, show next.2.handed = [payload] from hone])

theorem exchangeTcp_adds :
    Fallible.Adds Node.effects (dispatchOf forwarded packet payload)
      (exchangeTcp ext setup inputs forwarded peerId packet payload) := by
  unfold exchangeTcp
  refine .after .orThrow fun _ => .after .orThrow fun _ => .after .failWhen fun _ =>
    .after .orThrow fun policy node => ?_
  rcases onSockets_keeps.bind_cases _ node with hkept | ⟨adapter, next, hconnect, hnext, hrun⟩
  · exact .inl hkept
  · rw [hrun, ← hnext]
    obtain ⟨_, hconnect, _⟩ := (onSockets_eq_ok TcpExitNetworkAdapter.connect_appends).mp hconnect
    have hfresh := TcpExitNetworkAdapter.connect_handed hconnect
    exact Fallible.Adds.before (driveAdapter_adds hfresh)
      (fun (_, _) => .bind .locally fun _ => .pure _) next

theorem exchange_adds :
    Fallible.Adds Node.effects (dispatchOf forwarded packet payload)
      (exchange ext setup inputs forwarded peerId packet payload) := by
  unfold exchange
  cases packet.protocol with
  | udp => exact .before exchangeUdp_adds fun _ => .pure _
  | dns => exact .before exchangeDns_adds fun _ => .pure _
  | tcp => exact .before exchangeTcp_adds fun _ => .pure _
  | ip =>
      refine .before ?_ fun _ => .pure _
      unfold writeTun
      split
      · exact .modify fun _ => rfl
      · exact .of_keeps (.pure _)

/-! ## The whole path -/

/-- The answer of an exit: the message it answers, with its own data. -/
def exitResponse (forwarded : ForwardingMessage) (frame : Bytes) : ForwardingMessage :=
  { forwarded with
    kind := forwardingKind
    data := ⟨dataPlaneKind, forwarded.data.sessionId, frame⟩ }

theorem answerForwarded_eq_ok {channel : ResponseChannel} {response : Bytes} :
    answerForwarded ext inputs forwarded channel response node = (.ok result, final) ↔
      ∃ frame sealed, node.Seals ext forwarded.data.sessionId response frame sealed ∧
        inputs.channelOpen = true ∧
        (node.withChannel forwarded.data.sessionId sealed).withEffect
          (.respond channel ((exitResponse forwarded frame).toJson ext).render) = final := by
  simp only [answerForwarded, Fallible.bind_eq_ok, sendOn_eq_ok, respond_eq_ok, exitResponse]
  constructor
  · rintro ⟨frame, _, ⟨sealed, hseals, rfl⟩, hopen, rfl⟩
    exact ⟨frame, sealed, hseals, hopen, rfl⟩
  · rintro ⟨frame, sealed, hseals, hopen, rfl⟩
    exact ⟨frame, _, ⟨sealed, hseals, rfl⟩, hopen, rfl⟩

/-- What a message must be for its payload to reach an exit path. -/
structure Reaches (ext : Externals) (node : Node) (forwarded : ForwardingMessage)
    (peerId clientPeer : PeerId) (context : ForwardingContext) (packet : ForwardedPacket)
    (message : DataPlaneMessage) (opened : EncryptedChannel) : Prop where
  held : ContextOf node forwarded clientPeer context
  admits : Admits ext context forwarded peerId packet
  opens : node.Opens ext forwarded.data message opened
  payload : packet.payload = message.payload
  room : node.core.HasRoom forwarded.forwardingId

/-- The loop when the exchange starts. -/
def reached (node : Node) (forwarded : ForwardingMessage) (context : ForwardingContext)
    (packet : ForwardedPacket) (opened : EncryptedChannel) : Node :=
  (node.countedIn context forwarded packet).openedIn forwarded opened packet.payload

/-- The message is answered, if its exchange brought an answer. -/
def Answers (ext : Externals) (inputs : Inputs) (node : Node) (forwarded : ForwardingMessage)
    (channel : ResponseChannel) : Option Bytes → Node → Prop
  | none, final => node = final
  | some response, final => ∃ frame sealed,
      node.Seals ext forwarded.data.sessionId response frame sealed ∧
      inputs.channelOpen = true ∧
      (node.withChannel forwarded.data.sessionId sealed).withEffect
        (.respond channel ((exitResponse forwarded frame).toJson ext).render) = final

theorem exitForwarded_eq_ok {channel : ResponseChannel} :
    exitForwarded ext setup inputs forwarded peerId clientPeer channel node =
        (.ok result, final) ↔
      ∃ context packet message opened answer next,
        Reaches ext node forwarded peerId clientPeer context packet message opened ∧
        exchange ext setup inputs forwarded peerId packet packet.payload
          (node.reached forwarded context packet opened) = (.ok answer, next) ∧
        Answers ext inputs next forwarded channel answer final := by
  unfold exitForwarded
  simp only [Fallible.bind_eq_ok, openForwarded_eq_ok]
  constructor
  · rintro ⟨_, middle, hopen, packet, _, hadmit, payload, _, ⟨rfl, hroom, message, opened,
      hpayload, hopens, rfl⟩, answer, next, hexchange, hanswer⟩
    obtain ⟨context, hcontext, hadmits, rfl⟩ :=
      openExitContext_admitForwarded.mp ⟨middle, hopen, hadmit⟩
    refine ⟨context, packet, message, opened, answer, next,
      ⟨hcontext, hadmits, hopens, hpayload.symm, hroom⟩, hexchange, ?_⟩
    cases answer with
    | none => exact (Fallible.pure_eq_ok.mp hanswer).2
    | some response => exact answerForwarded_eq_ok.mp hanswer
  · rintro ⟨context, packet, message, opened, answer, next, hreaches, hexchange, hanswer⟩
    obtain ⟨middle, hopen, hadmit⟩ : ∃ middle,
        openExitContext forwarded clientPeer node = (.ok (), middle) ∧ _ :=
      openExitContext_admitForwarded.mpr ⟨context, hreaches.held, hreaches.admits, rfl⟩
    refine ⟨(), middle, hopen, packet, _, hadmit, packet.payload, _, ⟨rfl, hreaches.room, message,
      opened, hreaches.payload.symm, hreaches.opens, rfl⟩, answer, next, hexchange, ?_⟩
    cases answer with
    | none => exact Fallible.pure_eq_ok.mpr ⟨rfl, hanswer⟩
    | some response => exact answerForwarded_eq_ok.mpr hanswer

theorem openExitContext_keeps : Fallible.Keeps Node.effects
    (openExitContext forwarded clientPeer) := by
  unfold openExitContext
  refine .bind .get fun node => ?_
  split
  · exact .pure _
  · exact .bind .ofExcept fun _ => .bind .locally fun (_, _) => .modify fun _ => rfl

theorem onExitContext_keeps {forwardingId : SessionId}
    {routine : Fallible ForwardingContext RelayError Unit} :
    Fallible.Keeps Node.effects (onExitContext forwardingId routine) := by
  intro node
  simp only [onExitContext]
  split <;> rfl

theorem onChannel_keeps {α : Type} {sessionId : SessionId} {missing : String}
    {routine : Fallible EncryptedChannel RelayError α} :
    Fallible.Keeps Node.effects (onChannel sessionId missing routine) := by
  intro node
  simp only [onChannel]
  split <;> rfl

theorem admitForwarded_keeps :
    Fallible.Keeps Node.effects (admitForwarded ext forwarded peerId) := by
  unfold admitForwarded
  exact .bind onExitContext_keeps fun _ => .bind (.modify fun _ => rfl) fun _ =>
    .bind onExitContext_keeps fun _ => .bind .orPanic fun _ =>
    .bind onExitContext_keeps fun _ => .pure _

theorem admitFlow_keeps {flow : SessionId} {bytes : Nat} :
    Fallible.Keeps Node.effects (admitFlow flow bytes) := by
  unfold admitFlow
  refine .bind (.attempt (.zoom fun _ _ => rfl)) fun outcome => ?_
  cases outcome with
  | ok _ => exact .pure _
  | error reason => exact .bind (.modify fun _ => rfl) fun _ => .throw _

theorem openForwarded_keeps : Fallible.Keeps Node.effects (openForwarded ext forwarded packet) := by
  unfold openForwarded
  exact .bind onChannel_keeps fun _ => .bind .failWhen fun _ => .bind admitFlow_keeps fun _ =>
    .pure _

theorem respond_keepsOnFailure {channel : ResponseChannel} {bytes : Bytes} :
    Fallible.KeepsOnFailure Node.effects (respond inputs channel bytes) := by
  unfold respond
  exact .bind .failWhen fun _ => .modify

/-- A message that ends the loop leaves at most one payload handed on, and then it had reached an
exit path. -/
theorem exitForwarded_fails {channel : ResponseChannel}
    (hfails : ¬ (exitForwarded ext setup inputs forwarded peerId clientPeer channel node).1.IsOk) :
    (exitForwarded ext setup inputs forwarded peerId clientPeer channel node).2.effects =
        node.effects ∨
      ∃ context packet message opened,
        Reaches ext node forwarded peerId clientPeer context packet message opened ∧
        (exitForwarded ext setup inputs forwarded peerId clientPeer channel node).2.effects =
          node.effects ++ [dispatchOf forwarded packet packet.payload] := by
  unfold exitForwarded at hfails ⊢
  rcases openExitContext_keeps.bind_cases _ node with hkept | ⟨_, middle, hopen, hmiddle, hrun⟩
  · exact .inl hkept
  rw [hrun] at hfails ⊢
  rw [← hmiddle]
  rcases admitForwarded_keeps.bind_cases _ middle with hkept | ⟨packet, next, hadmit, hnext, hrun⟩
  · exact .inl hkept
  rw [hrun] at hfails ⊢
  obtain ⟨context, hcontext, hadmits, rfl⟩ :=
    openExitContext_admitForwarded.mp ⟨middle, hopen, hadmit⟩
  rw [← hnext]
  rcases openForwarded_keeps.bind_cases _ (node.countedIn context forwarded packet) with
    hkept | ⟨payload, reached, hpayload, hreached, hrun⟩
  · exact .inl hkept
  rw [hrun] at hfails ⊢
  obtain ⟨rfl, hroom, message, opened, hsame, hopens, rfl⟩ := openForwarded_eq_ok.mp hpayload
  -- From here on only the exchange adds to the effects.
  rw [← hreached]
  have hadds : Fallible.Adds Node.effects (dispatchOf forwarded packet packet.payload)
      (exchange ext setup inputs forwarded peerId packet packet.payload) := exchange_adds
  refine ((hadds.then_keepsOnFailure fun answer => ?_) _ hfails).imp_right fun hadded => ?_
  · cases answer with
    | none => exact .of_keeps (.pure _)
    | some response => exact .bind onChannel_keeps fun _ => respond_keepsOnFailure
  exact ⟨context, packet, message, opened, ⟨hcontext, hadmits, hopens, hsame.symm, hroom⟩, hadded⟩

end Node

end Relay
