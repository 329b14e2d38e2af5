import GhostLayer.Foundation.Operations
import GhostLayer.Network.Reference
import GhostLayer.Relay.ExitLaws

/-! # The handler of exit packets over any adapter

Four ways to hand a packet to the handler, with an adapter of any type or
without one, and a queue of responses. They share one set of packet ids and one
sequence of checks. What an adapter was asked to exchange is told by an adapter
that writes it down.
-/

namespace Relay

open Foundation Network

/-! ## Adapters -/

class ExitNetworkAdapter (A : Type) where
  send : Bytes → Fallible A ExitNetworkError Unit
  receive : Fallible A ExitNetworkError Bytes
  close : Fallible A ExitNetworkError Unit
  exchange : Bytes → Fallible A ExitNetworkError Bytes := fun payload => do
    send payload
    receive

instance : ExitNetworkAdapter TcpExitNetworkAdapter where
  send := TcpExitNetworkAdapter.send
  receive := TcpExitNetworkAdapter.receive
  close := TcpExitNetworkAdapter.close
  exchange := TcpExitNetworkAdapter.exchange

instance : ExitNetworkAdapter UdpExitNetworkAdapter where
  send payload := do
    let adapter ← Fallible.get
    Fallible.ofExcept (adapter.send payload)
  receive := do
    let adapter ← Fallible.get
    Fallible.ofExcept adapter.receive
  close := UdpExitNetworkAdapter.close

/-- An adapter that writes down the payloads it is asked to exchange. -/
structure ObservedAdapter (A : Type) where
  adapter : A
  exchanged : List Bytes

namespace ObservedAdapter

variable {A : Type}

def within {α : Type} (routine : Fallible A ExitNetworkError α) :
    Fallible (ObservedAdapter A) ExitNetworkError α :=
  Fallible.zoom ObservedAdapter.adapter (fun adapter observed => { observed with adapter }) routine

instance [ExitNetworkAdapter A] : ExitNetworkAdapter (ObservedAdapter A) where
  send payload := within (ExitNetworkAdapter.send payload)
  receive := within ExitNetworkAdapter.receive
  close := within ExitNetworkAdapter.close
  exchange payload := do
    Fallible.modify fun observed => { observed with exchanged := observed.exchanged ++ [payload] }
    within (ExitNetworkAdapter.exchange payload)

end ObservedAdapter

namespace ExitPacketHandler

/-! ## The calls of the handler -/

def ensureOpen : Fallible ExitPacketHandler ExitPacketHandlerError Unit := do
  let handler ← Fallible.get
  Fallible.failWhen handler.closed .closed

def validatePacket (packet : NetworkPacket) :
    Fallible ExitPacketHandler ExitPacketHandlerError NetworkPacket := do
  let handler ← Fallible.get
  Fallible.ofExcept
    ((NetworkPacket.new packet.bytes handler.maximumPacketSize handler.mtu).mapError .invalidPacket)

def enqueueResponse (packet : NetworkPacket) :
    Fallible ExitPacketHandler ExitPacketHandlerError Unit := do
  ensureOpen
  let packet ← validatePacket packet
  let handler ← Fallible.get
  Fallible.failWhen (handler.pendingResponses.length ≥ handler.maximumPendingResponses) .queueFull
  Fallible.modify fun handler =>
    { handler with pendingResponses := handler.pendingResponses ++ [packet] }

/-- The newest response leaves the queue. -/
def pop : Fallible ExitPacketHandler ExitPacketHandlerError (Option NetworkPacket) := do
  let handler ← Fallible.get
  Fallible.modify fun handler =>
    { handler with pendingResponses := handler.pendingResponses.dropLast }
  return handler.pendingResponses.getLast?

def takeResponse : Fallible ExitPacketHandler ExitPacketHandlerError (Option NetworkPacket) := do
  ensureOpen
  pop

def close : Fallible ExitPacketHandler ExitPacketHandlerError Unit := do
  ensureOpen
  Fallible.modify fun handler =>
    { handler with closed := true, pendingResponses := [], handledPackets := ∅ }

def handle (packet : NetworkPacket) :
    Fallible ExitPacketHandler ExitPacketHandlerError NetworkPacket := do
  ensureOpen
  let packet ← validatePacket packet
  enqueueResponse packet
  let response ← pop
  Fallible.orThrow response .shutdown

def handleBound (packetId : SessionId) (packet : NetworkPacket) (context : ForwardingContext)
    (relaySessionId : SessionId) (entryPeer exitPeer : PeerId) :
    Fallible ExitPacketHandler ExitPacketHandlerError NetworkPacket := do
  validateBinding context { relaySessionId, entryPeer, exitPeer }
  markHandled packetId
  handle packet

end ExitPacketHandler

namespace ExitNetworkAdapter

open ExitPacketHandler (validateBinding markHandled enqueueResponse pop)

variable {A : Type}

/-- A call of the handler's own. -/
def onHandler {α : Type} (routine : Fallible ExitPacketHandler ExitPacketHandlerError α) :
    Fallible (ExitPacketHandler × A) ExitPacketHandlerError α :=
  Fallible.zoom Prod.fst (fun handler both => (handler, both.2)) routine

variable [ExitNetworkAdapter A]

def exchanging (payload : Bytes) : Fallible (ExitPacketHandler × A) ExitPacketHandlerError Bytes :=
  Fallible.zoom Prod.snd (fun adapter both => (both.1, adapter))
    (Fallible.mapError .network (exchange payload))

def handleBoundWithAdapter (packetId : SessionId) (packet : NetworkPacket)
    (context : ForwardingContext) (binding : ExitForwardingBinding) :
    Fallible (ExitPacketHandler × A) ExitPacketHandlerError NetworkPacket := do
  onHandler (validateBinding context binding)
  onHandler (markHandled packetId)
  let response ← exchanging packet.bytes
  let both ← Fallible.get
  let response ← Fallible.ofExcept
    ((NetworkPacket.new response both.1.maximumPacketSize both.1.mtu).mapError .invalidPacket)
  onHandler (enqueueResponse response)
  let response ← onHandler pop
  Fallible.orThrow response .shutdown

def handleBoundWithAdapterPayload (packetId : SessionId) (payload : Bytes)
    (context : ForwardingContext) (binding : ExitForwardingBinding) :
    Fallible (ExitPacketHandler × A) ExitPacketHandlerError Bytes := do
  onHandler (validateBinding context binding)
  onHandler (markHandled packetId)
  exchanging payload

/-- The TCP exchange of the relay is this one. -/
theorem handleBoundWithAdapterPayload_tcp :
    handleBoundWithAdapterPayload (A := TcpExitNetworkAdapter) =
      ExitPacketHandler.handleBoundWithAdapterPayload := rfl

end ExitNetworkAdapter

/-! ## Refusals -/

/-- The reasons of closure, state, peer, session and duplication. -/
def ExitPacketHandlerError.refuses : ExitPacketHandlerError → Bool
  | .closed | .invalidForwardingState | .wrongEntry | .wrongExit | .invalidSession | .invalidRoute
  | .duplicatePacket => true
  | .queueFull | .invalidPacket _ | .shutdown | .network _ => false

namespace ExitPacketHandler

variable {σ α β : Type} {handler : ExitPacketHandler} {context : ForwardingContext}
  {binding : ExitForwardingBinding} {packetId : SessionId} {packet : NetworkPacket}

def refused : Outcome ExitPacketHandlerError α → Bool
  | .error reason => reason.refuses
  | .ok _ | .panic => false

theorem mapContextError_refuses (reason : ForwardingError) :
    (mapContextError reason).refuses = true := by
  cases reason <;> rfl

/-- A routine that either passes or refuses, and changes nothing. -/
def Checks (routine : Fallible σ ExitPacketHandlerError α) : Prop :=
  ∀ state, (routine state).2 = state ∧
    ((routine state).1.IsOk ∨ refused (routine state).1 = true)

namespace Checks

theorem bind {first : Fallible σ ExitPacketHandlerError α}
    {rest : α → Fallible σ ExitPacketHandlerError β} (hfirst : Checks first)
    (hrest : ∀ value, Checks (rest value)) : Checks (first >>= rest) := by
  intro state
  obtain ⟨hstate, houtcome⟩ := hfirst state
  rw [Fallible.bind_run]
  rcases hrun : first state with ⟨value | reason | _, next⟩ <;> rw [hrun] at hstate houtcome <;>
    cases hstate
  · exact hrest value next
  · exact ⟨rfl, houtcome.imp (fun hok => by cases hok.choose_spec) id⟩
  · exact ⟨rfl, houtcome.imp (fun hok => by cases hok.choose_spec) id⟩

theorem get : Checks (Fallible.get : Fallible σ ExitPacketHandlerError σ) :=
  fun state => ⟨rfl, .inl ⟨state, rfl⟩⟩

theorem failWhen {bad : Prop} [Decidable bad] {reason : ExitPacketHandlerError}
    (hreason : reason.refuses = true) :
    Checks (Fallible.failWhen bad reason : Fallible σ ExitPacketHandlerError Unit) := by
  intro state
  by_cases hbad : bad
  · rw [Fallible.failWhen_pos reason hbad]
    exact ⟨rfl, .inr hreason⟩
  · rw [Fallible.failWhen_neg reason hbad]
    exact ⟨rfl, .inl ⟨(), rfl⟩⟩

theorem ofContext {result : Except ForwardingError α} :
    Checks (Fallible.ofExcept (result.mapError mapContextError) :
      Fallible σ ExitPacketHandlerError α) := by
  intro state
  cases result with
  | ok value => exact ⟨rfl, .inl ⟨value, rfl⟩⟩
  | error reason => exact ⟨rfl, .inr (mapContextError_refuses reason)⟩

end Checks

theorem validateBinding_checks (context : ForwardingContext) (binding : ExitForwardingBinding) :
    Checks (validateBinding context binding) :=
  .bind .get fun _ => .bind (.failWhen rfl) fun _ => .bind (.failWhen rfl) fun _ =>
    .bind .ofContext fun _ => .bind .ofContext fun _ => .ofContext

/-- The checks that all four entry points share. -/
theorem validateBinding_cases (context : ForwardingContext) (binding : ExitForwardingBinding)
    (handler : ExitPacketHandler) :
    (∃ reason, reason.refuses = true ∧
      validateBinding context binding handler = (.error reason, handler)) ∨
    (handler.closed = false ∧ Bound context binding ∧
      validateBinding context binding handler = (.ok (), handler)) := by
  obtain ⟨hstate, houtcome⟩ := validateBinding_checks context binding handler
  rcases hrun : validateBinding context binding handler with ⟨value | reason | _, next⟩ <;>
    rw [hrun] at hstate houtcome <;> cases hstate
  · obtain ⟨hopened, hbound, -⟩ := validateBinding_eq_ok.mp hrun
    exact .inr ⟨hopened, hbound, rfl⟩
  · rcases houtcome with ⟨_, hok⟩ | hrefused
    · cases hok
    · exact .inl ⟨reason, hrefused, rfl⟩
  · rcases houtcome with ⟨_, hok⟩ | hrefused
    · cases hok
    · cases hrefused

theorem markHandled_cases (packetId : SessionId) (handler : ExitPacketHandler) :
    markHandled packetId handler = (.error .duplicatePacket, handler) ∨
    (packetId ∉ handler.handledPackets ∧
      markHandled packetId handler = (.ok (), handler.marked packetId)) := by
  rw [markHandled, Fallible.get_bind_run, Fallible.failWhen_bind_run]
  split_ifs with hhandled
  · exact .inl rfl
  · exact .inr ⟨hhandled, rfl⟩

/-- A packet id is taken for its binding, or the handler refuses and stays as it is. -/
theorem admission_cases (packetId : SessionId) (context : ForwardingContext)
    (binding : ExitForwardingBinding) (handler : ExitPacketHandler) :
    (∃ reason, reason.refuses = true ∧
      (validateBinding context binding >>= fun _ => markHandled packetId) handler =
        (.error reason, handler)) ∨
    (handler.Takes packetId context binding ∧
      (validateBinding context binding >>= fun _ => markHandled packetId) handler =
        (.ok (), handler.marked packetId)) := by
  rcases validateBinding_cases context binding handler with
    ⟨reason, hreason, hbinding⟩ | ⟨hopen, hbound, hbinding⟩
  · exact .inl ⟨reason, hreason, Fallible.bind_error hbinding⟩
  · rw [Fallible.bind_ok hbinding]
    rcases markHandled_cases packetId handler with hduplicate | ⟨hfresh, hmarked⟩
    · exact .inl ⟨.duplicatePacket, rfl, hduplicate⟩
    · exact .inr ⟨⟨hopen, hbound, hfresh⟩, hmarked⟩

/-! ## What is done with a packet that was let through -/

/-- A routine ends in a state, and not with a refusal. -/
def Settles (routine : Fallible σ ExitPacketHandlerError α) (state final : σ) : Prop :=
  (routine state).2 = final ∧ refused (routine state).1 = false

theorem Settles.bind {first : Fallible σ ExitPacketHandlerError α}
    {rest : α → Fallible σ ExitPacketHandlerError β} {state final : σ}
    (hfirst : Settles first state final)
    (hrest : ∀ value, Settles (rest value) final final) : Settles (first >>= rest) state final := by
  obtain ⟨hstate, hrefused⟩ := hfirst
  rw [Settles, Fallible.bind_run]
  rcases hrun : first state with ⟨value | reason | _, next⟩ <;> rw [hrun] at hstate hrefused <;>
    cases hstate
  · exact hrest value
  · exact ⟨rfl, hrefused⟩
  · exact ⟨rfl, rfl⟩

/-- Nothing but the packet's own bytes is held against it. -/
theorem validated_settles {result : Except PacketError NetworkPacket} {state : σ} :
    Settles (Fallible.ofExcept (result.mapError .invalidPacket) :
      Fallible σ ExitPacketHandlerError NetworkPacket) state state := by
  cases result <;> exact ⟨rfl, rfl⟩

theorem ensureOpen_closed (hclosed : handler.closed = true) :
    ensureOpen handler = (.error .closed, handler) := by
  rw [ensureOpen, Fallible.get_bind_run, Fallible.failWhen_pos _ hclosed]
  rfl

theorem ensureOpen_run (hopen : handler.closed = false) :
    ensureOpen handler = (.ok (), handler) := by
  rw [ensureOpen, Fallible.get_bind_run, Fallible.failWhen_neg _ (Bool.eq_false_iff.mp hopen)]
  rfl

theorem takeResponse_run (hopen : handler.closed = false) :
    takeResponse handler = (.ok handler.pendingResponses.getLast?,
      { handler with pendingResponses := handler.pendingResponses.dropLast }) := by
  rw [takeResponse, Fallible.bind_ok (ensureOpen_run hopen)]
  rfl

theorem close_run (hopen : handler.closed = false) :
    close handler = (.ok (),
      { handler with closed := true, pendingResponses := [], handledPackets := ∅ }) := by
  rw [close, Fallible.bind_ok (ensureOpen_run hopen)]
  rfl

/-- A packet that is queued when there is room leaves the queue within its limit. -/
theorem enqueueResponse_cases (hopen : handler.closed = false) (packet : NetworkPacket) :
    (∃ reason, reason.refuses = false ∧
      enqueueResponse packet handler = (.error reason, handler)) ∨
    ∃ response, handler.pendingResponses.length < handler.maximumPendingResponses ∧
      enqueueResponse packet handler =
        (.ok (), { handler with pendingResponses := handler.pendingResponses ++ [response] }) := by
  rw [enqueueResponse, Fallible.bind_ok (ensureOpen_run hopen), Fallible.bind_run, validatePacket,
    Fallible.get_bind_run]
  cases NetworkPacket.new packet.bytes handler.maximumPacketSize handler.mtu with
  | error reason => exact .inl ⟨.invalidPacket reason, rfl, rfl⟩
  | ok response =>
      simp only [Except.mapError, Fallible.ofExcept_ok, Fallible.pure_run, Fallible.get_bind_run,
        Fallible.failWhen_bind_run]
      split_ifs with hfull
      · exact .inl ⟨.queueFull, rfl, rfl⟩
      · exact .inr ⟨response, not_le.mp hfull, rfl⟩

/-- What was queued last is what leaves the queue. -/
theorem pop_queued (response : NetworkPacket) :
    pop { handler with pendingResponses := handler.pendingResponses ++ [response] } =
      (.ok (some response), handler) := by
  simp [pop]

theorem queued_settles (hopen : handler.closed = false) :
    Settles (do
      enqueueResponse packet
      let response ← pop
      Fallible.orThrow response .shutdown) handler handler := by
  rcases enqueueResponse_cases hopen packet with ⟨reason, hreason, herror⟩ | ⟨response, -, hqueued⟩
  · rw [Settles, Fallible.bind_error herror]
    exact ⟨rfl, hreason⟩
  · rw [Settles, Fallible.bind_ok hqueued, Fallible.bind_ok (pop_queued response)]
    exact ⟨rfl, rfl⟩

theorem handle_settles (hopen : handler.closed = false) :
    Settles (handle packet) handler handler := by
  rw [handle, Settles, Fallible.bind_ok (ensureOpen_run hopen)]
  apply Settles.bind
  · rw [validatePacket, Settles, Fallible.get_bind_run]
    exact validated_settles
  · intro response
    exact queued_settles hopen

/-- A refusal changes nothing; a packet that is taken is marked, whatever becomes of it. -/
theorem handleBound_cases (packetId : SessionId) (packet : NetworkPacket)
    (context : ForwardingContext) (relaySessionId : SessionId) (entryPeer exitPeer : PeerId)
    (handler : ExitPacketHandler) :
    (∃ reason, reason.refuses = true ∧
      handleBound packetId packet context relaySessionId entryPeer exitPeer handler =
        (.error reason, handler)) ∨
    (handler.Takes packetId context { relaySessionId, entryPeer, exitPeer } ∧
      Settles (handleBound packetId packet context relaySessionId entryPeer exitPeer) handler
        (handler.marked packetId)) := by
  rw [handleBound, ← Fallible.bind_bind]
  rcases admission_cases packetId context { relaySessionId, entryPeer, exitPeer } handler with
    ⟨reason, hreason, hrefused⟩ | ⟨htakes, hmarked⟩
  · exact .inl ⟨reason, hreason, Fallible.bind_error hrefused⟩
  · refine .inr ⟨htakes, ?_⟩
    rw [Settles, Fallible.bind_ok hmarked]
    exact handle_settles htakes.opened

theorem validateBoundPayload_cases (packetId : SessionId) (payload : Bytes)
    (context : ForwardingContext) (binding : ExitForwardingBinding) (handler : ExitPacketHandler) :
    (∃ reason, validateBoundPayload packetId payload context binding handler =
      (.error reason, handler)) ∨
    (handler.Takes packetId context binding ∧
      validateBoundPayload packetId payload context binding handler =
        (.ok (), handler.marked packetId)) := by
  rw [validateBoundPayload]
  rcases validateBinding_cases context binding handler with
    ⟨reason, -, hbinding⟩ | ⟨hopen, hbound, hbinding⟩
  · exact .inl ⟨reason, Fallible.bind_error hbinding⟩
  · rw [Fallible.bind_ok hbinding, Fallible.get_bind_run, Fallible.failWhen_bind_run]
    split_ifs with hsize
    · exact .inl ⟨_, rfl⟩
    · rcases markHandled_cases packetId handler with hduplicate | ⟨hfresh, hmarked⟩
      · exact .inl ⟨_, hduplicate⟩
      · exact .inr ⟨⟨hopen, hbound, hfresh⟩, hmarked⟩

end ExitPacketHandler

namespace ExitNetworkAdapter

open ExitPacketHandler

variable {A α : Type} {handler final : ExitPacketHandler} {adapter : A} {payload : Bytes}

theorem onHandler_settles {routine : Fallible ExitPacketHandler ExitPacketHandlerError α}
    (hsettles : Settles routine handler final) :
    Settles (onHandler routine) (handler, adapter) (final, adapter) :=
  ⟨congrArg (·, adapter) hsettles.1, hsettles.2⟩

theorem onHandler_bind {β : Type} (first : Fallible ExitPacketHandler ExitPacketHandlerError α)
    (rest : α → Fallible ExitPacketHandler ExitPacketHandlerError β) :
    (onHandler first >>= fun value => onHandler (rest value) :
      Fallible (ExitPacketHandler × A) ExitPacketHandlerError β) = onHandler (first >>= rest) := by
  funext both
  simp only [onHandler, Fallible.zoom, Fallible.bind_run]
  rcases first both.1 with ⟨_ | _ | _, next⟩ <;> rfl

theorem onHandler_orThrow (value : Option α) (reason : ExitPacketHandlerError) :
    (Fallible.orThrow value reason : Fallible (ExitPacketHandler × A) ExitPacketHandlerError α) =
      onHandler (Fallible.orThrow value reason) := by
  cases value <;> rfl

theorem refused_mapError {σ : Type} (routine : Fallible σ ExitNetworkError α) (state : σ) :
    refused (Fallible.mapError ExitPacketHandlerError.network routine state).1 = false := by
  rw [Fallible.mapError]
  rcases routine state with ⟨_ | _ | _, next⟩ <;> rfl

theorem answered_settles (hopen : handler.closed = false) (response : Bytes) :
    Settles (do
      let both ← Fallible.get
      let response ← Fallible.ofExcept
        ((NetworkPacket.new response both.1.maximumPacketSize both.1.mtu).mapError .invalidPacket)
      onHandler (enqueueResponse response)
      let response ← onHandler pop
      Fallible.orThrow response .shutdown) (handler, adapter) (handler, adapter) := by
  rw [Settles, Fallible.get_bind_run]
  apply Settles.bind validated_settles
  intro response
  simp only [onHandler_orThrow, onHandler_bind]
  exact onHandler_settles (queued_settles hopen)

/-- A refusal changes nothing; a packet that is taken is marked, and goes on from there. -/
theorem onHandler_admission (packetId : SessionId) (context : ForwardingContext)
    (binding : ExitForwardingBinding) (handler : ExitPacketHandler) (adapter : A)
    (rest : Fallible (ExitPacketHandler × A) ExitPacketHandlerError α) :
    (∃ reason, reason.refuses = true ∧
      (do
        onHandler (validateBinding context binding)
        onHandler (markHandled packetId)
        rest) (handler, adapter) = (.error reason, (handler, adapter))) ∨
    (handler.Takes packetId context binding ∧
      (do
        onHandler (validateBinding context binding)
        onHandler (markHandled packetId)
        rest) (handler, adapter) = rest (handler.marked packetId, adapter)) := by
  rw [← Fallible.bind_bind, onHandler_bind]
  rcases admission_cases packetId context binding handler with
    ⟨reason, hreason, hrefused⟩ | ⟨htakes, hmarked⟩
  · refine .inl ⟨reason, hreason, ?_⟩
    apply Fallible.bind_error
    rw [onHandler, Fallible.zoom, hrefused]
  · refine .inr ⟨htakes, ?_⟩
    apply Fallible.bind_ok
    rw [onHandler, Fallible.zoom, hmarked]

section Exchanges

variable [ExitNetworkAdapter A]

/-- A payload that is exchanged is written down, also when the exchange fails. -/
theorem exchanging_settles (payload : Bytes) (handler : ExitPacketHandler)
    (observed : ObservedAdapter A) :
    ∃ used : ObservedAdapter A, used.exchanged = observed.exchanged ++ [payload] ∧
      Settles (exchanging payload) (handler, observed) (handler, used) := by
  refine ⟨(exchange payload observed).2, rfl, ?_, refused_mapError _ observed⟩
  exact congrArg (handler, ·) (Fallible.mapError_state _ (exchange payload) observed)

/-- Either entry point with an adapter refuses, or marks the packet and exchanges its payload. -/
theorem handleBoundWithAdapterPayload_cases (packetId : SessionId) (payload : Bytes)
    (context : ForwardingContext) (binding : ExitForwardingBinding) (handler : ExitPacketHandler)
    (observed : ObservedAdapter A) :
    (∃ reason, reason.refuses = true ∧
      handleBoundWithAdapterPayload packetId payload context binding (handler, observed) =
        (.error reason, (handler, observed))) ∨
    (handler.Takes packetId context binding ∧ ∃ used : ObservedAdapter A,
      used.exchanged = observed.exchanged ++ [payload] ∧
      Settles (handleBoundWithAdapterPayload packetId payload context binding) (handler, observed)
        (handler.marked packetId, used)) := by
  refine (onHandler_admission packetId context binding handler observed _).imp id ?_
  intro ⟨htakes, hrun⟩
  obtain ⟨used, hexchanged, hsettles⟩ :=
    exchanging_settles payload (handler.marked packetId) observed
  refine ⟨htakes, used, hexchanged, ?_⟩
  rw [Settles, handleBoundWithAdapterPayload, hrun]
  exact hsettles

theorem handleBoundWithAdapter_cases (packetId : SessionId) (packet : NetworkPacket)
    (context : ForwardingContext) (binding : ExitForwardingBinding) (handler : ExitPacketHandler)
    (observed : ObservedAdapter A) :
    (∃ reason, reason.refuses = true ∧
      handleBoundWithAdapter packetId packet context binding (handler, observed) =
        (.error reason, (handler, observed))) ∨
    (handler.Takes packetId context binding ∧ ∃ used : ObservedAdapter A,
      used.exchanged = observed.exchanged ++ [packet.bytes] ∧
      Settles (handleBoundWithAdapter packetId packet context binding) (handler, observed)
        (handler.marked packetId, used)) := by
  refine (onHandler_admission packetId context binding handler observed _).imp id ?_
  intro ⟨htakes, hrun⟩
  obtain ⟨used, hexchanged, hsettles⟩ :=
    exchanging_settles packet.bytes (handler.marked packetId) observed
  have hopen : (handler.marked packetId).closed = false := htakes.opened
  refine ⟨htakes, used, hexchanged, ?_⟩
  rw [Settles, handleBoundWithAdapter, hrun]
  exact hsettles.bind fun response => answered_settles hopen response

end Exchanges

end ExitNetworkAdapter

/-! ## Runs -/

/-- A handler, and the payloads that adapters were asked to exchange for it. -/
structure Handling where
  handler : ExitPacketHandler
  exchanged : List Bytes

namespace Handling

open ExitPacketHandler
open ExitNetworkAdapter (handleBoundWithAdapter handleBoundWithAdapterPayload)

variable {A α : Type}

/-- A call on the handler; each call with an adapter brings the one it uses. -/
inductive Operation (A : Type) where
  | handleBound (packetId : SessionId) (packet : NetworkPacket) (context : ForwardingContext)
      (relaySessionId : SessionId) (entryPeer exitPeer : PeerId)
  | handleBoundWithAdapter (packetId : SessionId) (packet : NetworkPacket)
      (context : ForwardingContext) (binding : ExitForwardingBinding) (adapter : A)
  | handleBoundWithAdapterPayload (packetId : SessionId) (payload : Bytes)
      (context : ForwardingContext) (binding : ExitForwardingBinding) (adapter : A)
  | validateBoundPayload (packetId : SessionId) (payload : Bytes) (context : ForwardingContext)
      (binding : ExitForwardingBinding)
  | enqueueResponse (packet : NetworkPacket)
  | takeResponse
  | close

namespace Operation

/-- The packet id, the context and the binding of a call of one of the four entry points. -/
def bound : Operation A → Option (SessionId × ForwardingContext × ExitForwardingBinding)
  | handleBound packetId _ context relaySessionId entryPeer exitPeer =>
      some (packetId, context, { relaySessionId, entryPeer, exitPeer })
  | handleBoundWithAdapter packetId _ context binding _
  | handleBoundWithAdapterPayload packetId _ context binding _
  | validateBoundPayload packetId _ context binding => some (packetId, context, binding)
  | enqueueResponse _ | takeResponse | close => none

/-- What a call hands to its adapter. -/
def handed : Operation A → List Bytes
  | handleBoundWithAdapter _ packet _ _ _ => [packet.bytes]
  | handleBoundWithAdapterPayload _ payload _ _ _ => [payload]
  | handleBound .. | validateBoundPayload .. | enqueueResponse _ | takeResponse | close => []

end Operation

def alone (routine : Fallible ExitPacketHandler ExitPacketHandlerError α) :
    Fallible Handling ExitPacketHandlerError Unit := do
  let _ ← Fallible.zoom Handling.handler (fun handler handling => { handling with handler }) routine

def withAdapter (adapter : A)
    (routine : Fallible (ExitPacketHandler × ObservedAdapter A) ExitPacketHandlerError α) :
    Fallible Handling ExitPacketHandlerError Unit := do
  let _ ← Fallible.zoom (fun handling => (handling.handler, ⟨adapter, handling.exchanged⟩))
    (fun both _ => ⟨both.1, both.2.exchanged⟩) routine

abbrev Made (A : Type) := Call Handling ExitPacketHandlerError (Operation A)

/-- The packet id that a call took. `validateBoundPayload` takes it last, the others before they go
on with the packet. -/
def accepted (made : Made A) : Option SessionId :=
  match made.operation, made.outcome with
  | .validateBoundPayload packetId _ _ _, .ok () => some packetId
  | .validateBoundPayload _ _ _ _, _ => none
  | operation, outcome => if refused outcome then none else operation.bound.map Prod.fst

section Effects

variable {before : Handling} {final : ExitPacketHandler} {reason : ExitPacketHandlerError}
  {adapter : A}

theorem alone_of_error {routine : Fallible ExitPacketHandler ExitPacketHandlerError α}
    (herror : routine before.handler = (.error reason, before.handler)) :
    alone routine before = (.error reason, before) := by
  apply Fallible.bind_error
  rw [Fallible.zoom, herror]

theorem alone_of_ok {routine : Fallible ExitPacketHandler ExitPacketHandlerError α} {value : α}
    (hok : routine before.handler = (.ok value, final)) :
    alone routine before = (.ok (), ⟨final, before.exchanged⟩) := by
  apply Fallible.bind_ok
  rw [Fallible.zoom, hok]

theorem alone_of_settles {routine : Fallible ExitPacketHandler ExitPacketHandlerError α}
    (hsettles : Settles routine before.handler final) :
    Settles (alone routine) before ⟨final, before.exchanged⟩ :=
  Settles.bind ⟨congrArg (Handling.mk · before.exchanged) hsettles.1, hsettles.2⟩
    fun _ => ⟨rfl, rfl⟩

theorem withAdapter_of_error
    {routine : Fallible (ExitPacketHandler × ObservedAdapter A) ExitPacketHandlerError α}
    (herror : routine (before.handler, ⟨adapter, before.exchanged⟩) =
      (.error reason, (before.handler, ⟨adapter, before.exchanged⟩))) :
    withAdapter adapter routine before = (.error reason, before) := by
  apply Fallible.bind_error
  rw [Fallible.zoom, herror]

theorem withAdapter_of_settles
    {routine : Fallible (ExitPacketHandler × ObservedAdapter A) ExitPacketHandlerError α}
    {used : ObservedAdapter A}
    (hsettles : Settles routine (before.handler, ⟨adapter, before.exchanged⟩) (final, used)) :
    Settles (withAdapter adapter routine) before ⟨final, used.exchanged⟩ :=
  Settles.bind ⟨congrArg (fun both => Handling.mk both.1 both.2.exchanged) hsettles.1, hsettles.2⟩
    fun _ => ⟨rfl, rfl⟩

end Effects

/-- What a call does: nothing, as when it is refused; it takes a packet id and hands its payload to
its adapter; it changes the queue within its limit; or it closes the handler. -/
inductive Effect (made : Made A) : Prop
  | nothing (hafter : made.after = made.before) (haccepted : accepted made = none)
  | takes (packetId : SessionId) (context : ForwardingContext) (binding : ExitForwardingBinding)
      (hbound : made.operation.bound = some (packetId, context, binding))
      (htakes : made.before.handler.Takes packetId context binding)
      (haccepted : accepted made = some packetId) (hrefused : refused made.outcome = false)
      (hafter : made.after =
        ⟨made.before.handler.marked packetId, made.before.exchanged ++ made.operation.handed⟩)
  | queues (responses : List NetworkPacket)
      (hsize : responses.length ≤ made.before.handler.maximumPendingResponses ∨
        responses.length ≤ made.before.handler.pendingResponses.length)
      (haccepted : accepted made = none) (hrefused : refused made.outcome = false)
      (hafter : made.after =
        ⟨{ made.before.handler with pendingResponses := responses }, made.before.exchanged⟩)
  | closes (haccepted : accepted made = none) (hrefused : refused made.outcome = false)
      (hafter : made.after =
        ⟨{ made.before.handler with closed := true, pendingResponses := [], handledPackets := ∅ },
          made.before.exchanged⟩)

theorem accepted_of_refused {made : Made A} (hrefused : refused made.outcome = true) :
    accepted made = none := by
  obtain ⟨before, operation, outcome, after⟩ := made
  cases operation with
  | validateBoundPayload =>
      cases outcome with
      | ok => cases hrefused
      | _ => rfl
  | _ => exact if_pos hrefused

theorem accepted_of_bound_eq_none {made : Made A} (hbound : made.operation.bound = none) :
    accepted made = none := by
  obtain ⟨before, operation, outcome, after⟩ := made
  cases operation with
  | enqueueResponse | takeResponse | close => exact ite_self _
  | _ => cases hbound

/-- The queue of a handler is within a limit. -/
def Within (limit : Nat) (handling : Handling) : Prop :=
  handling.handler.maximumPendingResponses = limit ∧
    handling.handler.pendingResponses.length ≤ limit

theorem Within.step {limit : Nat} {made : Made A} (hwithin : Within limit made.before)
    (heffect : Effect made) : Within limit made.after := by
  obtain ⟨hlimit, hsize⟩ := hwithin
  cases heffect with
  | nothing hafter =>
      rw [hafter]
      exact ⟨hlimit, hsize⟩
  | takes packetId context binding hbound htakes haccepted hrefused hafter =>
      rw [hafter]
      exact ⟨hlimit, hsize⟩
  | queues responses hresponses haccepted hrefused hafter =>
      rw [hafter]
      refine ⟨hlimit, ?_⟩
      rcases hresponses with hroom | htaken
      · exact hroom.trans_eq hlimit
      · exact htaken.trans hsize
  | closes haccepted hrefused hafter =>
      rw [hafter]
      exact ⟨hlimit, Nat.zero_le _⟩

/-- An open handler remembers the packet ids of calls. -/
def Remembers (history : List (Made A)) (handling : Handling) : Prop :=
  handling.handler.closed = false →
    ∀ packetId ∈ history.filterMap accepted, packetId ∈ handling.handler.handledPackets

theorem Remembers.step {history : List (Made A)} {made : Made A}
    (hremembers : Remembers history made.before) (heffect : Effect made) :
    Remembers (history ++ [made]) made.after := by
  intro hopen packetId hmem
  rw [List.filterMap_append, List.mem_append] at hmem
  cases heffect with
  | nothing hafter haccepted =>
      rw [hafter] at hopen ⊢
      refine hremembers hopen packetId (hmem.resolve_right ?_)
      simp [haccepted]
  | takes taken context binding hbound htakes haccepted hrefused hafter =>
      rw [hafter] at hopen ⊢
      apply Finset.mem_insert.mpr
      rcases hmem with hold | hnew
      · exact .inr (hremembers hopen packetId hold)
      · rw [List.filterMap_cons_some haccepted, List.filterMap_nil, List.mem_singleton] at hnew
        exact .inl hnew
  | queues responses hsize haccepted hrefused hafter =>
      rw [hafter] at hopen ⊢
      refine hremembers hopen packetId (hmem.resolve_right ?_)
      simp [haccepted]
  | closes haccepted hrefused hafter =>
      rw [hafter] at hopen
      cases hopen

variable [ExitNetworkAdapter A]

def perform : Operation A → Fallible Handling ExitPacketHandlerError Unit
  | .handleBound packetId packet context relaySessionId entryPeer exitPeer =>
      alone (handleBound packetId packet context relaySessionId entryPeer exitPeer)
  | .handleBoundWithAdapter packetId packet context binding adapter =>
      withAdapter adapter (handleBoundWithAdapter packetId packet context binding)
  | .handleBoundWithAdapterPayload packetId payload context binding adapter =>
      withAdapter adapter (handleBoundWithAdapterPayload packetId payload context binding)
  | .validateBoundPayload packetId payload context binding =>
      alone (validateBoundPayload packetId payload context binding)
  | .enqueueResponse packet => alone (enqueueResponse packet)
  | .takeResponse => alone takeResponse
  | .close => alone close

namespace Effect

variable {operation : Operation A} {before : Handling} {reason : ExitPacketHandlerError}
  {packetId : SessionId} {context : ForwardingContext} {binding : ExitForwardingBinding}

theorem of_refused (hreason : reason.refuses = true)
    (hrun : perform operation before = (.error reason, before)) :
    Effect (call perform operation before) := by
  apply nothing (congrArg Prod.snd hrun)
  apply accepted_of_refused
  rw [call, hrun]
  exact hreason

/-- An entry point that takes its packet id before it goes on. -/
theorem of_settles (haccepted : accepted (call perform operation before) =
      if refused (perform operation before).1 then none else some packetId)
    (hbound : operation.bound = some (packetId, context, binding))
    (htakes : before.handler.Takes packetId context binding)
    (hsettles : Settles (perform operation) before
      ⟨before.handler.marked packetId, before.exchanged ++ operation.handed⟩) :
    Effect (call perform operation before) := by
  obtain ⟨hafter, hrefused⟩ := hsettles
  refine takes packetId context binding hbound htakes ?_ hrefused hafter
  rw [haccepted, hrefused]
  rfl

theorem of_perform (operation : Operation A) (before : Handling) :
    Effect (call perform operation before) := by
  cases operation with
  -- Each entry point with a binding refuses, or takes its packet id and settles then.
  | handleBound packetId packet context relaySessionId entryPeer exitPeer =>
      rcases handleBound_cases packetId packet context relaySessionId entryPeer exitPeer
        before.handler with ⟨reason, hreason, hrefused⟩ | ⟨htakes, hsettles⟩
      · exact of_refused hreason (alone_of_error hrefused)
      · apply of_settles rfl rfl htakes
        rw [Operation.handed, List.append_nil]
        exact alone_of_settles hsettles
  | handleBoundWithAdapter packetId packet context binding adapter =>
      rcases ExitNetworkAdapter.handleBoundWithAdapter_cases packetId packet context binding
        before.handler ⟨adapter, before.exchanged⟩ with
        ⟨reason, hreason, hrefused⟩ | ⟨htakes, used, hexchanged, hsettles⟩
      · exact of_refused hreason (withAdapter_of_error hrefused)
      · apply of_settles rfl rfl htakes
        rw [Operation.handed, ← hexchanged]
        exact withAdapter_of_settles hsettles
  | handleBoundWithAdapterPayload packetId payload context binding adapter =>
      rcases ExitNetworkAdapter.handleBoundWithAdapterPayload_cases packetId payload context
        binding before.handler ⟨adapter, before.exchanged⟩ with
        ⟨reason, hreason, hrefused⟩ | ⟨htakes, used, hexchanged, hsettles⟩
      · exact of_refused hreason (withAdapter_of_error hrefused)
      · apply of_settles rfl rfl htakes
        rw [Operation.handed, ← hexchanged]
        exact withAdapter_of_settles hsettles
  | validateBoundPayload packetId payload context binding =>
      rcases validateBoundPayload_cases packetId payload context binding before.handler with
        ⟨reason, herror⟩ | ⟨htakes, hok⟩
      · have hrun := alone_of_error herror
        apply nothing (congrArg Prod.snd hrun)
        rw [call, perform, hrun]
        rfl
      · have hrun := alone_of_ok hok
        refine takes packetId context binding rfl htakes ?_ ?_ ?_
        · rw [call, perform, hrun]
          rfl
        · rw [call, perform, hrun]
          rfl
        · rw [call, perform, hrun, Operation.handed, List.append_nil]
  -- The queue of responses knows no packet ids.
  | enqueueResponse packet =>
      have hnone : accepted (call perform (.enqueueResponse packet : Operation A) before) = none :=
        accepted_of_bound_eq_none rfl
      cases hclosed : before.handler.closed with
      | true =>
          have hrefused := ensureOpen_closed hclosed
          exact of_refused rfl (alone_of_error (Fallible.bind_error hrefused))
      | false =>
          rcases enqueueResponse_cases hclosed packet with
            ⟨reason, -, herror⟩ | ⟨response, hroom, hqueued⟩
          · exact nothing (congrArg Prod.snd (alone_of_error herror)) hnone
          · have hrun := alone_of_ok hqueued
            refine queues _ (.inl ?_) hnone ?_ (congrArg Prod.snd hrun)
            · rw [List.length_append]
              exact hroom
            · rw [call, perform, hrun]
              rfl
  | takeResponse =>
      have hnone : accepted (call perform (.takeResponse : Operation A) before) = none :=
        accepted_of_bound_eq_none rfl
      cases hclosed : before.handler.closed with
      | true =>
          have hrefused := ensureOpen_closed hclosed
          exact of_refused rfl (alone_of_error (Fallible.bind_error hrefused))
      | false =>
          have hrun := alone_of_ok (takeResponse_run hclosed)
          refine queues _ (.inr ?_) hnone ?_ (congrArg Prod.snd hrun)
          · rw [List.length_dropLast]
            exact Nat.sub_le _ _
          · rw [call, perform, hrun]
            rfl
  | close =>
      cases hclosed : before.handler.closed with
      | true =>
          have hrefused := ensureOpen_closed hclosed
          exact of_refused rfl (alone_of_error (Fallible.bind_error hrefused))
      | false =>
          have hrun := alone_of_ok (close_run hclosed)
          refine closes (accepted_of_bound_eq_none rfl) ?_ (congrArg Prod.snd hrun)
          rw [call, perform, hrun]
          rfl

end Effect

/-! ## What holds along a run -/

section Runs

variable {start : Handling} {operations : List (Operation A)} {earlier later : List (Made A)}
  {made : Made A} {packetId : SessionId}

theorem remembers (operations : List (Operation A)) (start : Handling) :
    Remembers (calls perform operations start) (stateAfterAll perform operations start) := by
  apply history_induction (motive := fun _ => Remembers)
  · intro _ packetId hmem
    exact absurd hmem List.not_mem_nil
  · intro operations operation history before hremembers
    exact Remembers.step hremembers (.of_perform operation before)

/-- A packet id that is taken was not taken before. -/
theorem fresh_of_takes (hsplit : calls perform operations start = earlier ++ made :: later)
    (hopen : made.before.handler.closed = false)
    (hfresh : packetId ∉ made.before.handler.handledPackets) :
    packetId ∉ earlier.filterMap accepted := by
  obtain ⟨before, after, -, hearlier, hmade⟩ := exists_split_of_calls hsplit
  have hremembers : Remembers earlier made.before := by
    rw [hearlier, hmade]
    exact remembers before start
  exact fun hmem => hfresh (hremembers hopen packetId hmem)

/-- Every packet id is accepted at most once. -/
theorem nodup_accepted (operations : List (Operation A)) (start : Handling) :
    ((calls perform operations start).filterMap accepted).Nodup := by
  apply nodup_filterMap_of_fresh
  intro earlier made later packetId hsplit haccepted
  have heffect : Effect made := by
    obtain ⟨before, after, -, -, hmade⟩ := exists_split_of_calls hsplit
    rw [hmade]
    exact .of_perform _ _
  cases heffect with
  | takes taken context binding hbound htakes htaken hrefused hafter =>
      cases htaken.symm.trans haccepted
      exact fresh_of_takes hsplit htakes.opened htakes.fresh
  | nothing _ hnone | queues _ _ hnone | closes hnone => cases hnone.symm.trans haccepted

/-- Over every sequence of calls on a handler that was opened: an adapter is asked to exchange only
for an open handler, a context that is forwarding with the entry, the exit and the session of the
binding, and a packet id that no call took before; every packet id is taken at most once; the
queue stays within its limit; and a call that is refused changes nothing. -/
theorem handling_laws {maximumPacketSize mtu maximumPendingResponses : Nat}
    {handler : ExitPacketHandler}
    (hopened : ExitPacketHandler.open maximumPacketSize mtu maximumPendingResponses = .ok handler)
    (operations : List (Operation A)) :
    let history := calls perform operations ⟨handler, []⟩
    (∀ earlier made later, history = earlier ++ made :: later →
      made.after.exchanged ≠ made.before.exchanged →
      ∃ packetId context binding,
        made.operation.bound = some (packetId, context, binding) ∧
        made.before.handler.closed = false ∧ Bound context binding ∧
        packetId ∉ earlier.filterMap accepted ∧
        made.after.exchanged = made.before.exchanged ++ made.operation.handed) ∧
    (history.filterMap accepted).Nodup ∧
    (stateAfterAll perform operations ⟨handler, []⟩).handler.pendingResponses.length ≤
      maximumPendingResponses ∧
    ∀ made ∈ history, refused made.outcome = true → made.after = made.before := by
  intro history
  have heffect : ∀ made ∈ history, Effect made := by
    intro made hmade
    obtain ⟨before, after, -, hcall⟩ := exists_of_mem_calls hmade
    rw [hcall]
    exact .of_perform _ _
  refine ⟨?_, nodup_accepted operations _, ?_, ?_⟩
  -- Only a call that takes its packet id hands anything to its adapter.
  · intro earlier made later hsplit hexchanged
    have hmem : made ∈ history := hsplit ▸ List.mem_append_right _ List.mem_cons_self
    cases heffect made hmem with
    | takes packetId context binding hbound htakes haccepted hrefused hafter =>
        refine ⟨packetId, context, binding, hbound, htakes.opened, htakes.bound, ?_, ?_⟩
        · exact fresh_of_takes hsplit htakes.opened htakes.fresh
        · rw [hafter]
    | nothing hafter | queues _ _ _ _ hafter | closes _ _ hafter =>
        exact absurd (congrArg exchanged hafter) hexchanged
  · have hwithin :
        Within maximumPendingResponses (stateAfterAll perform operations ⟨handler, []⟩) := by
      apply stateAfterAll_invariant (Within maximumPendingResponses)
      · intro operation before hbefore
        have heffect := Effect.of_perform operation before
        exact Within.step hbefore heffect
      · obtain ⟨_, -, hnew⟩ := Check.bind_eq_ok.mp hopened
        cases hnew
        exact ⟨rfl, Nat.zero_le _⟩
    exact hwithin.2
  · intro made hmem hrefused
    cases heffect made hmem with
    | nothing hafter => exact hafter
    | takes _ _ _ _ _ _ haccepts | queues _ _ _ haccepts | closes _ haccepts =>
        cases haccepts.symm.trans hrefused

end Runs

/-- An adapter whose datagrams are answered with one byte. -/
def answering : UdpExitNetworkAdapter where
  socket :=
    { bind := .ok (), connect := .ok (), setReadTimeout := .ok (), setWriteTimeout := .ok ()
      send := .ok 2, recv := .ok [7] }
  destination := .v4 (Vector.replicate 4 9) 443
  maximumDatagramSize := 512
  closed := false

/-- A context that forwards. -/
def forwarding : ForwardingContext :=
  { ForwardingContext.bound ⟨Vector.replicate 16 1⟩ ⟨Vector.replicate 16 2⟩ ⟨[1]⟩ ⟨[2]⟩ ⟨[3]⟩
      (.twoHop ⟨[2]⟩ ⟨[3]⟩ "") ⟨Vector.replicate 16 4⟩ with state := .forwarding }

/-- A packet is exchanged and offered again, and a response is asked for after the end. -/
def sampleCalls : List (Operation UdpExitNetworkAdapter) :=
  [.handleBoundWithAdapterPayload ⟨Vector.replicate 16 5⟩ [1, 2] forwarding
      ⟨⟨Vector.replicate 16 4⟩, ⟨[2]⟩, ⟨[3]⟩⟩ answering,
    .validateBoundPayload ⟨Vector.replicate 16 5⟩ [1, 2] forwarding
      ⟨⟨Vector.replicate 16 4⟩, ⟨[2]⟩, ⟨[3]⟩⟩,
    .close, .takeResponse]

theorem handling_laws_sample :
    (stateAfterAll perform sampleCalls ⟨⟨1500, 1500, 1, [], ∅, false⟩, []⟩).exchanged = [[1, 2]] ∧
    ((calls perform sampleCalls ⟨⟨1500, 1500, 1, [], ∅, false⟩, []⟩).filterMap accepted).Nodup := by
  have hlaws := handling_laws (rfl : ExitPacketHandler.open 1500 1500 1 = .ok _) sampleCalls
  exact ⟨rfl, hlaws.2.1⟩

end Handling

end Relay
