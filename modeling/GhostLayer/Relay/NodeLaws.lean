import GhostLayer.Relay.ForwardingLaws
import GhostLayer.Relay.Loop

/-! # What the handlers of a relay do

When each handler comes back to the loop and what it then leaves behind. Later
modules use these and do not unfold the handlers.
-/

namespace Relay

open Foundation Network

variable {ext : Externals}

/-! ## Resource policy -/

namespace RelayCore

/-- There is room for a flow, or it is known. -/
def HasRoom (core : RelayCore) (flow : SessionId) : Prop :=
  flow ∈ core.flows ∨ core.flows.card < core.limits.maximumActiveFlows

/-- The policy after a flow was admitted. -/
def withFlow (core : RelayCore) (flow : SessionId) (bytes : Nat) : RelayCore :=
  if flow ∈ core.flows then core else
    { core with
      flows := insert flow core.flows
      metrics := { core.metrics with
        activeFlows := (insert flow core.flows).card
        packetsAccepted := core.metrics.packetsAccepted + 1
        bytesForwarded := saturatingAdd core.metrics.bytesForwarded bytes } }

theorem admitFlow_run (flow : SessionId) (bytes : Nat) (core : RelayCore) :
    admitFlow flow bytes core =
      if flow ∈ core.flows ∨ core.flows.card < core.limits.maximumActiveFlows then
        (.ok (), core.withFlow flow bytes)
      else (.error .flowLimit, core) := by
  unfold admitFlow withFlow
  rw [Fallible.get_bind_run]
  by_cases hknown : flow ∈ core.flows
  · simp [hknown]
  · by_cases hroom : core.flows.card < core.limits.maximumActiveFlows
    · simp [hknown, hroom, Nat.not_le.mpr hroom]
    · simp [hknown, hroom, Nat.le_of_not_lt hroom]

theorem transition_eq_ok {next : RelayLifecycle} {core final : RelayCore} {result : Unit} :
    transition next core = (.ok result, final) ↔
      validTransition core.lifecycle next = true ∧ { core with lifecycle := next } = final := by
  simp only [transition, Fallible.get_bind_run, Fallible.bind_eq_ok, Fallible.failWhen_eq_ok,
    Fallible.modify_eq_ok, not_not]
  constructor
  · rintro ⟨_, _, ⟨hvalid, rfl⟩, rfl⟩
    exact ⟨hvalid, rfl⟩
  · rintro ⟨hvalid, rfl⟩
    exact ⟨(), core, ⟨hvalid, rfl⟩, rfl⟩

/-- There is room for a session, and the relay takes sessions. -/
def TakesSession (core : RelayCore) : Prop :=
  (core.lifecycle = .ready ∨ core.lifecycle = .discovering) ∧
    core.sessions.card < core.limits.maximumActiveSessions

/-- The policy after a session was admitted. -/
def withSession (core : RelayCore) (session : SessionId) : RelayCore :=
  { core with
    sessions := insert session core.sessions
    metrics := { core.metrics with activeSessions := (insert session core.sessions).card } }

theorem admitSession_run (session : SessionId) (core : RelayCore) :
    (core.TakesSession → admitSession session core = (.ok (), core.withSession session)) ∧
      (¬ core.TakesSession → ∃ reason, admitSession session core = (.error reason, core)) := by
  simp only [admitSession, Fallible.get_bind_run, Fallible.failWhen_bind_run, Fallible.modify_run,
    TakesSession]
  by_cases hstate : core.lifecycle = .ready ∨ core.lifecycle = .discovering
  · have hlife : ¬ (core.lifecycle ≠ .ready ∧ core.lifecycle ≠ .discovering) := by tauto
    by_cases hroom : core.sessions.card < core.limits.maximumActiveSessions
    · simp [hstate, hlife, hroom, Nat.not_le.mpr hroom, withSession]
    · simp [hlife, hroom, Nat.le_of_not_lt hroom]
  · have hlife : core.lifecycle ≠ .ready ∧ core.lifecycle ≠ .discovering := by tauto
    simp [hlife]

/-- The policy after a peer connected: the peer is admitted, or its refusal is counted. -/
def noted (core : RelayCore) (peer : PeerId) : RelayCore :=
  if peer ∈ core.peers then core
  else if (core.lifecycle = .ready ∨ core.lifecycle = .discovering) ∧
      core.peers.card < core.limits.maximumConnectedPeers then
    { core with
      peers := insert peer core.peers
      metrics := { core.metrics with activePeers := (insert peer core.peers).card } }
  else core.rejectPacket

theorem admitPeer_run (peer : PeerId) (core : RelayCore) :
    admitPeer peer core = (.ok (), core.noted peer) ∨
      ∃ reason, admitPeer peer core = (.error reason, core) ∧
        core.noted peer = core.rejectPacket := by
  simp only [admitPeer, noted, Fallible.get_bind_run]
  by_cases hknown : peer ∈ core.peers
  · simp [hknown]
  rw [if_neg hknown, if_neg hknown]
  simp only [Fallible.failWhen_bind_run, Fallible.modify_run]
  by_cases hstate : core.lifecycle = .ready ∨ core.lifecycle = .discovering
  · have hlife : ¬ (core.lifecycle ≠ .ready ∧ core.lifecycle ≠ .discovering) := by tauto
    by_cases hroom : core.peers.card < core.limits.maximumConnectedPeers
    · simp [hstate, hlife, hroom, Nat.not_le.mpr hroom]
    · simp [hlife, hroom, Nat.le_of_not_lt hroom]
  · have hlife : core.lifecycle ≠ .ready ∧ core.lifecycle ≠ .discovering := by tauto
    simp [hlife]

end RelayCore

/-! ## Building blocks -/

namespace Node

variable {node final : Node} {result : Unit}

def withChannel (node : Node) (sessionId : SessionId) (channel : EncryptedChannel) : Node :=
  { node with channels := node.channels.insert sessionId channel }

def withClientContext (node : Node) (sessionId : SessionId) (forwarding : ClientForwarding)
    (context : ForwardingContext) : Node :=
  let changed := { forwarding with context }
  { node with clientForwarding := node.clientForwarding.insert sessionId changed }

def withExitContext (node : Node) (forwardingId : SessionId) (context : ForwardingContext) : Node :=
  { node with exitForwarding := node.exitForwarding.insert forwardingId context }

def withEffect (node : Node) (effect : Effect) : Node :=
  { node with effects := node.effects ++ [effect] }

/-- A channel of the table opens an envelope and then is in the state `next`. -/
def Opens (ext : Externals) (node : Node) (envelope : DataPlaneEnvelope)
    (message : DataPlaneMessage) (next : EncryptedChannel) : Prop :=
  ∃ channel, node.channels.lookup envelope.sessionId = some channel ∧
    DataPlane.receive ext defaultMaximumPayloadSize envelope channel = (.ok message, next)

/-- A channel of the table seals a payload and then is in the state `next`. -/
def Seals (ext : Externals) (node : Node) (sessionId : SessionId) (payload frame : Bytes)
    (next : EncryptedChannel) : Prop :=
  ∃ channel, node.channels.lookup sessionId = some channel ∧
    DataPlane.send ext defaultMaximumPayloadSize payload channel = (.ok frame, next)

theorem onChannel_eq_ok {α : Type} {sessionId : SessionId} {missing : String}
    {routine : Fallible EncryptedChannel RelayError α} {value : α} :
    onChannel sessionId missing routine node = (.ok value, final) ↔
      ∃ channel next, node.channels.lookup sessionId = some channel ∧
        routine channel = (.ok value, next) ∧ node.withChannel sessionId next = final := by
  unfold onChannel withChannel
  cases node.channels.lookup sessionId with
  | none => simp
  | some channel =>
      rcases hrun : routine channel with ⟨outcome, next⟩
      simp [hrun]

theorem receiveOn_eq_ok {missing openText receiveText : String} {envelope : DataPlaneEnvelope}
    {message : DataPlaneMessage} :
    receiveOn ext envelope.sessionId missing openText receiveText envelope node =
        (.ok message, final) ↔
      ∃ next, node.Opens ext envelope message next ∧
        node.withChannel envelope.sessionId next = final := by
  simp only [receiveOn, onChannel_eq_ok, Fallible.bind_eq_ok, Fallible.mapError_eq_ok,
    DataPlane.open_eq_ok, Opens]
  constructor
  · rintro ⟨channel, next, hchannel, ⟨_, _, ⟨_, rfl⟩, hreceive⟩, rfl⟩
    exact ⟨next, ⟨channel, hchannel, hreceive⟩, rfl⟩
  · rintro ⟨next, ⟨channel, hchannel, hreceive⟩, rfl⟩
    have hopen := DataPlane.established_of_receive hreceive
    exact ⟨channel, next, hchannel, ⟨(), channel, ⟨⟨hopen, by decide⟩, rfl⟩, hreceive⟩, rfl⟩

theorem sendOn_eq_ok {sessionId : SessionId} {missing openText sendText : String}
    {payload frame : Bytes} :
    sendOn ext sessionId missing openText sendText payload node = (.ok frame, final) ↔
      ∃ next, node.Seals ext sessionId payload frame next ∧
        node.withChannel sessionId next = final := by
  simp only [sendOn, onChannel_eq_ok, Fallible.bind_eq_ok, Fallible.mapError_eq_ok,
    DataPlane.open_eq_ok, Seals]
  constructor
  · rintro ⟨channel, next, hchannel, ⟨_, _, ⟨_, rfl⟩, hsend⟩, rfl⟩
    exact ⟨next, ⟨channel, hchannel, hsend⟩, rfl⟩
  · rintro ⟨next, ⟨channel, hchannel, hsend⟩, rfl⟩
    have hopen := DataPlane.established_of_send hsend
    exact ⟨channel, next, hchannel, ⟨(), channel, ⟨⟨hopen, by decide⟩, rfl⟩, hsend⟩, rfl⟩

theorem respond_eq_ok {inputs : Inputs} {channel : ResponseChannel} {payload : Bytes} :
    respond inputs channel payload node = (.ok result, final) ↔
      inputs.channelOpen = true ∧ node.withEffect (.respond channel payload) = final := by
  simp only [respond, emit, Fallible.failWhen_bind_run, Fallible.modify_run, withEffect]
  by_cases hopen : inputs.channelOpen <;> simp [hopen]

theorem admitFlow_eq_ok {flow : SessionId} {bytes : Nat} :
    admitFlow flow bytes node = (.ok result, final) ↔
      node.core.HasRoom flow ∧ { node with core := node.core.withFlow flow bytes } = final := by
  simp only [admitFlow, onCore, Fallible.bind_run, Fallible.attempt, Fallible.zoom,
    RelayCore.admitFlow_run, RelayCore.HasRoom]
  by_cases hroom : flow ∈ node.core.flows ∨
      node.core.flows.card < node.core.limits.maximumActiveFlows
  · simp [hroom]
  · simp [hroom]

theorem onClientContext_eq_ok {sessionId : SessionId}
    {routine : Fallible ForwardingContext RelayError Unit} :
    onClientContext sessionId routine node = (.ok result, final) ↔
      ∃ forwarding context, node.clientForwarding.lookup sessionId = some forwarding ∧
        routine forwarding.context = (.ok result, context) ∧
        node.withClientContext sessionId forwarding context = final := by
  unfold onClientContext withClientContext
  cases node.clientForwarding.lookup sessionId with
  | none => simp
  | some forwarding =>
      rcases hrun : routine forwarding.context with ⟨outcome, next⟩
      simp [hrun]

theorem onExitContext_eq_ok {forwardingId : SessionId}
    {routine : Fallible ForwardingContext RelayError Unit} :
    onExitContext forwardingId routine node = (.ok result, final) ↔
      ∃ context next, node.exitForwarding.lookup forwardingId = some context ∧
        routine context = (.ok result, next) ∧ node.withExitContext forwardingId next = final := by
  unfold onExitContext withExitContext
  cases node.exitForwarding.lookup forwardingId with
  | none => simp
  | some context =>
      rcases hrun : routine context with ⟨outcome, next⟩
      simp [hrun]

end Node

end Relay
