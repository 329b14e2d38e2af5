import GhostLayer.Network.NatHistory
import GhostLayer.Relay.Admission
import GhostLayer.Relay.Joining
import GhostLayer.Relay.StateLaws

/-! # The service around the loop

A relay signals its state to its health endpoint, and it takes down what it
holds when it is asked to end. A relay that was never told that it listens
cannot end in good order: its lifecycle does not lead there.
-/

namespace Relay

open Foundation Network

variable {ext : Externals}

/-- What the health endpoint of a relay reads. -/
structure HealthSignals where
  alive : Bool
  ready : Bool
  healthy : Bool
  deriving DecidableEq

def HealthSignals.new : HealthSignals := ⟨true, false, false⟩

namespace RelayCore

@[simp] theorem withFlow_lifecycle (core : RelayCore) (flow : SessionId) (bytes : Nat) :
    (core.withFlow flow bytes).lifecycle = core.lifecycle := by
  unfold withFlow
  split_ifs <;> rfl

end RelayCore

namespace Node

variable {node final : Node} {setup : Setup ext} {inputs : Inputs} {payload : Bytes}
  {peerId : PeerId} {channel : ResponseChannel} {event : LoopEvent}

/-! ## The lifecycle in the loop -/

theorem RequestStep.lifecycle
    (hstep : RequestStep ext setup inputs payload peerId channel node final) :
    final.core.lifecycle = node.core.lifecycle := by
  cases hstep with
  | exited message clientPeer context packet opening opened answer next _ decoded reaches exchanges
      answers =>
      obtain ⟨_, _, _, _, rfl, _⟩ := exchange_ok exchanges
      cases answer with
      | none =>
          obtain rfl := answers
          exact RelayCore.withFlow_lifecycle _ _ _
      | some response =>
          obtain ⟨_, _, _, _, rfl⟩ := answers
          exact RelayCore.withFlow_lifecycle _ _ _
  | forwarded => exact RelayCore.withFlow_lifecycle _ _ _
  | ignored | rejected | refused | accepted | started | metadata | forwardedBare | received
  | acknowledged => rfl

/-- The first address makes a relay ready, and nothing else moves its lifecycle. -/
def lifecycleAfter (event : LoopEvent) (lifecycle : RelayLifecycle) : RelayLifecycle :=
  match event with
  | .network (.listening _) => if lifecycle = .starting then .ready else lifecycle
  | .network _ | .tun _ | .heartbeat => lifecycle

theorem listening_lifecycle (hrun : listening node = (.ok (), final)) :
    final.core.lifecycle =
      if node.core.lifecycle = .starting then .ready else node.core.lifecycle := by
  rw [listening, Fallible.get_bind_run] at hrun
  by_cases hstarting : node.core.lifecycle = .starting
  · rw [if_neg (not_not.mpr hstarting)] at hrun
    rw [if_pos hstarting]
    simp only [onCore, Fallible.bind_eq_ok, Fallible.zoom_eq_ok, Fallible.mapError_eq_ok,
      RelayCore.transition_eq_ok] at hrun
    obtain ⟨_, _, ⟨_, ⟨_, rfl⟩, rfl⟩, _, ⟨_, rfl⟩, rfl⟩ := hrun
    rfl
  · rw [if_pos hstarting] at hrun
    obtain ⟨_, rfl⟩ := Fallible.pure_eq_ok.mp hrun
    rw [if_neg hstarting]

theorem handle_lifecycle (hrun : handle ext setup inputs event node = (.ok (), final)) :
    final.core.lifecycle = lifecycleAfter event node.core.lifecycle := by
  cases handle_step hrun with
  | listened address state lifecycle moves =>
      simp only [handle, handleEvent, Fallible.modify_bind_run] at hrun
      have hlifecycle := listening_lifecycle hrun
      exact hlifecycle
  | met | greeted => exact RelayCore.noted_lifecycle _ _
  | requested payload peerId channel state _ hstep => exact hstep.lifecycle
  | responded payload peerId requestId state _ hstep => cases hstep <;> rfl
  | left | beat | unsent | injected => rfl
  | idle event state quiet =>
      cases event with
      | network event => cases event <;> first | rfl | cases quiet
      | tun => rfl
      | heartbeat => cases quiet

theorem lifecycleAfter_keeps (event : LoopEvent) {lifecycle : RelayLifecycle}
    (hknown : lifecycle = .starting ∨ lifecycle = .ready) :
    lifecycleAfter event lifecycle = .starting ∨ lifecycleAfter event lifecycle = .ready := by
  unfold lifecycleAfter
  split
  · split_ifs
    · exact .inr rfl
    · exact hknown
  all_goals exact hknown

theorem lifecycle_of_reachable (hreach : (loop ext setup).Reachable node) :
    node.core.lifecycle = .starting ∨ node.core.lifecycle = .ready := by
  refine hreach.invariant
    (fun node => node.core.lifecycle = .starting ∨ node.core.lifecycle = .ready) ?_ ?_
  · intro node hstarted
    rw [hstarted.core]
    exact .inl rfl
  · rintro before after - hbefore ⟨inputs, event, hrun⟩
    rw [handle_lifecycle hrun]
    exact lifecycleAfter_keeps event hbefore

/-! ## Whose flows are translated -/

/-- A mapping of the translation table belongs to the client of an exit context. -/
def Attributes (exitForwarding : AList (fun _ : SessionId => ForwardingContext))
    (table : NatTable) : Prop :=
  EveryEntry (fun key _ => ∃ context, exitForwarding.lookup key.flowId = some context ∧
    context.clientSessionId = key.sessionId) table.mappings

theorem Attributes.cleanup {exitForwarding : AList (fun _ : SessionId => ForwardingContext)}
    {table : NatTable} (hattributes : Attributes exitForwarding table) (now : Nat) :
    Attributes exitForwarding (table.cleanup now) :=
  fun key mapping hfound => hattributes key mapping (NatTable.cleanup_mappings.mp hfound).1

/-- A context is made for the first message under its forwarding id, and its datagram is translated
for its client. -/
theorem attributes_exited {forwarded : ForwardingMessage} {clientPeer : PeerId}
    {context : ForwardingContext} {packet : ForwardedPacket} {message : DataPlaneMessage}
    {opened : EncryptedChannel} {answer : Option Bytes} {next : Node} (hsound : Sound setup node)
    (hattributes : ∀ table ∈ node.udpNat, Attributes node.exitForwarding table)
    (hreaches : Reaches ext node forwarded peerId clientPeer context packet message opened)
    (hexchange : exchange ext setup inputs forwarded peerId packet packet.payload
      (node.reached forwarded context packet opened) = (.ok answer, next)) :
    ∀ table ∈ next.udpNat, Attributes next.exitForwarding table := by
  obtain ⟨hunused, -⟩ := hsound.unused hreaches.held hreaches.admits
  have hcounted : ∀ table ∈ node.udpNat,
      Attributes (node.reached forwarded context packet opened).exitForwarding table := by
    intro table htable key mapping hfound
    obtain ⟨held, hheld, hclient⟩ := hattributes table htable key mapping hfound
    have hother : key.flowId ≠ forwarded.forwardingId := by
      intro hsame
      rw [hsame, hunused] at hheld
      cases hheld
    exact ⟨held, (AList.lookup_insert_ne hother).trans hheld, hclient⟩
  obtain ⟨_, udpNat, _, _, rfl, _, hnat, _⟩ := exchange_ok hexchange
  rcases hnat with rfl | ⟨table, mapping, created, source, _, htable, hcreate, rfl⟩
  · exact hcounted
  · rintro _ ⟨⟩
    refine Attributes.cleanup ?_ inputs.natReturn
    obtain ⟨_, _, _, hmappings, _⟩ := NatTable.create_ok hcreate
    intro key held hfound
    rw [hmappings] at hfound
    rcases lookup_insert_eq_some.mp hfound with ⟨rfl, -⟩ | ⟨-, hfound⟩
    · exact ⟨_, AList.lookup_insert _, hreaches.admits.belongs.carries.session.symm⟩
    · exact (hcounted table htable).cleanup inputs.natNow key held hfound

theorem attributes_of_reachable (hreach : (loop ext setup).Reachable node) :
    ∀ table ∈ node.udpNat, Attributes node.exitForwarding table := by
  refine hreach.invariant (fun node => ∀ table ∈ node.udpNat, Attributes node.exitForwarding table)
    ?_ ?_
  · intro node hstarted table htable key mapping hfound
    have hflow := ((Started.sound hstarted).nat table htable).flows key mapping hfound
    rw [hstarted.exitForwarding] at hflow
    cases hflow
  · rintro before after hbefore hattributes ⟨inputs, event, hrun⟩
    cases handle_step hrun with
    | idle | listened | met | left | greeted | unsent | injected => exact hattributes
    | beat now state =>
        rintro _ hcleaned
        obtain ⟨table, htable, rfl⟩ := Option.map_eq_some_iff.mp hcleaned
        exact (hattributes table htable).cleanup now
    | responded payload peerId requestId state _ hstep => cases hstep <;> exact hattributes
    | requested payload peerId channel state _ hstep =>
        cases hstep with
        | ignored | rejected | refused | accepted | started | metadata | forwarded | forwardedBare
        | received | acknowledged => exact hattributes
        | exited message clientPeer context packet opening opened answer next _ decoded reaches
            exchanges answers =>
            have hsound : Sound setup { before with state } := { sound_of_reachable hbefore with }
            have hnext := attributes_exited hsound hattributes reaches exchanges
            cases answer with
            | none =>
                obtain rfl := answers
                exact hnext
            | some response =>
                obtain ⟨_, _, _, _, rfl⟩ := answers
                exact hnext

end Node

structure Service where
  node : Node
  signals : HealthSignals

namespace Service

section Routines

variable (ext : Externals) (setup : Setup ext) (inputs : Inputs)

def onNode {α : Type} (routine : Handler α) : Fallible Service RelayError α :=
  Fallible.zoom Service.node (fun node service => { service with node }) routine

/-- The first address makes a relay ready, and every heartbeat tells whether it is healthy. -/
def signal (event : Node.LoopEvent) (node : Node) (signals : HealthSignals) : HealthSignals :=
  match event with
  | .network (.listening _) =>
      if node.core.lifecycle = .starting then { signals with ready := true, healthy := true }
      else signals
  | .network _ | .tun _ => signals
  | .heartbeat =>
      let health := RelayHealth.evaluate node.state (Node.thresholds ext setup) inputs.now
      { signals with healthy := decide (health.class' ≠ .unhealthy) }

def handle (event : Node.LoopEvent) : Fallible Service RelayError Unit := do
  let service ← Fallible.get
  onNode (Node.handle ext setup inputs event)
  Fallible.modify fun after =>
    { after with signals := signal ext setup inputs event service.node after.signals }

end Routines

/-! ## The end -/

def transition (next : RelayLifecycle) : Fallible Service RelayError Unit :=
  onNode (Node.onCore (Fallible.mapError (.core "relay lifecycle") (RelayCore.transition next)))

/-- The sessions of clients whose flows the translation table may hold. -/
def clientSessions (node : Node) : List SessionId :=
  views (fun _ forwarding => forwarding.context.clientSessionId) node.clientForwarding ++
    views (fun _ context => context.clientSessionId) node.exitForwarding

def shutdown : Fallible Service RelayError Unit := do
  let service ← Fallible.get
  if service.node.core.lifecycle = .ready then transition .draining
  transition .shuttingDown
  Fallible.modify fun service => {
    node := { service.node with state := service.node.state.setStatus .shuttingDown }
    signals := ⟨false, false, false⟩ }
  onNode (Fallible.modify fun node => { node with
    udpNat := node.udpNat.map fun table =>
      (clientSessions node).foldl (fun table sessionId => table.removeSession sessionId) table })
  onNode (Fallible.modify fun node => { node with
    channels := ∅
    clientForwarding := ∅
    exitForwarding := ∅ })
  transition .stopped

/-! ## Runs -/

variable {setup : Setup ext} {inputs : Inputs} {service final : Service}

/-- A relay with its health endpoint, until it is asked to end. -/
def run (ext : Externals) (setup : Setup ext) : System Service where
  init service := Node.Started ext setup service.node ∧ service.signals = .new
  step service next := ∃ inputs event, handle ext setup inputs event service = (.ok (), next)

theorem handle_eq_ok {event : Node.LoopEvent} :
    handle ext setup inputs event service = (.ok (), final) ↔
      Node.handle ext setup inputs event service.node = (.ok (), final.node) ∧
        final.signals = signal ext setup inputs event service.node service.signals := by
  obtain ⟨node, signals⟩ := final
  simp only [handle, Fallible.get_bind_run, onNode, Fallible.bind_eq_ok, Fallible.zoom_eq_ok,
    Fallible.modify_eq_ok]
  constructor
  · rintro ⟨_, _, ⟨next, hrun, rfl⟩, hfinal⟩
    obtain ⟨rfl, rfl⟩ := Service.mk.inj hfinal
    exact ⟨hrun, rfl⟩
  · rintro ⟨hrun, rfl⟩
    exact ⟨(), _, ⟨node, hrun, rfl⟩, rfl⟩

theorem loop_of_run (hreach : (run ext setup).Reachable service) :
    (Node.loop ext setup).Reachable service.node := by
  refine hreach.view Service.node ?_ ?_
  · rintro service ⟨hstarted, -⟩
    exact hstarted
  · rintro before after - ⟨inputs, event, hrun⟩
    exact .inr ⟨inputs, event, (handle_eq_ok.mp hrun).1⟩

/-! ## Signals -/

/-- What the endpoint shows of a relay. -/
structure Signals (service : Service) : Prop where
  alive : service.signals.alive = true
  ready : service.signals.ready = true ↔ service.node.core.lifecycle = .ready
  healthy : service.signals.healthy = true →
    service.node.state.status = .online ∨ service.node.state.status = .degraded

theorem applyNetworkEvent_status (state : RelayState)
    (event : NetworkEvent ResponseChannel RequestId) (now : Int) :
    (state.applyNetworkEvent event now).status = state.status ∨
      (state.applyNetworkEvent event now).status = .online := by
  cases event with
  | pingResult peerId result => cases result <;> exact .inl rfl
  | listening | peerConnected => exact .inr rfl
  | peerDisconnected | networkError | peerIdentified | discoveryRequest | discoveryResponse =>
      exact .inl rfl

/-- A relay that is not unhealthy is online or degraded. -/
theorem statusOf_healthy {health : HealthClass} (hhealthy : health ≠ .unhealthy) :
    Node.statusOf health = .online ∨ Node.statusOf health = .degraded := by
  cases health with
  | healthy => exact .inl rfl
  | degraded => exact .inr rfl
  | unhealthy => exact absurd rfl hhealthy

theorem signals_of_reachable (hreach : (run ext setup).Reachable service) : Signals service := by
  refine hreach.invariant Signals ?_ ?_
  · rintro service ⟨hstarted, hnew⟩
    refine ⟨by rw [hnew]; rfl, ?_, by rw [hnew]; exact nofun⟩
    rw [hnew, hstarted.core]
    exact ⟨nofun, nofun⟩
  · rintro before after hbefore hsignals ⟨inputs, event, hrun⟩
    obtain ⟨hhandle, hafter⟩ := handle_eq_ok.mp hrun
    have hlifecycle := Node.handle_lifecycle hhandle
    have hstate := Node.handle_state hhandle
    obtain ⟨halive, hready, hhealthy⟩ := hsignals
    -- An event that signals nothing leaves the lifecycle too, and no status gets worse by it.
    have hquiet : after.signals = before.signals →
        after.node.core.lifecycle = before.node.core.lifecycle →
        after.node.state.status = before.node.state.status ∨
          after.node.state.status = .online → Signals after := by
      intro hsame hlife hstatus
      refine ⟨by rw [hsame, halive], by rw [hsame, hlife, hready], fun hshown => ?_⟩
      rw [hsame] at hshown
      rcases hstatus with hstatus | hstatus
      · rw [hstatus]
        exact hhealthy hshown
      · exact .inl hstatus
    cases event with
    | tun payload => exact hquiet hafter hlifecycle (.inl (by rw [hstate]; rfl))
    | heartbeat =>
        refine ⟨by rw [hafter]; exact halive, by rw [hafter, hlifecycle]; exact hready, ?_⟩
        intro hshown
        rw [hafter] at hshown
        have hclass := of_decide_eq_true hshown
        rw [hstate]
        exact statusOf_healthy hclass
    | network event =>
        have hstatus := applyNetworkEvent_status before.node.state event inputs.now
        cases event with
        | listening address =>
            by_cases hstarting : before.node.core.lifecycle = .starting
            · have hsignals : after.signals = ⟨before.signals.alive, true, true⟩ := by
                rw [hafter, signal, if_pos hstarting]
              refine ⟨by rw [hsignals, halive], ?_, fun _ => .inl (by rw [hstate]; rfl)⟩
              rw [hsignals, hlifecycle, Node.lifecycleAfter, if_pos hstarting]
              exact iff_of_true rfl rfl
            · refine hquiet ?_ ?_ (by rw [hstate]; exact hstatus)
              · rw [hafter, signal, if_neg hstarting]
              · rw [hlifecycle, Node.lifecycleAfter, if_neg hstarting]
        | _ => exact hquiet hafter hlifecycle (by rw [hstate]; exact hstatus)

/-! ## Shutting down -/

theorem transition_run (next : RelayLifecycle) (service : Service) :
    transition next service =
      if RelayCore.validTransition service.node.core.lifecycle next then
        (.ok (), { service with
          node := { service.node with core := { service.node.core with lifecycle := next } } })
      else (.error (.core "relay lifecycle"
        (.invalidTransition service.node.core.lifecycle "lifecycle transition")), service) := by
  simp only [transition, onNode, Node.onCore, Fallible.zoom, Fallible.mapError,
    RelayCore.transition, Fallible.get_bind_run, Fallible.failWhen_bind_run, Fallible.modify_run]
  by_cases hvalid : RelayCore.validTransition service.node.core.lifecycle next = true
  · simp [hvalid]
  · simp [hvalid]

/-- A table after the flows of some sessions were removed. -/
def cleared (sessions : List SessionId) (table : NatTable) : NatTable :=
  sessions.foldl (fun table sessionId => table.removeSession sessionId) table

/-- A relay that has shut down. -/
def stopped (service : Service) : Service where
  node := { service.node with
    core := { service.node.core with lifecycle := .stopped }
    state := service.node.state.setStatus .shuttingDown
    channels := ∅
    clientForwarding := ∅
    exitForwarding := ∅
    udpNat := service.node.udpNat.map (cleared (clientSessions service.node)) }
  signals := ⟨false, false, false⟩

theorem shutdown_ready (hready : service.node.core.lifecycle = .ready) :
    shutdown service = (.ok (), service.stopped) := by
  obtain ⟨node, signals⟩ := service
  obtain ⟨core, state⟩ := node
  obtain ⟨limits, lifecycle⟩ := core
  obtain rfl : lifecycle = .ready := hready
  rfl

/-- The lifecycle does not lead from its start to its end. -/
theorem shutdown_starting (hstarting : service.node.core.lifecycle = .starting) :
    shutdown service = (.error (.core "relay lifecycle"
      (.invalidTransition .starting "lifecycle transition")), service) := by
  have hunready : service.node.core.lifecycle ≠ .ready := by
    rw [hstarting]
    decide
  rw [shutdown, Fallible.get_bind_run, if_neg hunready]
  simp only [Fallible.bind_run, transition_run, hstarting, RelayCore.validTransition,
    Bool.false_eq_true, if_false]

theorem cleared_mappings (sessions : List SessionId) (table : NatTable) (key : FlowKey) :
    (cleared sessions table).mappings.lookup key =
      if key.sessionId ∈ sessions then none else table.mappings.lookup key := by
  induction sessions generalizing table with
  | nil => simp [cleared]
  | cons first rest ih =>
      rw [cleared, List.foldl_cons, ← cleared, ih, NatTable.removeSession_mappings]
      by_cases hrest : key.sessionId ∈ rest <;> by_cases hfirst : key.sessionId = first <;>
        simp [hrest, hfirst]

theorem cleared_coherent (sessions : List SessionId) {table : NatTable}
    (hcoherent : table.Coherent) : (cleared sessions table).Coherent := by
  induction sessions generalizing table with
  | nil => exact hcoherent
  | cons first rest ih => exact ih (hcoherent.removeSession first)

/-- Every flow of the table belongs to a client that the exit has a context for. -/
theorem cleared_empty (hreach : (run ext setup).Reachable service) {table : NatTable}
    (htable : table ∈ service.node.udpNat) :
    (cleared (clientSessions service.node) table).mappings = ∅ ∧
      (cleared (clientSessions service.node) table).reverse = ∅ := by
  have hloop := loop_of_run hreach
  have hmappings : ∀ key,
      (cleared (clientSessions service.node) table).mappings.lookup key = none := by
    intro key
    rw [cleared_mappings]
    split_ifs with hsession
    · rfl
    by_contra hfound
    obtain ⟨mapping, hmapping⟩ := Option.ne_none_iff_exists'.mp hfound
    obtain ⟨context, hcontext, hclient⟩ :=
      Node.attributes_of_reachable hloop table htable key mapping hmapping
    exact hsession (List.mem_append_right _ (mem_views.mpr ⟨_, context, hcontext, hclient⟩))
  refine ⟨eq_empty_of_lookup hmappings, eq_empty_of_lookup fun address => ?_⟩
  by_contra hfound
  obtain ⟨key, hkey⟩ := Option.ne_none_iff_exists'.mp hfound
  have hcoherent := cleared_coherent (clientSessions service.node)
    ((Node.sound_of_reachable hloop).nat table htable).coherent
  obtain ⟨mapping, hmapping, -⟩ := hcoherent.backward address key hkey
  cases (hmappings key).symm.trans hmapping

/-- A relay ends in good order exactly when it has told its endpoint that it is ready. Then it is
stopped, its signals are down, and no channel, no context and no translated flow is left. Before
that the request to end is an error, which leaves everything as it is. -/
theorem shutdown_laws (hreach : (run ext setup).Reachable service) :
    ((shutdown service).1.IsOk ↔ service.signals.ready = true) ∧
    (∀ final, shutdown service = (.ok (), final) →
      final.node.core.lifecycle = .stopped ∧ final.node.state.status = .shuttingDown ∧
      final.signals = ⟨false, false, false⟩ ∧
      final.node.channels = ∅ ∧ final.node.clientForwarding = ∅ ∧
      final.node.exitForwarding = ∅ ∧
      ∀ table ∈ final.node.udpNat, table.mappings = ∅ ∧ table.reverse = ∅) ∧
    (service.signals.ready = false → shutdown service = (.error (.core "relay lifecycle"
      (.invalidTransition .starting "lifecycle transition")), service)) := by
  have hsignals := signals_of_reachable hreach
  rcases Node.lifecycle_of_reachable (loop_of_run hreach) with hstarting | hready
  · have hrun := shutdown_starting hstarting
    have hunready : ¬ service.signals.ready = true := by
      rw [hsignals.ready, hstarting]
      decide
    refine ⟨iff_of_false ?_ hunready, ?_, fun _ => hrun⟩
    · rw [hrun]
      exact nofun
    · intro final hfinal
      cases hrun.symm.trans hfinal
  · have hrun := shutdown_ready hready
    have hshown := hsignals.ready.mpr hready
    refine ⟨iff_of_true ⟨(), by rw [hrun]⟩ hshown, ?_, fun hunready => ?_⟩
    · intro final hfinal
      obtain ⟨-, rfl⟩ := Prod.mk.inj (hrun.symm.trans hfinal)
      refine ⟨rfl, rfl, rfl, rfl, rfl, rfl, ?_⟩
      intro table hcleared
      obtain ⟨before, hbefore, rfl⟩ := Option.map_eq_some_iff.mp hcleared
      exact cleared_empty hreach hbefore
    · rw [hshown] at hunready
      cases hunready

section Ready

open ReferenceRelay

/-- A relay that listens shuts down. -/
theorem shutdown_laws_ready : ∃ service,
    (run reference (ReferenceRelay.setup .exit (bounds 8 8 8))).Reachable service ∧
      (shutdown service).1.IsOk := by
  have hstarted : (run reference (ReferenceRelay.setup .exit (bounds 8 8 8))).Reachable
      ⟨started .exit (bounds 8 8 8), .new⟩ := .of_init ⟨isStarted _ _, rfl⟩
  have hready : (run reference (ReferenceRelay.setup .exit (bounds 8 8 8))).Reachable
      ⟨ready .exit (bounds 8 8 8), ⟨true, true, true⟩⟩ := hstarted.tail
    ⟨ReferenceRelay.inputs 0, .network (.listening ""), handle_eq_ok.mpr ⟨rfl, rfl⟩⟩
  exact ⟨_, hready, (shutdown_laws hready).1.mpr rfl⟩

end Ready

end Service

end Relay
