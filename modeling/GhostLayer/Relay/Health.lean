import GhostLayer.Relay.Joining
import GhostLayer.Relay.Routing
import GhostLayer.Relay.StateLaws

/-! # Health over a run

The health class of a heartbeat is documented as a function of what happened so
far: the last heartbeat, the peers, the latest ping. The code writes each class
back into the status that its next evaluation reads, and only a new listening
address or a new connection takes it out again. A class is therefore as
documented exactly as long as it does not get better by itself.
-/

namespace Relay

open Foundation Network

variable {ext : Externals}

/-! ## The documented class -/

/-- A relay together with what its health is documented to depend on. -/
structure Observed where
  node : Node
  connected : Finset PeerId
  /-- How often a peer connected that was not connected before. -/
  connections : Nat
  /-- The results of all pings, the latest last. -/
  pings : List (Option Nat)
  /-- When the last heartbeat was. -/
  lastTick : Option Int
  /-- The documented class at the last heartbeat, unless an address or a connection came since. -/
  carried : Option HealthClass

namespace Observed

open Node

def latestPing (pings : List (Option Nat)) : Option Nat := (pings.filterMap id).getLast?

/-- The last heartbeat is older than it may be. -/
def Stale (thresholds : HealthThresholds) (now : Int) (observed : Observed) : Prop :=
  ∃ tick ∈ observed.lastTick, thresholds.heartbeatFreshness < (now - tick).toNat

instance (thresholds : HealthThresholds) (now : Int) (observed : Observed) :
    Decidable (observed.Stale thresholds now) :=
  inferInstanceAs (Decidable (∃ tick ∈ observed.lastTick, _))

/-- All peers were lost after one had connected. -/
def Lost (observed : Observed) : Prop := observed.connected = ∅ ∧ 0 < observed.connections

instance (observed : Observed) : Decidable observed.Lost := inferInstanceAs (Decidable (_ ∧ _))

/-- The latest successful ping took longer than the threshold. -/
def Slow (thresholds : HealthThresholds) (observed : Observed) : Prop :=
  ∃ latency ∈ latestPing observed.pings, thresholds.degradedLatency < latency

instance (thresholds : HealthThresholds) (observed : Observed) :
    Decidable (observed.Slow thresholds) :=
  inferInstanceAs (Decidable (∃ latency ∈ latestPing observed.pings, _))

def documented (thresholds : HealthThresholds) (now : Int) (observed : Observed) : HealthClass :=
  if observed.Stale thresholds now ∨ observed.Lost then .unhealthy
  else if observed.Slow thresholds then .degraded
  else .healthy

/-! ## Runs -/

/-- What is observed of an event that leaves the relay as `node`. -/
def after (setup : Setup ext) (inputs : Inputs) (event : LoopEvent) (node : Node)
    (observed : Observed) : Observed :=
  match event with
  | .network (.listening _) => { observed with node, carried := none }
  | .network (.peerConnected peerId) =>
      { observed with
        node
        connected := insert peerId observed.connected
        connections := if peerId ∈ observed.connected then observed.connections
          else observed.connections + 1
        carried := none }
  | .network (.peerDisconnected peerId) =>
      { observed with node, connected := observed.connected.erase peerId }
  | .network (.pingResult _ result) =>
      { observed with node, pings := observed.pings ++ [result.toOption] }
  | .heartbeat =>
      { observed with
        node
        lastTick := some inputs.now
        carried := some (observed.documented (thresholds ext setup) inputs.now) }
  | .network _ | .tun _ => { observed with node }

variable (ext) (setup : Setup ext)

/-- The runs of a relay on events that are allowed. -/
def run (allowed : Inputs → LoopEvent → Observed → Prop) : System Observed where
  init observed := Started ext setup observed.node ∧ observed.connected = ∅ ∧
    observed.connections = 0 ∧ observed.pings = [] ∧ observed.lastTick = none ∧
    observed.carried = none
  step observed next := ∃ inputs event node, allowed inputs event observed ∧
    handle ext setup inputs event observed.node = (.ok (), node) ∧
    next = observed.after setup inputs event node

variable {ext setup} {allowed : Inputs → LoopEvent → Observed → Prop} {observed : Observed}

/-- The window of pings holds a successful one. -/
def Remembers (observed : Observed) : Prop :=
  ∃ latency, some latency ∈
    observed.pings.drop (observed.pings.length - RelayState.maxLatencySamples)

/-- What makes the documented class is still in the state of the relay: the window of pings holds a
successful one, the counter of connections has not come back to zero. -/
def Recorded (thresholds : HealthThresholds) (now : Int) (observed : Observed) : Prop :=
  match observed.documented thresholds now with
  | .healthy => True
  | .degraded => observed.Remembers
  | .unhealthy => observed.Stale thresholds now ∨ observed.connections % 2 ^ 64 ≠ 0

/-- A heartbeat at which the documented class is no better than at the one before, unless an address
or a connection came since, and is recorded or the same as before. -/
def Settled (setup : Setup ext) (inputs : Inputs) (event : LoopEvent) (observed : Observed) :
    Prop :=
  match event with
  | .heartbeat =>
      (∀ before ∈ observed.carried,
        healthRank (observed.documented (thresholds ext setup) inputs.now) ≤ healthRank before) ∧
      (observed.Recorded (thresholds ext setup) inputs.now ∨
        observed.carried = some (observed.documented (thresholds ext setup) inputs.now))
  | .network _ | .tun _ => True

/-! ## What the state records -/

/-- The reported state in terms of what happened. -/
structure Tracks (observed : Observed) : Prop where
  active : observed.node.state.activePeers = observed.connected
  total : observed.node.state.totalSuccessfulConnections = UInt64.ofNat observed.connections
  window : observed.node.state.latencyMeasurements.map LatencyMeasurement.roundTrip =
    observed.pings.drop (observed.pings.length - RelayState.maxLatencySamples)
  beat : observed.node.state.lastHeartbeat = observed.lastTick

/-- The window moves on by one result. -/
theorem recordLatency_window {state : RelayState} {pings : List (Option Nat)}
    (measurement : LatencyMeasurement)
    (hwindow : state.latencyMeasurements.map LatencyMeasurement.roundTrip =
      pings.drop (pings.length - RelayState.maxLatencySamples)) :
    (state.recordLatency measurement).latencyMeasurements.map LatencyMeasurement.roundTrip =
      (pings ++ [measurement.roundTrip]).drop
        ((pings ++ [measurement.roundTrip]).length - RelayState.maxLatencySamples) := by
  have hlength := congrArg List.length hwindow
  rw [List.length_map, List.length_drop] at hlength
  have hdrop : (pings ++ [measurement.roundTrip]).drop
      ((pings ++ [measurement.roundTrip]).length - RelayState.maxLatencySamples) =
      pings.drop (pings.length + 1 - RelayState.maxLatencySamples) ++ [measurement.roundTrip] := by
    rw [List.length_append, List.length_singleton, List.drop_append_of_le_length]
    unfold RelayState.maxLatencySamples
    omega
  rw [hdrop]
  unfold RelayState.recordLatency
  simp only [List.map_append, List.map_cons, List.map_nil]
  congr 1
  unfold RelayState.maxLatencySamples at hlength hwindow ⊢
  split
  next hfull =>
      rw [List.map_tail, hwindow, List.tail_drop]
      congr 1
      omega
  next hroom =>
      rw [hwindow]
      congr 1
      omega

theorem Tracks.after {inputs : Inputs} {event : LoopEvent} {node : Node}
    (htracks : Tracks observed)
    (hrun : handle ext setup inputs event observed.node = (.ok (), node)) :
    Tracks (observed.after setup inputs event node) := by
  have hstate := handle_state hrun
  cases event with
  | tun =>
      obtain ⟨hactive, htotal, hwindow, hbeat⟩ := htracks
      constructor <;> simp only [Observed.after, hstate, stateAfter] <;> assumption
  | heartbeat =>
      obtain ⟨hactive, htotal, hwindow, _⟩ := htracks
      constructor <;> simp only [Observed.after, hstate, stateAfter] <;> assumption
  | network event =>
      obtain ⟨hactive, htotal, hwindow, hbeat⟩ := htracks
      cases event with
      | peerConnected peerId =>
          constructor <;> simp only [Observed.after, hstate, stateAfter,
            RelayState.applyNetworkEvent]
          · rw [hactive]
          · rw [hactive, htotal]
            split_ifs
            · rfl
            · rw [UInt64.ofNat_add]
              rfl
          · exact hwindow
          · exact hbeat
      | peerDisconnected peerId =>
          constructor <;> simp only [Observed.after, hstate, stateAfter,
            RelayState.applyNetworkEvent]
          · rw [hactive]
          · exact htotal
          · exact hwindow
          · exact hbeat
      -- A result and a failure both take a place in the window.
      | pingResult peerId result =>
          have hmoved := fun measurement => recordLatency_window measurement hwindow
          cases result with
          | ok roundTrip =>
              constructor <;> rw [Observed.after, hstate]
              exacts [hactive, htotal, hmoved _, hbeat]
          | error reason =>
              constructor <;> rw [Observed.after, hstate]
              exacts [hactive, htotal, hmoved _, hbeat]
      | listening | peerIdentified | discoveryRequest | discoveryResponse | networkError =>
          constructor <;> simp only [Observed.after, hstate, stateAfter,
            RelayState.applyNetworkEvent] <;> assumption

theorem tracks (hreach : (run ext setup allowed).Reachable observed) : Tracks observed := by
  refine hreach.invariant _ ?_ ?_
  · rintro observed ⟨hstarted, hconnected, hconnections, hpings, htick, -⟩
    constructor <;> simp [hstarted.state, RelayState.new, *]
  · rintro observed _ _ htracks ⟨inputs, event, node, _, hrun, rfl⟩
    exact htracks.after hrun

/-! ## The class that is computed -/

theorem latestPing_isSome {pings : List (Option Nat)} :
    (latestPing pings).isSome ↔ ∃ latency, some latency ∈ pings := by
  unfold latestPing
  rw [List.getLast?_isSome, ne_eq, List.filterMap_eq_nil_iff]
  simp [Option.ne_none_iff_exists', ← exists_and_left]

/-- The latest ping of the window, unless all successful ones have left it. -/
theorem slow_window_iff {bound : HealthThresholds} :
    (∃ latency ∈ latestPing (observed.pings.drop
        (observed.pings.length - RelayState.maxLatencySamples)), bound.degradedLatency < latency) ↔
      observed.Slow bound ∧ observed.Remembers := by
  unfold Slow Remembers
  generalize observed.pings.length - RelayState.maxLatencySamples = count
  have hsplit : latestPing observed.pings = (latestPing (observed.pings.drop count)).or
      (latestPing (observed.pings.take count)) := by
    unfold latestPing
    conv_lhs => rw [← List.take_append_drop count observed.pings, List.filterMap_append]
    rw [List.getLast?_append]
  rw [← latestPing_isSome, hsplit]
  cases latestPing (observed.pings.drop count) <;> simp

/-- What the code takes for Unhealthy at a heartbeat. -/
def FoundUnhealthy (thresholds : HealthThresholds) (now : Int) (observed : Observed) : Prop :=
  (observed.node.state.status = .offline ∨ observed.node.state.status = .shuttingDown) ∨
    observed.Stale thresholds now ∨ observed.Lost ∧ observed.connections % 2 ^ 64 ≠ 0

/-- What the code takes for Degraded, if it is not Unhealthy. -/
def FoundDegraded (thresholds : HealthThresholds) (observed : Observed) : Prop :=
  (observed.Slow thresholds ∧ observed.Remembers) ∨ observed.node.state.status = .degraded

variable (setup) in
/-- The class of a heartbeat in terms of what happened and of the status. -/
theorem class_cases (inputs : Inputs) (htracks : Tracks observed) :
    observed.FoundUnhealthy (thresholds ext setup) inputs.now ∧
      (healthAt setup inputs observed.node.state).class' = .unhealthy ∨
    ¬ observed.FoundUnhealthy (thresholds ext setup) inputs.now ∧
      observed.FoundDegraded (thresholds ext setup) ∧
      (healthAt setup inputs observed.node.state).class' = .degraded ∨
    ¬ observed.FoundUnhealthy (thresholds ext setup) inputs.now ∧
      ¬ observed.FoundDegraded (thresholds ext setup) ∧
      (healthAt setup inputs observed.node.state).class' = .healthy := by
  -- Each test of the code as a predicate on what happened.
  have hstale : (¬ observed.lastTick.any (fun timestamp => decide ((inputs.now - timestamp).toNat ≤
      (thresholds ext setup).heartbeatFreshness)) = true ∧ observed.lastTick.isSome = true) ↔
      observed.Stale (thresholds ext setup) inputs.now := by
    unfold Stale
    cases observed.lastTick with
    | none => simp
    | some tick =>
        simp only [Option.any_some, decide_eq_true_eq, Option.isSome_some, and_true,
          Option.mem_some_iff, exists_eq_left']
        omega
  have hlost : (¬ (observed.connected.card > 0 ∨ UInt64.ofNat observed.connections = 0)) ↔
      observed.Lost ∧ observed.connections % 2 ^ 64 ≠ 0 := by
    have hzero : UInt64.ofNat observed.connections = 0 ↔ observed.connections % 2 ^ 64 = 0 := by
      rw [← UInt64.toNat_inj, UInt64.toNat_ofNat']
      rfl
    rw [not_or, gt_iff_lt, Finset.card_pos, Finset.not_nonempty_iff_eq_empty, hzero, Lost]
    constructor
    · rintro ⟨hempty, hcount⟩
      exact ⟨⟨hempty, Nat.pos_of_ne_zero fun hnone => hcount (by simp [hnone])⟩, hcount⟩
    · rintro ⟨⟨hempty, _⟩, hcount⟩
      exact ⟨hempty, hcount⟩
  have hlatency : (observed.node.state.latencyMeasurements.filterMap
      LatencyMeasurement.roundTrip).getLast? = latestPing (observed.pings.drop
        (observed.pings.length - RelayState.maxLatencySamples)) := by
    rw [latestPing, ← htracks.window, List.filterMap_map]
    rfl
  have hslow : (latestPing (observed.pings.drop (observed.pings.length -
      RelayState.maxLatencySamples))).any
      (fun value => decide (value > (thresholds ext setup).degradedLatency)) = true ↔
      observed.Slow (thresholds ext setup) ∧ observed.Remembers := by
    rw [← slow_window_iff, Option.any_eq_true]
    simp
  unfold healthAt RelayHealth.evaluate FoundUnhealthy FoundDegraded
  simp only [hlatency, htracks.beat, htracks.active, htracks.total, hstale, hlost, hslow]
  split_ifs <;> simp_all

/-- The status as the last heartbeat left it, if it was not reset since. -/
def Carries (observed : Observed) : Prop :=
  match observed.carried with
  | some before => observed.node.state.status = statusOf before
  | none => observed.node.state.status = .starting ∨ observed.node.state.status = .online

variable (setup) in
/-- A heartbeat computes the documented class exactly when it is settled. -/
theorem class_documented_iff (inputs : Inputs) (htracks : Tracks observed)
    (hcarries : Carries observed) :
    (healthAt setup inputs observed.node.state).class' =
        observed.documented (thresholds ext setup) inputs.now ↔
      Settled setup inputs .heartbeat observed := by
  have hclass := class_cases setup inputs htracks
  have hoffline : (observed.node.state.status = .offline ∨
      observed.node.state.status = .shuttingDown) ↔ observed.carried = some .unhealthy := by
    unfold Carries at hcarries
    rcases hcarried : observed.carried with _ | (_ | _ | _) <;> rw [hcarried] at hcarries
    · rcases hcarries with hstatus | hstatus <;> simp [hstatus]
    all_goals simp [hcarries, statusOf]
  have hdegraded : observed.node.state.status = .degraded ↔
      observed.carried = some .degraded := by
    unfold Carries at hcarries
    rcases hcarried : observed.carried with _ | (_ | _ | _) <;> rw [hcarried] at hcarries
    · rcases hcarries with hstatus | hstatus <;> simp [hstatus]
    all_goals simp [hcarries, statusOf]
  unfold FoundUnhealthy FoundDegraded at hclass
  rw [hoffline, hdegraded] at hclass
  clear hoffline hdegraded hcarries
  unfold Settled Recorded documented
  -- Each class that is carried on is a lower bound for the next one.
  rcases hcarried : observed.carried with _ | (_ | _ | _) <;> rw [hcarried] at hclass <;>
    split_ifs with hbad hslow <;> simp only [healthRank, Option.mem_def] <;> grind

theorem Carries.after {inputs : Inputs} {event : LoopEvent} {node : Node}
    (htracks : Tracks observed) (hcarries : Carries observed)
    (hsettled : Settled setup inputs event observed)
    (hrun : handle ext setup inputs event observed.node = (.ok (), node)) :
    Carries (observed.after setup inputs event node) := by
  have hstate := handle_state hrun
  cases event with
  | tun =>
      simp only [Carries, Observed.after, hstate, stateAfter]
      exact hcarries
  | heartbeat =>
      have hclass := (class_documented_iff setup inputs htracks hcarries).mpr hsettled
      simp only [Carries, Observed.after, hstate, stateAfter, hclass]
      rfl
  | network event =>
      cases event with
      | listening | peerConnected =>
          simp only [Carries, Observed.after, hstate, stateAfter, RelayState.applyNetworkEvent]
          exact .inr trivial
      | pingResult peerId result =>
          cases result <;> simp only [Carries, Observed.after, hstate, stateAfter] <;>
            exact hcarries
      | peerDisconnected | peerIdentified | discoveryRequest | discoveryResponse | networkError =>
          simp only [Carries, Observed.after, hstate, stateAfter, RelayState.applyNetworkEvent]
          exact hcarries

theorem carries (hreach : (run ext setup (Settled setup)).Reachable observed) :
    Carries observed := by
  refine hreach.invariant _ ?_ ?_
  · rintro observed ⟨hstarted, -, -, -, -, hcarried⟩
    simp [Carries, hcarried, hstarted.state, RelayState.new]
  · rintro observed _ hreach hcarries ⟨inputs, event, node, hsettled, hrun, rfl⟩
    exact hcarries.after (tracks hreach) hsettled hrun

/-- In a run whose heartbeats were settled so far, the next one computes the documented class
exactly when it is settled too. -/
theorem health_documented_iff (inputs : Inputs)
    (hreach : (run ext setup (Settled setup)).Reachable observed) :
    (healthAt setup inputs observed.node.state).class' =
        observed.documented (thresholds ext setup) inputs.now ↔
      Settled setup inputs .heartbeat observed :=
  class_documented_iff setup inputs (tracks hreach) (carries hreach)

/-! ## Runs over the reference instance -/

open ReferenceRelay

theorem unpinged_reachable (allowed : Inputs → LoopEvent → Observed → Prop) :
    (run reference (ReferenceRelay.setup .both (bounds 4 4 4)) allowed).Reachable
      ⟨started .both (bounds 4 4 4), ∅, 0, [], none, none⟩ :=
  .of_init ⟨isStarted .both (bounds 4 4 4), rfl, rfl, rfl, rfl, rfl⟩

theorem health_documented_iff_slow : ∃ observed,
    (run reference (ReferenceRelay.setup .both (bounds 4 4 4))
      (Settled (ReferenceRelay.setup .both (bounds 4 4 4)))).Reachable observed ∧
    (healthAt (ReferenceRelay.setup .both (bounds 4 4 4)) (inputs 0) observed.node.state).class' =
      .degraded := by
  have hslow := (unpinged_reachable (Settled (ReferenceRelay.setup .both (bounds 4 4 4)))).tail
    ⟨inputs 0, .network (.pingResult ⟨[1]⟩ (.ok (10 ^ 9))), _, trivial, rfl, rfl⟩
  refine ⟨_, hslow, (health_documented_iff (inputs 0) hslow).mpr ⟨nofun, .inl ?_⟩⟩
  exact ⟨10 ^ 9, List.mem_singleton_self _⟩

/-- After a slow ping and a heartbeat, a fast ping does not make the relay healthy. -/
theorem fast_still_degraded : ∃ observed,
    (run reference (ReferenceRelay.setup .both (bounds 4 4 4)) fun _ _ _ => True).Reachable
      observed ∧
    observed.documented (thresholds reference (ReferenceRelay.setup .both (bounds 4 4 4)))
      (inputs 0).now = .healthy ∧
    (healthAt (ReferenceRelay.setup .both (bounds 4 4 4)) (inputs 0) observed.node.state).class' =
      .degraded := by
  have hslow := (unpinged_reachable fun _ _ _ => True).tail
    ⟨inputs 0, .network (.pingResult ⟨[1]⟩ (.ok (10 ^ 9))), _, trivial, rfl, rfl⟩
  have htick := hslow.tail ⟨inputs 0, .heartbeat, _, trivial, rfl, rfl⟩
  have hfast := htick.tail ⟨inputs 0, .network (.pingResult ⟨[1]⟩ (.ok 0)), _, trivial, rfl, rfl⟩
  exact ⟨_, hfast, rfl, rfl⟩

end Observed

end Relay
