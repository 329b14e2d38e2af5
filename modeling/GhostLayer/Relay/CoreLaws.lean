import GhostLayer.Foundation.Frames
import GhostLayer.Foundation.Operations
import GhostLayer.Relay.NodeLaws

/-! # The resource policy over every sequence of operations

The gauges of a relay show the sizes of its sets and these stay within their
limits; its lifecycle goes forward only. What the counters of traffic add up to,
and what a relay that drains still takes on, is settled for every sequence too:
a flow that is known is not counted again, and flows are admitted in every state.
-/

namespace Relay

open Foundation Network

/-- How far the lifecycle of a relay has come. -/
def RelayLifecycle.rank : RelayLifecycle → Nat
  | .starting => 0
  | .discovering => 1
  | .ready => 2
  | .draining => 3
  | .shuttingDown => 4
  | .stopped => 5

def RelayMetrics.gauges (metrics : RelayMetrics) : Nat × Nat × Nat :=
  (metrics.activePeers, metrics.activeSessions, metrics.activeFlows)

/-- The counters of admitted packets and their bytes. -/
def RelayMetrics.traffic (metrics : RelayMetrics) : UInt64 × UInt64 :=
  (metrics.packetsAccepted, metrics.bytesForwarded)

namespace RelayCore

variable {υ : Type} {view : RelayMetrics → υ} {core final : RelayCore}

/-- What a caller does to the metrics through `metrics_mut`, where it leaves a part of them
alone. -/
structure MetricsEdit (view : RelayMetrics → υ) where
  update : RelayMetrics → RelayMetrics
  keeps : ∀ metrics, view (update metrics) = view metrics

inductive Operation (view : RelayMetrics → υ) where
  | transition (next : RelayLifecycle)
  | admitPeer (peer : PeerId)
  | removePeer (peer : PeerId)
  | admitSession (session : SessionId)
  | removeSession (session : SessionId)
  | admitFlow (flow : SessionId) (bytes : Nat)
  | removeFlow (flow : SessionId)
  | rejectPacket
  | metricsMut (edit : MetricsEdit view)

def perform : Operation view → Fallible RelayCore RelayCoreError Unit
  | .transition next => transition next
  | .admitPeer peer => admitPeer peer
  | .removePeer peer => Fallible.modify (removePeer peer)
  | .admitSession session => admitSession session
  | .removeSession session => Fallible.modify (removeSession session)
  | .admitFlow flow bytes => admitFlow flow bytes
  | .removeFlow flow => Fallible.modify (removeFlow flow)
  | .rejectPacket => Fallible.modify rejectPacket
  | .metricsMut edit =>
      Fallible.modify (fun core => { core with metrics := edit.update core.metrics })

/-! ## One operation -/

/-- The relay takes on peers and sessions. -/
def TakesOn (core : RelayCore) : Prop := core.lifecycle = .ready ∨ core.lifecycle = .discovering

def withPeer (core : RelayCore) (peer : PeerId) : RelayCore :=
  { core with
    peers := insert peer core.peers
    metrics := { core.metrics with activePeers := (insert peer core.peers).card } }

/-- What an operation that succeeds makes of the policy. -/
inductive Advance (core : RelayCore) : Operation view → RelayCore → Prop
  | transition (next : RelayLifecycle) (valid : validTransition core.lifecycle next = true) :
      Advance core (.transition next) { core with lifecycle := next }
  | knownPeer (peer : PeerId) (known : peer ∈ core.peers) : Advance core (.admitPeer peer) core
  | peer (peer : PeerId) (new : peer ∉ core.peers) (takes : core.TakesOn)
      (room : core.peers.card < core.limits.maximumConnectedPeers) :
      Advance core (.admitPeer peer) (core.withPeer peer)
  | removePeer (peer : PeerId) : Advance core (.removePeer peer) (core.removePeer peer)
  | session (session : SessionId) (takes : core.TakesSession) :
      Advance core (.admitSession session) (core.withSession session)
  | removeSession (session : SessionId) :
      Advance core (.removeSession session) (core.removeSession session)
  | knownFlow (flow : SessionId) (bytes : Nat) (known : flow ∈ core.flows) :
      Advance core (.admitFlow flow bytes) core
  | flow (flow : SessionId) (bytes : Nat) (new : flow ∉ core.flows)
      (room : core.flows.card < core.limits.maximumActiveFlows) :
      Advance core (.admitFlow flow bytes) (core.withFlow flow bytes)
  | removeFlow (flow : SessionId) : Advance core (.removeFlow flow) (core.removeFlow flow)
  | rejectPacket : Advance core .rejectPacket core.rejectPacket
  | metricsMut (edit : MetricsEdit view) :
      Advance core (.metricsMut edit) { core with metrics := edit.update core.metrics }

theorem admitPeer_cases (peer : PeerId) (core : RelayCore) :
    (peer ∈ core.peers ∧ admitPeer peer core = (.ok (), core)) ∨
    (peer ∉ core.peers ∧ core.TakesOn ∧
      core.peers.card < core.limits.maximumConnectedPeers ∧
      admitPeer peer core = (.ok (), core.withPeer peer)) ∨
    (peer ∉ core.peers ∧ ∃ reason, admitPeer peer core = (.error reason, core)) := by
  by_cases hknown : peer ∈ core.peers
  · refine .inl ⟨hknown, ?_⟩
    rw [admitPeer, Fallible.get_bind_run, if_pos hknown]
    rfl
  rw [admitPeer, Fallible.get_bind_run, if_neg hknown, Fallible.failWhen_bind_run,
    Fallible.failWhen_bind_run, Fallible.modify_run]
  refine .inr ?_
  by_cases htakes : core.TakesOn
  · have hopen : ¬ (core.lifecycle ≠ .ready ∧ core.lifecycle ≠ .discovering) := by
      rw [← not_or, not_not]
      exact htakes
    rw [if_neg hopen]
    by_cases hfull : core.peers.card ≥ core.limits.maximumConnectedPeers
    · exact .inr ⟨hknown, .peerLimit, if_pos hfull⟩
    · exact .inl ⟨hknown, htakes, Nat.lt_of_not_le hfull, if_neg hfull⟩
  · have hclosed : core.lifecycle ≠ .ready ∧ core.lifecycle ≠ .discovering := not_or.mp htakes
    exact .inr ⟨hknown, _, if_pos hclosed⟩

/-- One operation succeeds and advances the policy, or is refused and leaves it alone. -/
theorem perform_cases (operation : Operation view) (core : RelayCore) :
    (∃ final, perform operation core = (.ok (), final) ∧ Advance core operation final) ∨
      ∃ reason, perform operation core = (.error reason, core) := by
  cases operation with
  | transition next =>
      by_cases hvalid : validTransition core.lifecycle next = true
      · exact .inl ⟨_, transition_eq_ok.mpr ⟨hvalid, rfl⟩, .transition next hvalid⟩
      · refine .inr ⟨.invalidTransition core.lifecycle "lifecycle transition", ?_⟩
        rw [perform, transition, Fallible.get_bind_run, Fallible.failWhen_bind_run, if_pos hvalid]
  | admitPeer peer =>
      rcases admitPeer_cases peer core with ⟨hknown, hrun⟩ | ⟨hnew, htakes, hroom, hrun⟩ | ⟨-, hrun⟩
      · exact .inl ⟨core, hrun, .knownPeer peer hknown⟩
      · exact .inl ⟨_, hrun, .peer peer hnew htakes hroom⟩
      · exact .inr hrun
  | admitSession session =>
      by_cases htakes : core.TakesSession
      · exact .inl ⟨_, (admitSession_run session core).1 htakes, .session session htakes⟩
      · exact .inr ((admitSession_run session core).2 htakes)
  | admitFlow flow bytes =>
      have hrun := admitFlow_run flow bytes core
      by_cases hknown : flow ∈ core.flows
      · rw [if_pos (Or.inl hknown), withFlow, if_pos hknown] at hrun
        exact .inl ⟨core, hrun, .knownFlow flow bytes hknown⟩
      · by_cases hroom : core.flows.card < core.limits.maximumActiveFlows
        · rw [if_pos (Or.inr hroom)] at hrun
          exact .inl ⟨_, hrun, .flow flow bytes hknown hroom⟩
        · rw [if_neg (not_or.mpr ⟨hknown, hroom⟩)] at hrun
          exact .inr ⟨_, hrun⟩
  | removePeer peer => exact .inl ⟨_, rfl, .removePeer peer⟩
  | removeSession session => exact .inl ⟨_, rfl, .removeSession session⟩
  | removeFlow flow => exact .inl ⟨_, rfl, .removeFlow flow⟩
  | rejectPacket => exact .inl ⟨_, rfl, .rejectPacket⟩
  | metricsMut edit => exact .inl ⟨_, rfl, .metricsMut edit⟩

/-! ## Gauges, limits and lifecycle -/

/-- The gauges show the sizes of the sets, and these are within the limits. -/
structure Balanced (core : RelayCore) : Prop where
  activePeers : core.metrics.activePeers = core.peers.card
  activeSessions : core.metrics.activeSessions = core.sessions.card
  activeFlows : core.metrics.activeFlows = core.flows.card
  peers : core.peers.card ≤ core.limits.maximumConnectedPeers
  sessions : core.sessions.card ≤ core.limits.maximumActiveSessions
  flows : core.flows.card ≤ core.limits.maximumActiveFlows

theorem Balanced.new (limits : RelayResourceLimits) : Balanced (RelayCore.new limits) where
  activePeers := rfl
  activeSessions := rfl
  activeFlows := rfl
  peers := Nat.zero_le _
  sessions := Nat.zero_le _
  flows := Nat.zero_le _

theorem Balanced.advance {operation : Operation RelayMetrics.gauges} (hbalanced : Balanced core)
    (hadvance : Advance core operation final) : Balanced final := by
  cases hadvance with
  | transition next hvalid => exact { hbalanced with }
  | knownPeer | knownFlow => exact hbalanced
  | peer peer hnew htakes hroom =>
      exact { hbalanced with
        activePeers := rfl
        peers := (Finset.card_insert_le peer core.peers).trans hroom }
  | removePeer peer =>
      exact { hbalanced with
        activePeers := rfl
        peers := Finset.card_erase_le.trans hbalanced.peers }
  | session session htakes =>
      exact { hbalanced with
        activeSessions := rfl
        sessions := (Finset.card_insert_le session core.sessions).trans htakes.2 }
  | removeSession session =>
      exact { hbalanced with
        activeSessions := rfl
        activeFlows := rfl
        sessions := Finset.card_erase_le.trans hbalanced.sessions
        flows := Finset.card_erase_le.trans hbalanced.flows }
  | flow flow bytes hnew hroom =>
      rw [withFlow, if_neg hnew]
      exact { hbalanced with
        activeFlows := rfl
        flows := (Finset.card_insert_le flow core.flows).trans hroom }
  | removeFlow flow =>
      exact { hbalanced with
        activeFlows := rfl
        flows := Finset.card_erase_le.trans hbalanced.flows }
  | rejectPacket => exact { hbalanced with }
  | metricsMut edit =>
      -- The edit leaves the three gauges as they were.
      have hgauges := edit.keeps core.metrics
      simp only [RelayMetrics.gauges, Prod.mk.injEq] at hgauges
      obtain ⟨hpeers, hsessions, hflows⟩ := hgauges
      exact { hbalanced with
        activePeers := hpeers.trans hbalanced.activePeers
        activeSessions := hsessions.trans hbalanced.activeSessions
        activeFlows := hflows.trans hbalanced.activeFlows }

theorem validTransition_rank_le {state next : RelayLifecycle}
    (hvalid : validTransition state next = true) : state.rank ≤ next.rank := by
  cases state <;> cases next <;> first | exact absurd hvalid (by decide) | decide

theorem Advance.limits {operation : Operation view} (hadvance : Advance core operation final) :
    final.limits = core.limits := by
  cases hadvance with
  | flow flow bytes hnew => rw [withFlow, if_neg hnew]
  | transition | knownPeer | knownFlow | peer | removePeer | session | removeSession | removeFlow
  | rejectPacket | metricsMut => rfl

theorem Advance.rank_le {operation : Operation view} (hadvance : Advance core operation final) :
    core.lifecycle.rank ≤ final.lifecycle.rank := by
  cases hadvance with
  | transition next hvalid => exact validTransition_rank_le hvalid
  | flow flow bytes hnew => rw [withFlow, if_neg hnew]
  | knownPeer | knownFlow | peer | removePeer | session | removeSession | removeFlow | rejectPacket
  | metricsMut => exact le_rfl

theorem rank_le_perform (operation : Operation view) (core : RelayCore) :
    core.lifecycle.rank ≤ (perform operation core).2.lifecycle.rank := by
  rcases perform_cases operation core with ⟨final, hrun, hadvance⟩ | ⟨reason, hrun⟩
  · rw [hrun]
    exact hadvance.rank_le
  · rw [hrun]

theorem balanced_stateAfterAll (limits : RelayResourceLimits)
    (operations : List (Operation RelayMetrics.gauges)) :
    Balanced (stateAfterAll perform operations (RelayCore.new limits)) ∧
      (stateAfterAll perform operations (RelayCore.new limits)).limits = limits := by
  refine stateAfterAll_invariant (fun core : RelayCore => Balanced core ∧ core.limits = limits)
    ?_ ⟨.new limits, rfl⟩
  intro operation core hcore
  obtain ⟨hbalanced, hlimits⟩ := hcore
  rcases perform_cases operation core with ⟨final, hrun, hadvance⟩ | ⟨reason, hrun⟩
  · rw [hrun]
    exact ⟨hbalanced.advance hadvance, hadvance.limits.trans hlimits⟩
  · rw [hrun]
    exact ⟨hbalanced, hlimits⟩

/-- After every sequence of operations, the gauges are the sizes of the sets and these are within
the limits, and the lifecycle has not gone back; whatever was refused left the policy as it was. -/
theorem core_laws (limits : RelayResourceLimits)
    (operations later : List (Operation RelayMetrics.gauges)) :
    let reached := stateAfterAll perform operations (RelayCore.new limits)
    let afterwards := stateAfterAll perform (operations ++ later) (RelayCore.new limits)
    (reached.metrics.activePeers = reached.peers.card ∧
      reached.metrics.activeSessions = reached.sessions.card ∧
      reached.metrics.activeFlows = reached.flows.card) ∧
    (reached.peers.card ≤ limits.maximumConnectedPeers ∧
      reached.sessions.card ≤ limits.maximumActiveSessions ∧
      reached.flows.card ≤ limits.maximumActiveFlows) ∧
    reached.lifecycle.rank ≤ afterwards.lifecycle.rank ∧
    ∀ made ∈ calls perform operations (RelayCore.new limits),
      made.Refused → made.after = made.before := by
  intro reached afterwards
  obtain ⟨hbalanced, hlimits⟩ := balanced_stateAfterAll limits operations
  refine ⟨⟨hbalanced.activePeers, hbalanced.activeSessions, hbalanced.activeFlows⟩, ?_, ?_, ?_⟩
  · rw [← hlimits]
    exact ⟨hbalanced.peers, hbalanced.sessions, hbalanced.flows⟩
  · have hafter : afterwards = stateAfterAll perform later reached := stateAfterAll_append _ _ _
    rw [hafter]
    exact stateAfterAll_monotone (fun core : RelayCore => core.lifecycle.rank) rank_le_perform
  · intro made hmade hrefused
    obtain ⟨before, _, _, hcall⟩ := exists_of_mem_calls hmade
    rw [hcall] at hrefused ⊢
    rcases perform_cases made.operation (stateAfterAll perform before (RelayCore.new limits)) with
      ⟨final, hrun, -⟩ | ⟨reason, hrun⟩
    · exact absurd ⟨(), congrArg Prod.fst hrun⟩ hrefused
    · exact congrArg Prod.snd hrun

/-! ## Traffic -/

abbrev Made (view : RelayMetrics → υ) := Call RelayCore RelayCoreError (Operation view)

/-- The bytes of a packet whose flow was admitted. -/
def admittedBy (made : Made view) : Option Nat :=
  match made.operation, made.outcome with
  | .admitFlow _ bytes, .ok () => some bytes
  | _, _ => none

/-- The bytes of the packets whose flows were admitted. -/
def admitted (history : List (Made view)) : List Nat := history.filterMap admittedBy

/-- A packet of a flow that the policy knows. -/
def AdmitsKnown (made : Made view) : Prop :=
  ∃ flow bytes, made.operation = .admitFlow flow bytes ∧ flow ∈ made.before.flows

/-- The bytes of a packet whose flow was admitted and not known. -/
def countedBy (made : Made view) : Option Nat :=
  match made.operation with
  | .admitFlow flow _ => if flow ∈ made.before.flows then none else admittedBy made
  | _ => none

theorem countedBy_or (made : Made view) :
    countedBy made = admittedBy made ∨ countedBy made = none := by
  obtain ⟨before, operation, outcome, after⟩ := made
  cases operation with
  | admitFlow flow bytes =>
      by_cases hknown : flow ∈ before.flows
      · exact .inr (if_pos hknown)
      · exact .inl (if_neg hknown)
  | _ => exact .inr rfl

/-- Packets of known flows are admitted, but they are not counted. -/
theorem countedBy_eq_iff (operation : Operation view) (core : RelayCore) :
    countedBy (call perform operation core) = admittedBy (call perform operation core) ↔
      ¬ AdmitsKnown (call perform operation core) := by
  cases operation with
  | admitFlow flow bytes =>
      by_cases hknown : flow ∈ core.flows
      · have hrun : (admitFlow flow bytes core).1 = .ok () := by
          rw [admitFlow_run, if_pos (Or.inl hknown)]
        refine iff_of_false ?_ (not_not.mpr ⟨flow, bytes, rfl, hknown⟩)
        rw [show countedBy (call perform (.admitFlow flow bytes) core) = none from if_pos hknown]
        simp [admittedBy, call, perform, hrun]
      · refine iff_of_true (if_neg hknown) ?_
        intro hadmits
        obtain ⟨_, _, hsame, hmem⟩ := hadmits
        cases hsame
        exact hknown hmem
  | _ =>
      refine iff_of_true rfl ?_
      intro hadmits
      obtain ⟨_, _, hsame, -⟩ := hadmits
      cases hsame

/-- What the counters of traffic hold after the packets that were counted. -/
structure Counts (counted : List Nat) (core : RelayCore) : Prop where
  packets : core.metrics.packetsAccepted.toNat = counted.length % 2 ^ 64
  bytes : core.metrics.bytesForwarded.toNat = min counted.sum (2 ^ 64 - 1)

theorem toNat_saturatingAdd (total : UInt64) (bytes : Nat) :
    (saturatingAdd total bytes).toNat = min (total.toNat + bytes) (2 ^ 64 - 1) := by
  rw [saturatingAdd, UInt64.toNat_ofNat', Nat.mod_eq_of_lt]
  omega

/-- An operation counts the packet of a new flow, or it leaves the counters of traffic alone. -/
theorem traffic_cases (operation : Operation RelayMetrics.traffic) (core : RelayCore) :
    (∃ flow bytes, countedBy (call perform operation core) = some bytes ∧ flow ∉ core.flows ∧
        (perform operation core).2 = core.withFlow flow bytes) ∨
      countedBy (call perform operation core) = none ∧
        (perform operation core).2.metrics.traffic = core.metrics.traffic := by
  rcases perform_cases operation core with ⟨final, hrun, hadvance⟩ | ⟨reason, hrun⟩
  · rw [call, hrun]
    cases hadvance with
    | flow flow bytes hnew hroom => exact .inl ⟨flow, bytes, if_neg hnew, hnew, rfl⟩
    | knownFlow flow bytes hknown => exact .inr ⟨if_pos hknown, rfl⟩
    | metricsMut edit => exact .inr ⟨rfl, edit.keeps core.metrics⟩
    | transition | knownPeer | peer | removePeer | session | removeSession | removeFlow
    | rejectPacket => exact .inr ⟨rfl, rfl⟩
  · rw [call, hrun]
    refine .inr ⟨?_, rfl⟩
    cases operation with
    | admitFlow flow bytes =>
        by_cases hknown : flow ∈ core.flows
        · exact if_pos hknown
        · exact if_neg hknown
    | _ => rfl

theorem Counts.step {counted : List Nat} (hcounts : Counts counted core)
    (operation : Operation RelayMetrics.traffic) :
    Counts (counted ++ (countedBy (call perform operation core)).toList)
      (perform operation core).2 := by
  rcases traffic_cases operation core with ⟨flow, bytes, hcounted, hnew, hafter⟩ |
    ⟨hcounted, htraffic⟩
  · rw [hcounted, hafter, withFlow, if_neg hnew, Option.toList_some]
    constructor
    · show (core.metrics.packetsAccepted + 1).toNat = _
      rw [UInt64.toNat_add, hcounts.packets, List.length_append, List.length_singleton,
        UInt64.toNat_one, Nat.mod_add_mod]
    · show (saturatingAdd core.metrics.bytesForwarded bytes).toNat = _
      rw [toNat_saturatingAdd, hcounts.bytes, List.sum_append, List.sum_singleton]
      omega
  · simp only [RelayMetrics.traffic, Prod.mk.injEq] at htraffic
    rw [hcounted, Option.toList_none, List.append_nil]
    exact ⟨htraffic.1 ▸ hcounts.packets, htraffic.2 ▸ hcounts.bytes⟩

theorem counts_stateAfterAll (limits : RelayResourceLimits)
    (operations : List (Operation RelayMetrics.traffic)) :
    Counts ((calls perform operations (RelayCore.new limits)).filterMap countedBy)
      (stateAfterAll perform operations (RelayCore.new limits)) := by
  refine history_induction (motive := fun _ history reached =>
    Counts (history.filterMap countedBy) reached) ⟨rfl, rfl⟩ ?_ operations
  intro _ operation history reached hcounts
  have hstep := hcounts.step operation
  rw [List.filterMap_append]
  cases hcounted : countedBy (call perform operation reached) <;>
    simpa [hcounted] using hstep

/-- The counters of traffic add up to the admitted packets and their bytes exactly when no packet
belonged to a flow that the policy knew, as long as the counter of packets does not come round. -/
theorem traffic_counted_iff (limits : RelayResourceLimits)
    (operations : List (Operation RelayMetrics.traffic)) :
    let reached := stateAfterAll perform operations (RelayCore.new limits)
    let history := calls perform operations (RelayCore.new limits)
    (reached.metrics.packetsAccepted.toNat = (admitted history).length ∧
      reached.metrics.bytesForwarded.toNat = min (admitted history).sum (2 ^ 64 - 1)) ↔
    (∀ made ∈ history, ¬ AdmitsKnown made) ∧ (admitted history).length < 2 ^ 64 := by
  intro reached history
  have hcounts : Counts (history.filterMap countedBy) reached :=
    counts_stateAfterAll limits operations
  obtain ⟨hle, hagree⟩ := selections_agree history admittedBy countedBy_or
  have hknown : ∀ made ∈ history, countedBy made = admittedBy made ↔ ¬ AdmitsKnown made := by
    intro made hmade
    obtain ⟨before, _, _, hcall⟩ := exists_of_mem_calls hmade
    rw [hcall]
    exact countedBy_eq_iff _ _
  constructor
  · intro hadds
    obtain ⟨hpackets, -⟩ := hadds
    rw [hcounts.packets] at hpackets
    have hmod := Nat.mod_le (history.filterMap countedBy).length (2 ^ 64)
    have hlength : (history.filterMap countedBy).length = (admitted history).length :=
      Nat.le_antisymm hle (hpackets ▸ hmod)
    refine ⟨fun made hmade => (hknown made hmade).mp (hagree hlength made hmade), ?_⟩
    rw [← hpackets]
    exact Nat.mod_lt _ (by decide)
  · intro hcondition
    obtain ⟨hnew, hfits⟩ := hcondition
    have hsame : history.filterMap countedBy = admitted history :=
      List.filterMap_congr fun made hmade => (hknown made hmade).mpr (hnew made hmade)
    rw [hsame] at hcounts
    exact ⟨hcounts.packets.trans (Nat.mod_eq_of_lt hfits), hcounts.bytes⟩

/-- One of everything. -/
def sampleLimits : RelayResourceLimits := ⟨1, 1, 1, 1, 1, 1, 1⟩

def sampleFlow : SessionId := ⟨Vector.replicate 16 1⟩

/-- Two packets of one flow, and one of them is counted. -/
theorem traffic_undercounted :
    let operations : List (Operation RelayMetrics.traffic) :=
      [.admitFlow sampleFlow 10, .admitFlow sampleFlow 20]
    let reached := stateAfterAll perform operations (RelayCore.new sampleLimits)
    let history := calls perform operations (RelayCore.new sampleLimits)
    ¬ (reached.metrics.packetsAccepted.toNat = (admitted history).length ∧
      reached.metrics.bytesForwarded.toNat = min (admitted history).sum (2 ^ 64 - 1)) := by
  intro operations reached history hadds
  exact absurd hadds.1 (by decide)

/-! ## Draining -/

/-- A relay that is about to stop, or has stopped. -/
def Drains (core : RelayCore) : Prop :=
  core.lifecycle = .draining ∨ core.lifecycle = .shuttingDown ∨ core.lifecycle = .stopped

/-- Something for a relay to take on. -/
inductive Admission where
  | peer (peer : PeerId)
  | session (session : SessionId)
  | flow (flow : SessionId) (bytes : Nat)

namespace Admission

def attempt : Admission → Fallible RelayCore RelayCoreError Unit
  | .peer peerId => admitPeer peerId
  | .session sessionId => admitSession sessionId
  | .flow flowId bytes => admitFlow flowId bytes

/-- What was not admitted already. -/
def New (core : RelayCore) : Admission → Prop
  | .peer peerId => peerId ∉ core.peers
  | .session sessionId => sessionId ∉ core.sessions
  | .flow flowId _ => flowId ∉ core.flows

/-- Peers and sessions are turned away, and a flow is when there is no room for it. -/
def TurnedAway (core : RelayCore) : Admission → Prop
  | .peer _ | .session _ => True
  | .flow .. => core.limits.maximumActiveFlows ≤ core.flows.card

end Admission

theorem Drains.not_takesOn (hdrains : core.Drains) : ¬ core.TakesOn := by
  intro htakes
  rcases hdrains with hstate | hstate | hstate <;> rcases htakes with hlife | hlife <;>
    cases hstate.symm.trans hlife

/-- The admission is refused, and the three sets are as before. -/
def Admission.Refused (admission : Admission) (core : RelayCore) : Prop :=
  ¬ (admission.attempt core).1.IsOk ∧ (admission.attempt core).2.peers = core.peers ∧
    (admission.attempt core).2.sessions = core.sessions ∧
    (admission.attempt core).2.flows = core.flows

theorem Admission.refused_of_error {admission : Admission} {reason : RelayCoreError}
    (hrun : admission.attempt core = (.error reason, core)) : admission.Refused core := by
  unfold Admission.Refused
  rw [hrun]
  refine ⟨?_, rfl, rfl, rfl⟩
  intro hok
  obtain ⟨_, hsame⟩ := hok
  cases hsame

/-- In a relay that drains, something new is refused exactly when it is a peer or a session, or a
flow without room. -/
theorem drain_refuses_iff (hdrains : core.Drains) (admission : Admission)
    (hnew : admission.New core) : admission.Refused core ↔ admission.TurnedAway core := by
  cases admission with
  | peer peerId =>
      refine iff_of_true ?_ trivial
      rcases admitPeer_cases peerId core with ⟨hknown, -⟩ | ⟨-, htakes, -, -⟩ | ⟨-, reason, hrun⟩
      · exact absurd hknown hnew
      · exact absurd htakes hdrains.not_takesOn
      · exact Admission.refused_of_error hrun
  | session sessionId =>
      have hcloses : ¬ core.TakesSession := fun htakes => hdrains.not_takesOn htakes.1
      obtain ⟨reason, hrun⟩ := (admitSession_run sessionId core).2 hcloses
      exact iff_of_true (Admission.refused_of_error hrun) trivial
  | flow flowId bytes =>
      -- The lifecycle is not looked at.
      have hrun := admitFlow_run flowId bytes core
      by_cases hroom : core.flows.card < core.limits.maximumActiveFlows
      · rw [if_pos (Or.inr hroom)] at hrun
        refine iff_of_false ?_ (Nat.not_le_of_lt hroom)
        intro hrefused
        exact hrefused.1 ⟨(), congrArg Prod.fst hrun⟩
      · rw [if_neg (not_or.mpr ⟨hnew, hroom⟩)] at hrun
        exact iff_of_true (Admission.refused_of_error hrun) (Nat.le_of_not_lt hroom)

/-- The way from the start to draining. -/
def sampleDrain : List (Operation RelayMetrics.gauges) :=
  [.transition .discovering, .transition .ready, .transition .draining]

theorem drain_refuses_peer :
    (Admission.peer ⟨[1]⟩).Refused
      (stateAfterAll perform sampleDrain (RelayCore.new sampleLimits)) := by
  have hnew : (Admission.peer ⟨[1]⟩).New
      (stateAfterAll perform sampleDrain (RelayCore.new sampleLimits)) :=
    Finset.notMem_empty (⟨[1]⟩ : PeerId)
  exact (drain_refuses_iff (.inl rfl) (.peer ⟨[1]⟩) hnew).mpr trivial

/-- A relay that drains takes on a flow. -/
theorem drain_admits_flow :
    let reached := stateAfterAll perform sampleDrain (RelayCore.new sampleLimits)
    reached.Drains ∧ (Admission.flow sampleFlow 10).New reached ∧
      ¬ (Admission.flow sampleFlow 10).Refused reached := by
  intro reached
  refine ⟨.inl rfl, Finset.notMem_empty _, ?_⟩
  intro hrefused
  exact hrefused.1 ⟨(), rfl⟩

end RelayCore

end Relay
