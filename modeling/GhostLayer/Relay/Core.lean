import GhostLayer.Foundation.Fallible
import GhostLayer.Network.Config
import GhostLayer.Network.Session
import Mathlib.Data.Finset.Card
import Mathlib.Data.Finset.Erase

/-! # The resource policy of a relay

Lifecycle, admitted peers, sessions and flows, and the counters that report
them.
-/

namespace Relay

open Foundation Network

inductive RelayLifecycle where
  | starting
  | discovering
  | ready
  | draining
  | shuttingDown
  | stopped
  deriving DecidableEq

inductive RelayCoreError where
  | invalidTransition (state : RelayLifecycle) (operation : String)
  | peerLimit
  | sessionLimit
  | flowLimit
  deriving DecidableEq

structure RelayMetrics where
  activePeers : Nat
  activeSessions : Nat
  activeFlows : Nat
  packetsAccepted : UInt64
  packetsRejected : UInt64
  bytesForwarded : UInt64
  sessionErrors : UInt64
  deriving DecidableEq

structure RelayCore where
  limits : RelayResourceLimits
  lifecycle : RelayLifecycle
  peers : Finset PeerId
  sessions : Finset SessionId
  flows : Finset SessionId
  metrics : RelayMetrics

/-- Addition of a byte count that stays at the largest value. -/
def saturatingAdd (total : UInt64) (bytes : Nat) : UInt64 :=
  UInt64.ofNat (min (total.toNat + bytes) (2 ^ 64 - 1))

namespace RelayCore

def new (limits : RelayResourceLimits) : RelayCore where
  limits
  lifecycle := .starting
  peers := ∅
  sessions := ∅
  flows := ∅
  metrics := ⟨0, 0, 0, 0, 0, 0, 0⟩

/-- The transitions of the lifecycle. -/
def validTransition : RelayLifecycle → RelayLifecycle → Bool
  | .starting, .discovering => true
  | .discovering, .ready => true
  | .ready, .draining => true
  | .ready, .shuttingDown => true
  | .draining, .shuttingDown => true
  | .shuttingDown, .stopped => true
  | .draining, .draining => true
  | .shuttingDown, .shuttingDown => true
  | .stopped, .stopped => true
  | _, _ => false

def transition (next : RelayLifecycle) : Fallible RelayCore RelayCoreError Unit := do
  let core ← Fallible.get
  Fallible.failWhen (¬ validTransition core.lifecycle next)
    (.invalidTransition core.lifecycle "lifecycle transition")
  Fallible.modify (fun core => { core with lifecycle := next })

def admitPeer (peer : PeerId) : Fallible RelayCore RelayCoreError Unit := do
  let core ← Fallible.get
  if peer ∈ core.peers then return
  Fallible.failWhen (core.lifecycle ≠ .ready ∧ core.lifecycle ≠ .discovering)
    (.invalidTransition core.lifecycle "admit peer")
  Fallible.failWhen (core.peers.card ≥ core.limits.maximumConnectedPeers) .peerLimit
  Fallible.modify (fun core =>
    { core with
      peers := insert peer core.peers
      metrics := { core.metrics with activePeers := (insert peer core.peers).card } })

def removePeer (peer : PeerId) (core : RelayCore) : RelayCore :=
  { core with
    peers := core.peers.erase peer
    metrics := { core.metrics with activePeers := (core.peers.erase peer).card } }

def admitSession (session : SessionId) : Fallible RelayCore RelayCoreError Unit := do
  let core ← Fallible.get
  Fallible.failWhen (core.lifecycle ≠ .ready ∧ core.lifecycle ≠ .discovering)
    (.invalidTransition core.lifecycle "admit session")
  Fallible.failWhen (core.sessions.card ≥ core.limits.maximumActiveSessions) .sessionLimit
  Fallible.modify (fun core =>
    { core with
      sessions := insert session core.sessions
      metrics := { core.metrics with activeSessions := (insert session core.sessions).card } })

def removeSession (session : SessionId) (core : RelayCore) : RelayCore :=
  { core with
    sessions := core.sessions.erase session
    flows := core.flows.erase session
    metrics := { core.metrics with
      activeSessions := (core.sessions.erase session).card
      activeFlows := (core.flows.erase session).card } }

def admitFlow (flow : SessionId) (bytes : Nat) : Fallible RelayCore RelayCoreError Unit := do
  let core ← Fallible.get
  if flow ∈ core.flows then return
  Fallible.failWhen (core.flows.card ≥ core.limits.maximumActiveFlows) .flowLimit
  Fallible.modify (fun core =>
    { core with
      flows := insert flow core.flows
      metrics := { core.metrics with
        activeFlows := (insert flow core.flows).card
        packetsAccepted := core.metrics.packetsAccepted + 1
        bytesForwarded := saturatingAdd core.metrics.bytesForwarded bytes } })

def removeFlow (flow : SessionId) (core : RelayCore) : RelayCore :=
  { core with
    flows := core.flows.erase flow
    metrics := { core.metrics with activeFlows := (core.flows.erase flow).card } }

def rejectPacket (core : RelayCore) : RelayCore :=
  { core with
    metrics := { core.metrics with packetsRejected := core.metrics.packetsRejected + 1 } }

/-- A session that the policy refused. -/
def countSessionError (core : RelayCore) : RelayCore :=
  { core with
    metrics := { core.metrics with sessionErrors := core.metrics.sessionErrors + 1 } }

end RelayCore

end Relay
