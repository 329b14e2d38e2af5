import GhostLayer.Foundation.Fallible
import GhostLayer.Foundation.Tables
import GhostLayer.Network.Externals

/-! # Paths of returning packets

A table of packets whose answers may come back, each of them once. Instants and
durations are counted in nanoseconds; every operation that reads the clock takes
the readings as arguments.
-/

namespace Network

open Foundation

structure ReturnPathKey where
  sessionId : SessionId
  packetId : SessionId
  sourceIdentity : PeerId
  entryPeer : PeerId
  exitPeer : PeerId
  deriving DecidableEq

structure ReturnPathMapping where
  key : ReturnPathKey
  expiresAt : Nat
  deriving DecidableEq

inductive ReturnPathError where
  | capacity
  | duplicate
  | unknown
  | bindingMismatch
  | replayed
  | invalidLifetime
  deriving DecidableEq

structure ReturnPathTable where
  entries : AList (fun _ : SessionId => ReturnPathMapping)
  consumed : AList (fun _ : SessionId => Nat)
  capacity : Nat
  lifetime : Nat

namespace ReturnPathTable

def new (capacity lifetime : Nat) : Except ReturnPathError ReturnPathTable := do
  Check.failWhen (capacity = 0 ∨ lifetime = 0) .invalidLifetime
  return { entries := ∅, consumed := ∅, capacity, lifetime }

def cleanup (now : Nat) (table : ReturnPathTable) : ReturnPathTable :=
  { table with
    entries := retain (fun _ mapping => now < mapping.expiresAt) table.entries
    consumed := retain (fun _ expiresAt => now < expiresAt) table.consumed }

/-- `now` is the time of the cleanup, `stamp` the one the lifetime counts from. -/
def insert (now stamp : Nat) (key : ReturnPathKey) :
    Fallible ReturnPathTable ReturnPathError Unit := do
  Fallible.modify (cleanup now)
  let table ← Fallible.get
  Fallible.failWhen (key.packetId ∈ table.entries ∨ key.packetId ∈ table.consumed) .duplicate
  Fallible.failWhen (table.entries.entries.length ≥ table.capacity) .capacity
  Fallible.modify fun table =>
    { table with entries := table.entries.insert key.packetId ⟨key, stamp + table.lifetime⟩ }

def lookup (now : Nat) (packetId : SessionId) (expected : ReturnPathKey) :
    Fallible ReturnPathTable ReturnPathError ReturnPathMapping := do
  Fallible.modify (cleanup now)
  let table ← Fallible.get
  let mapping ← Fallible.orThrow (table.entries.lookup packetId)
    (if packetId ∈ table.consumed then .replayed else .unknown)
  Fallible.failWhen (mapping.key ≠ expected) .bindingMismatch
  return mapping

/-- The packet moves from the entries to the packets that were consumed. -/
def spend (stamp : Nat) (packetId : SessionId) (table : ReturnPathTable) : ReturnPathTable :=
  { table with
    entries := table.entries.erase packetId
    consumed := table.consumed.insert packetId (stamp + table.lifetime) }

def consume (now stamp : Nat) (packetId : SessionId) (expected : ReturnPathKey) :
    Fallible ReturnPathTable ReturnPathError ReturnPathMapping := do
  let mapping ← lookup now packetId expected
  Fallible.modify (spend stamp packetId)
  return mapping

/-- Packets that were consumed stay. -/
def removeSession (sessionId : SessionId) (table : ReturnPathTable) : ReturnPathTable :=
  { table with
    entries := retain (fun _ mapping => mapping.key.sessionId ≠ sessionId) table.entries }

end ReturnPathTable

end Network
