import GhostLayer.Foundation.Fallible
import GhostLayer.Network.Externals
import Mathlib.Data.List.AList

/-! # Address translation

A table of flows and the ports they were translated to. Instants and durations
are counted in nanoseconds; every operation that reads the clock takes the
reading as an argument.
-/

namespace Network

open Foundation

structure FlowKey where
  flowId : SessionId
  source : SocketAddr
  destination : SocketAddr
  sessionId : SessionId
  sourceIdentity : PeerId
  entryPeer : PeerId
  exitPeer : PeerId
  protocol : UInt8
  deriving DecidableEq

structure NatMapping where
  flowId : SessionId
  source : SocketAddr
  destination : SocketAddr
  translated : SocketAddr
  sessionId : SessionId
  sourceIdentity : PeerId
  entryPeer : PeerId
  exitPeer : PeerId
  protocol : UInt8
  expiresAt : Nat
  deriving DecidableEq

inductive NatError where
  | capacity
  | duplicate
  | unknownMapping
  | bindingMismatch
  | portExhausted
  | invalidLifetime
  deriving DecidableEq

structure NatTable where
  mappings : AList (fun _ : FlowKey => NatMapping)
  reverse : AList (fun _ : SocketAddr => FlowKey)
  maximumMappings : Nat
  lifetime : Nat
  nextPort : UInt16
  translatedAddress : IpAddr

namespace NatTable

def new (translatedAddress : IpAddr) (maximumMappings lifetime : Nat) :
    Except NatError NatTable := do
  Check.failWhen (maximumMappings = 0 ∨ lifetime = 0) .invalidLifetime
  return { mappings := ∅, reverse := ∅, maximumMappings, lifetime, nextPort := 40000
           translatedAddress }

/-- Drop one mapping. -/
def drop (entry : FlowKey × SocketAddr) (table : NatTable) : NatTable :=
  { table with mappings := table.mappings.erase entry.1, reverse := table.reverse.erase entry.2 }

def expired (now : Nat) (table : NatTable) : List (FlowKey × SocketAddr) :=
  (table.mappings.entries.filter (fun entry => entry.2.expiresAt ≤ now)).map
    (fun entry => (entry.1, entry.2.translated))

def cleanup (now : Nat) (table : NatTable) : NatTable :=
  (table.expired now).foldl (fun table entry => table.drop entry) table

def followingPort (port : UInt16) : UInt16 := if port = 65535 then 40000 else port + 1

/-- The search for a free port, with the number of ports left to try. -/
def searchPort : Nat → Fallible NatTable NatError SocketAddr
  | 0 => Fallible.throw .portExhausted
  | tries + 1 => do
      let table ← Fallible.get
      Fallible.modify (fun table => { table with nextPort := followingPort table.nextPort })
      let candidate := SocketAddr.new table.translatedAddress table.nextPort
      if (table.reverse.lookup candidate).isNone then return candidate
      searchPort tries

def allocatePort : Fallible NatTable NatError SocketAddr := searchPort (65535 - 40000 + 1)

/-- `now` is the time of the cleanup, `stamp` the one the lifetime counts from. -/
def create (now stamp : Nat) (key : FlowKey) : Fallible NatTable NatError NatMapping := do
  Fallible.modify (cleanup now)
  let table ← Fallible.get
  Fallible.failWhen (table.mappings.lookup key).isSome .duplicate
  Fallible.failWhen (table.mappings.entries.length ≥ table.maximumMappings) .capacity
  let translated ← allocatePort
  let mapping : NatMapping := {
    flowId := key.flowId
    source := key.source
    destination := key.destination
    translated
    sessionId := key.sessionId
    sourceIdentity := key.sourceIdentity
    entryPeer := key.entryPeer
    exitPeer := key.exitPeer
    protocol := key.protocol
    expiresAt := stamp + table.lifetime }
  Fallible.modify (fun table =>
    { table with
      mappings := table.mappings.insert key mapping
      reverse := table.reverse.insert translated key })
  return mapping

def lookupForward (now : Nat) (key : FlowKey) : Fallible NatTable NatError (Option NatMapping) := do
  Fallible.modify (cleanup now)
  let table ← Fallible.get
  return table.mappings.lookup key

def lookupReverse (now : Nat) (translated : SocketAddr) (expected : FlowKey) :
    Fallible NatTable NatError NatMapping := do
  Fallible.modify (cleanup now)
  let table ← Fallible.get
  let key ← Fallible.orThrow (table.reverse.lookup translated) .unknownMapping
  Fallible.failWhen (key ≠ expected) .bindingMismatch
  Fallible.orThrow (table.mappings.lookup key) .unknownMapping

def removeSession (sessionId : SessionId) (table : NatTable) : NatTable :=
  let keys := (table.mappings.keys).filter (fun key => key.sessionId = sessionId)
  keys.foldl (fun table key =>
    match table.mappings.lookup key with
    | some mapping => table.drop (key, mapping.translated)
    | none => table) table

end NatTable

end Network
