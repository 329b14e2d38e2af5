import GhostLayer.Foundation.Bytes
import GhostLayer.Foundation.Fallible
import GhostLayer.Network.Externals

/-! # IP packets and DNS queries

Bytes that are accepted as an IP packet or as a DNS query, and the exchange with
a DNS server over a socket whose calls are given.
-/

namespace Network

open Foundation

/-! ## IP packets -/

inductive PacketType where
  | ipv4
  | ipv6
  deriving DecidableEq

inductive PacketError where
  | empty
  | oversized (size maximum : Nat)
  | exceedsMtu (size mtu : Nat)
  | malformed
  | unsupportedType (version : UInt8)
  | invalidLimit
  deriving DecidableEq

structure NetworkPacket where
  bytes : Bytes
  packetType : PacketType
  deriving DecidableEq

def NetworkPacket.new (bytes : Bytes) (maximumSize mtu : Nat) :
    Except PacketError NetworkPacket := do
  Check.failWhen (maximumSize = 0 ∨ mtu = 0) .invalidLimit
  let size := bytes.length
  match bytes with
  | [] => throw .empty
  | first :: _ =>
      Check.failWhen (size > maximumSize) (.oversized size maximumSize)
      Check.failWhen (size > mtu) (.exceedsMtu size mtu)
      let version := first >>> 4
      if version = 4 then
        let headerLength := (first &&& 15).toNat * 4
        Check.failWhen (headerLength < 20 ∨ size < headerLength) .malformed
        return ⟨bytes, .ipv4⟩
      else if version = 6 then
        Check.failWhen (size < 40) .malformed
        return ⟨bytes, .ipv6⟩
      else throw (.unsupportedType version)

/-! ## Sockets -/

inductive IoErrorKind where
  | timedOut
  | wouldBlock
  | other
  deriving DecidableEq

structure IoError where
  kind : IoErrorKind
  text : String
  deriving DecidableEq

/-- What the calls on a datagram socket return. -/
structure UdpSocket where
  bind : Except IoError Unit
  connect : Except IoError Unit
  setReadTimeout : Except IoError Unit
  setWriteTimeout : Except IoError Unit
  /-- The number of bytes written. -/
  send : Except IoError Nat
  /-- The datagram, before it is cut to the buffer. -/
  recv : Except IoError Bytes

/-! ## DNS -/

inductive DnsError where
  | disabled
  | malformedRequest
  | requestTooLarge
  | responseTooLarge
  | timeout
  | transactionMismatch
  | invalidResponse
  | serverFailure
  deriving DecidableEq

structure DnsLimits where
  maximumRequestSize : Nat
  maximumResponseSize : Nat
  timeout : Nat
  deriving DecidableEq

inductive DnsRecordType where
  | a
  | aaaa
  deriving DecidableEq

structure DnsQuery where
  transactionId : UInt16
  recordType : DnsRecordType
  deriving DecidableEq

variable {σ : Type}

/-- A read of a byte that must be in range. -/
def byteAt (packet : Bytes) (index : Nat) : Fallible σ DnsError UInt8 :=
  Fallible.orPanic packet[index]?

def u16At (packet : Bytes) (index : Nat) : Fallible σ DnsError UInt16 := do
  let high ← byteAt packet index
  let low ← byteAt packet (index + 1)
  return UInt16.ofNat (high.toNat * 256 + low.toNat)

/-- The index behind the labels that start at an index. Every label takes a step of at least one, so
the length of the packet is enough fuel. -/
def skipLabels (packet : Bytes) : Nat → Nat → Fallible σ DnsError Nat
  | 0, index => pure index
  | fuel + 1, index =>
      match packet[index]? with
      | none => pure index
      | some size => do
          if size = 0 then return index
          Fallible.failWhen (size.toNat > 63 ∨ index + size.toNat + 1 ≥ packet.length)
            .malformedRequest
          skipLabels packet fuel (index + size.toNat + 1)

def DnsQuery.parse (packet : Bytes) (maximumSize : Nat) : Fallible σ DnsError DnsQuery := do
  Fallible.failWhen (packet.length < 12) .malformedRequest
  Fallible.failWhen (packet.length > maximumSize) .requestTooLarge
  let flags ← byteAt packet 2
  let high ← byteAt packet 4
  let low ← byteAt packet 5
  Fallible.failWhen (flags &&& 128 ≠ 0 ∨ high ≠ 0 ∨ low ≠ 1) .malformedRequest
  let index ← skipLabels packet packet.length 12
  Fallible.failWhen (index + 4 ≥ packet.length) .malformedRequest
  let code ← u16At packet (index + 1)
  let recordType ← if code = 1 then pure .a else if code = 28 then pure .aaaa
    else Fallible.throw .malformedRequest
  return { transactionId := ← u16At packet 0, recordType }

structure UdpDnsResolver where
  server : SocketAddr
  limits : DnsLimits
  enabled : Bool

namespace UdpDnsResolver

def new (server : SocketAddr) (limits : DnsLimits) (enabled : Bool) :
    Except DnsError UdpDnsResolver := do
  Check.failWhen (limits.maximumRequestSize = 0 ∨ limits.maximumResponseSize = 0 ∨
    limits.timeout = 0) .timeout
  Check.failWhen (server.port = 0 ∨ server.ip.isUnspecified) .malformedRequest
  return { server, limits, enabled }

def ioTimeout {α : Type} (result : Except IoError α) : Fallible σ DnsError α :=
  Fallible.ofExcept (result.mapError (fun _ => .timeout))

/-- The part of `resolvePacket` that sends the query and checks what comes back. -/
def exchange (resolver : UdpDnsResolver) (socket : UdpSocket) (query : DnsQuery) :
    Fallible σ DnsError Bytes := do
  let _ ← ioTimeout socket.send
  let datagram ← ioTimeout socket.recv
  -- The buffer holds one byte more than the limit.
  let response := datagram.take (resolver.limits.maximumResponseSize + 1)
  Fallible.failWhen (response.length > resolver.limits.maximumResponseSize) .responseTooLarge
  Fallible.failWhen (response.length < 12) .transactionMismatch
  Fallible.failWhen ((← u16At response 0) ≠ query.transactionId) .transactionMismatch
  Fallible.failWhen ((← byteAt response 2) &&& 128 = 0) .invalidResponse
  let code := (← byteAt response 3) &&& 15
  if code = 0 ∨ code = 3 then return response
  else if code = 2 then Fallible.throw .serverFailure
  else Fallible.throw .invalidResponse

/-- The address that the query is sent to is noted. -/
def resolvePacket (resolver : UdpDnsResolver) (socket : UdpSocket) (request : Bytes) :
    Fallible (List SocketAddr) DnsError Bytes := do
  Fallible.failWhen (¬ resolver.enabled) .disabled
  let query ← DnsQuery.parse request resolver.limits.maximumRequestSize
  ioTimeout socket.bind
  ioTimeout socket.setReadTimeout
  ioTimeout socket.setWriteTimeout
  Fallible.modify (· ++ [resolver.server])
  resolver.exchange socket query

end UdpDnsResolver

end Network
