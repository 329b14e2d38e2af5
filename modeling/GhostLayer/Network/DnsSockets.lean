import GhostLayer.Network.DnsWire

/-! # Who answers a DNS query

Datagrams reach the socket of the resolver from any address and in any order, and
one is read. The socket is bound and not connected, so that the one that is read
is the first to arrive, whoever sent it.
-/

namespace Network

open Foundation

/-! ## Arrivals -/

structure Datagram where
  source : SocketAddr
  bytes : Bytes
  deriving DecidableEq

/-- The calls that a resolver makes on a socket, and the datagrams that reach it before a read
times out, in their order. -/
structure ArrivalSocket where
  bind : Except IoError Unit
  setReadTimeout : Except IoError Unit
  setWriteTimeout : Except IoError Unit
  send : Except IoError Nat
  arrivals : List Datagram

namespace ArrivalSocket

variable (socket : ArrivalSocket)

/-- A socket that is connected reads what its peer sent, one that is not reads everything. -/
def readable (peer : Option SocketAddr) : List Datagram :=
  socket.arrivals.filter fun datagram => peer.all (· = datagram.source)

def calls (peer : Option SocketAddr) : UdpSocket where
  bind := socket.bind
  connect := .ok ()
  setReadTimeout := socket.setReadTimeout
  setWriteTimeout := socket.setWriteTimeout
  send := socket.send
  recv := match socket.readable peer with
    | [] => .error ⟨.timedOut, "timed out"⟩
    | datagram :: _ => .ok datagram.bytes

/-- The calls before the read come back. -/
def Works : Prop :=
  socket.bind = .ok () ∧ socket.setReadTimeout = .ok () ∧ socket.setWriteTimeout = .ok () ∧
    ∃ written, socket.send = .ok written

@[simp] theorem readable_none : socket.readable none = socket.arrivals := by
  simp [readable]

theorem recv_eq_ok {peer : Option SocketAddr} {bytes : Bytes} :
    (socket.calls peer).recv = .ok bytes ↔
      ∃ datagram, (socket.readable peer).head? = some datagram ∧ datagram.bytes = bytes := by
  cases hreadable : socket.readable peer <;> simp [calls, hreadable]

end ArrivalSocket

/-! ## Answers -/

/-- A response to a request, with a code for a name that was found or does not exist. -/
structure IsAnswer (request : Bytes) (maximumSize : Nat) (response : Bytes) : Prop where
  size : 12 ≤ response.length ∧ response.length ≤ maximumSize
  transactionId : response.take 2 = request.take 2
  reply : ∃ flags, response[2]? = some flags ∧ flags &&& 128 ≠ 0
  code : ∃ byte, response[3]? = some byte ∧ (byte &&& 15 = 0 ∨ byte &&& 15 = 3)

namespace UdpDnsResolver

variable {σ : Type} {resolver : UdpDnsResolver} {socket : ArrivalSocket} {peer : Option SocketAddr}
  {request response : Bytes}

theorem new_eq_ok {server : SocketAddr} {limits : DnsLimits} {enabled : Bool}
    {resolver : UdpDnsResolver} : new server limits enabled = .ok resolver ↔
      ¬ (limits.maximumRequestSize = 0 ∨ limits.maximumResponseSize = 0 ∨ limits.timeout = 0) ∧
        (server.port ≠ 0 ∧ server.ip.isUnspecified = false) ∧
        resolver = ⟨server, limits, enabled⟩ := by
  simp only [new, Check.bind_eq_ok, Check.failWhen_eq_ok, exists_const, not_or, Bool.not_eq_true,
    pure, Except.pure, Except.ok.injEq, @eq_comm _ resolver]

theorem ioTimeout_eq_ok {α : Type} {result : Except IoError α} {value : α} {state final : σ} :
    ioTimeout result state = (.ok value, final) ↔ result = .ok value ∧ state = final := by
  rw [ioTimeout, Fallible.ofExcept_eq_ok, Check.mapError_eq_ok]

theorem code_eq_ok {code : UInt8} {response result : Bytes} {state final : σ} :
    (if code = 0 ∨ code = 3 then pure response
      else if code = 2 then Fallible.throw .serverFailure
      else Fallible.throw .invalidResponse : Fallible σ DnsError Bytes) state =
        (.ok result, final) ↔ (code = 0 ∨ code = 3) ∧ response = result ∧ state = final := by
  split_ifs with haccepted hfailure <;> simp [haccepted]

theorem exchange_eq_ok {calls : UdpSocket} {query : DnsQuery} {state final : σ}
    (hrequest : request.take 2 = Bytes.bigEndian 2 query.transactionId.toNat) :
    resolver.exchange calls query state = (.ok response, final) ↔
      (∃ written, calls.send = .ok written) ∧ calls.recv = .ok response ∧
        IsAnswer request resolver.limits.maximumResponseSize response ∧ state = final := by
  simp only [exchange, Fallible.bind_eq_ok, ioTimeout_eq_ok, Fallible.failWhen_eq_ok, u16At_eq_ok,
    byteAt_eq_ok, code_eq_ok]
  constructor
  · rintro ⟨written, _, ⟨hsend, rfl⟩, datagram, _, ⟨hrecv, rfl⟩, _, _, ⟨hlarge, rfl⟩, _, _,
      ⟨hsmall, rfl⟩, id, _, ⟨hid, rfl⟩, _, _, ⟨hsame, rfl⟩, flags, _, ⟨hflags, rfl⟩, _, _,
      ⟨hreply, rfl⟩, byte, _, ⟨hbyte, rfl⟩, hcode, hresponse, rfl⟩
    -- A datagram within the limit is not cut to the buffer.
    have hwhole : datagram.take (resolver.limits.maximumResponseSize + 1) = datagram := by
      rw [List.length_take] at hlarge
      exact List.take_of_length_le (by omega)
    rw [hwhole] at hlarge hsmall hid hflags hbyte hresponse
    subst hresponse
    obtain rfl := not_not.mp hsame
    exact ⟨⟨written, hsend⟩, hrecv, ⟨⟨not_lt.mp hsmall, not_lt.mp hlarge⟩, hid.trans hrequest.symm,
      ⟨flags, hflags, hreply⟩, ⟨byte, hbyte, hcode⟩⟩, rfl⟩
  · rintro ⟨⟨written, hsend⟩, hrecv, ⟨⟨hsmall, hlarge⟩, hid, ⟨flags, hflags, hreply⟩,
      ⟨byte, hbyte, hcode⟩⟩, rfl⟩
    refine ⟨written, state, ⟨hsend, rfl⟩, response, state, ⟨hrecv, rfl⟩, ?_⟩
    rw [List.take_of_length_le (by omega)]
    exact ⟨(), state, ⟨not_lt.mpr hlarge, rfl⟩, (), state, ⟨not_lt.mpr hsmall, rfl⟩,
      query.transactionId, state, ⟨hid.trans hrequest, rfl⟩, (), state, ⟨not_not.mpr rfl, rfl⟩,
      flags, state, ⟨hflags, rfl⟩, (), state, ⟨hreply, rfl⟩, byte, state, ⟨hbyte, rfl⟩, hcode, rfl,
      rfl⟩

/-- A response is taken when the calls come back and the datagram that is read is an answer. -/
theorem resolvePacket_eq_ok {contacted final : List SocketAddr} :
    resolver.resolvePacket (socket.calls peer) request contacted = (.ok response, final) ↔
      resolver.enabled = true ∧
      (∃ query, IsQuery request resolver.limits.maximumRequestSize query) ∧ socket.Works ∧
      (∃ datagram, (socket.readable peer).head? = some datagram ∧ datagram.bytes = response) ∧
      IsAnswer request resolver.limits.maximumResponseSize response ∧
      final = contacted ++ [resolver.server] := by
  simp only [resolvePacket, Fallible.bind_eq_ok, Fallible.failWhen_eq_ok, ioTimeout_eq_ok,
    Fallible.modify_eq_ok, not_not]
  constructor
  · rintro ⟨_, _, ⟨henabled, rfl⟩, query, _, hparse, _, _, ⟨hbind, rfl⟩, _, _, ⟨hread, rfl⟩, _, _,
      ⟨hwrite, rfl⟩, _, _, rfl, hexchange⟩
    have hquery := DnsQuery.isQuery_of_parse hparse
    obtain rfl := (DnsQuery.parse_eq_ok.mp hparse).2.2.2.2.2
    obtain ⟨hsend, hrecv, hanswer, rfl⟩ := (exchange_eq_ok hquery.transactionId).mp hexchange
    exact ⟨henabled, ⟨query, hquery⟩, ⟨hbind, hread, hwrite, hsend⟩,
      socket.recv_eq_ok.mp hrecv, hanswer, rfl⟩
  · rintro ⟨henabled, ⟨query, hquery⟩, ⟨hbind, hread, hwrite, hsend⟩, hrecv, hanswer, rfl⟩
    refine ⟨(), contacted, ⟨henabled, rfl⟩, query, contacted, DnsQuery.parse_of_isQuery hquery, (),
      contacted, ⟨hbind, rfl⟩, (), contacted, ⟨hread, rfl⟩, (), contacted,
        ⟨hwrite, rfl⟩, (), _, rfl,
      ?_⟩
    exact (exchange_eq_ok hquery.transactionId).mpr
      ⟨hsend, socket.recv_eq_ok.mpr hrecv, hanswer, rfl⟩

/-- What a response must be: one of the datagrams of the server, and an answer to the request. -/
def Trusted (resolver : UdpDnsResolver) (socket : ArrivalSocket) (request response : Bytes) :
    Prop :=
  (∃ datagram ∈ socket.arrivals, datagram.source = resolver.server ∧ datagram.bytes = response) ∧
    IsAnswer request resolver.limits.maximumResponseSize response

/-- Over a socket that is connected to the server, the checks would be enough. -/
theorem trusted_of_connected {contacted final : List SocketAddr}
    (hresolve : resolver.resolvePacket (socket.calls (some resolver.server)) request contacted =
      (.ok response, final)) : resolver.Trusted socket request response := by
  obtain ⟨-, -, -, ⟨datagram, hfirst, hbytes⟩, hanswer, -⟩ := resolvePacket_eq_ok.mp hresolve
  have hreadable := List.mem_of_mem_head? hfirst
  simp only [ArrivalSocket.readable, List.mem_filter, Option.all_some, decide_eq_true_eq]
    at hreadable
  exact ⟨⟨datagram, hreadable.1, hreadable.2.symm, hbytes⟩, hanswer⟩

/-- An answer comes from somewhere else before anything comes from the server. -/
structure Spoofed (resolver : UdpDnsResolver) (socket : ArrivalSocket) (request : Bytes)
    (first : Datagram) : Prop where
  enabled : resolver.enabled = true
  query : ∃ query, IsQuery request resolver.limits.maximumRequestSize query
  works : socket.Works
  leads : socket.arrivals.head? = some first
  answer : IsAnswer request resolver.limits.maximumResponseSize first.bytes
  stranger : ∀ datagram ∈ socket.arrivals, datagram.source = resolver.server →
    datagram.bytes ≠ first.bytes

/-- Every response is one that the server sent, unless the first datagram is another's answer. -/
theorem resolvePacket_trusted (resolver : UdpDnsResolver) (socket : ArrivalSocket)
    (request : Bytes) (contacted : List SocketAddr) :
    (∀ response, (resolver.resolvePacket (socket.calls none) request contacted).1 = .ok response →
      resolver.Trusted socket request response) ↔
        ∀ first, ¬ resolver.Spoofed socket request first := by
  constructor
  · rintro htrusted first ⟨henabled, hquery, hworks, hfirst, hanswer, hstranger⟩
    have hresolve := (@resolvePacket_eq_ok _ _ _ _ _ contacted _).mpr ⟨henabled, hquery, hworks,
      ⟨first, by rwa [ArrivalSocket.readable_none], rfl⟩, hanswer, rfl⟩
    obtain ⟨⟨datagram, hmem, hsource, hbytes⟩, -⟩ :=
      htrusted first.bytes (congrArg Prod.fst hresolve)
    exact hstranger datagram hmem hsource hbytes
  · intro hspoofed response hresolve
    obtain ⟨henabled, hquery, hworks, ⟨first, hfirst, rfl⟩, hanswer, -⟩ :=
      resolvePacket_eq_ok.mp (Prod.ext hresolve rfl)
    rw [ArrivalSocket.readable_none] at hfirst
    refine ⟨?_, hanswer⟩
    by_contra hnone
    exact hspoofed first ⟨henabled, hquery, hworks, hfirst, hanswer,
      fun datagram hmem hsource hbytes => hnone ⟨datagram, hmem, hsource, hbytes⟩⟩

/-! ### An answer from elsewhere -/

def exampleResolver : UdpDnsResolver where
  server := .v4 ⟨#[9, 9, 9, 9], rfl⟩ 53
  limits := ⟨512, 512, 10 ^ 9⟩
  enabled := true

/-- A query for the address of `test`. -/
def exampleQuery : Bytes :=
  [0x12, 0x34, 0x01, 0x00, 0, 1, 0, 0, 0, 0, 0, 0, 4, 116, 101, 115, 116, 0, 0, 1, 0, 1]

/-- The same name is said not to exist, by somebody who is not the server. -/
def strangerSocket : ArrivalSocket where
  bind := .ok ()
  setReadTimeout := .ok ()
  setWriteTimeout := .ok ()
  send := .ok 22
  arrivals := [⟨.v4 ⟨#[6, 6, 6, 6], rfl⟩ 4000, [0x12, 0x34, 0x81, 0x83, 0, 1, 0, 0, 0, 0, 0, 0]⟩]

theorem stranger_trusted :
    (exampleResolver.resolvePacket (strangerSocket.calls none) exampleQuery []).1 =
        .ok [0x12, 0x34, 0x81, 0x83, 0, 1, 0, 0, 0, 0, 0, 0] ∧
      ∀ response, ¬ exampleResolver.Trusted strangerSocket exampleQuery response := by
  refine ⟨by decide, ?_⟩
  rintro response ⟨⟨datagram, hmem, hsource, -⟩, -⟩
  obtain rfl := List.mem_singleton.mp hmem
  exact absurd hsource (by decide)

end UdpDnsResolver

end Network
