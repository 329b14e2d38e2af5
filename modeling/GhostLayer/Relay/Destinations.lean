import GhostLayer.Network.DnsSockets
import GhostLayer.Relay.ExitFlow

/-! # The destinations of an exit

The sockets of a relay reach only addresses that its configuration lists. The
TCP and UDP adapters ask the destination policy, which was loaded from the list;
the DNS server was held against the list when the configuration was read.
-/

namespace Relay

open Foundation Network

variable {ext : Externals}

/-! ## The policy -/

namespace DestinationPolicy

theorem mem_dedup {address : SocketAddr} (addresses : List SocketAddr) :
    address ∈ dedup addresses ↔ address ∈ addresses := by
  induction addresses using dedup.induct with
  | case1 => rfl
  | case2 => rfl
  | case3 second rest ih =>
      rw [dedup, if_pos rfl, ih]
      simp
  | case4 first second rest hdiffer ih =>
      simp only [dedup, if_neg hdiffer, List.mem_cons, ih]

theorem mem_new {address : SocketAddr} {allowed : List SocketAddr} :
    address ∈ (new allowed).allowed ↔ address ∈ allowed := by
  rw [new, mem_dedup, List.mem_mergeSort]

theorem parse_eq_ok {destination : String} {address : SocketAddr} :
    parse ext destination = .ok address ↔
      ext.parseSocket destination = some address ∧ address.port ≠ 0 ∧
        address.ip.isUnspecified = false := by
  simp only [parse, Check.bind_eq_ok, Check.orThrow_eq_ok, Check.failWhen_eq_ok, exists_const, pure,
    Except.pure, Except.ok.injEq, Bool.not_eq_true]
  constructor
  · rintro ⟨_, hparse, hport, hspecified, rfl⟩
    exact ⟨hparse, hport, hspecified⟩
  · rintro ⟨hparse, hport, hspecified⟩
    exact ⟨address, hparse, hport, hspecified, rfl⟩

theorem validate_eq_ok {policy : DestinationPolicy} {destination : String} {address : SocketAddr} :
    policy.validate ext destination = .ok address ↔
      parse ext destination = .ok address ∧ address ∈ policy.allowed := by
  simp only [validate, Check.bind_eq_ok, Check.failWhen_eq_ok, exists_const, not_not, pure,
    Except.pure, Except.ok.injEq]
  constructor
  · rintro ⟨_, hparse, hallowed, rfl⟩
    exact ⟨hparse, hallowed⟩
  · rintro ⟨hparse, hallowed⟩
    exact ⟨address, hparse, hallowed, rfl⟩

/-- The answer of a policy depends on the set of its addresses only. -/
theorem validate_congr {first second : List SocketAddr}
    (hsame : ∀ address, address ∈ first ↔ address ∈ second) (destination : String) :
    (new first).validate ext destination = (new second).validate ext destination := by
  simp only [validate, mem_new, hsame]

end DestinationPolicy

/-! ## The configuration -/

/-- An address that a configuration lists, with a port and no unspecified one. -/
structure Allowed (ext : Externals) (config : NodeConfig) (address : SocketAddr) : Prop where
  listed : ∃ text ∈ config.allowedExitDestinations, ext.parseSocket text = some address
  port : address.port ≠ 0
  specified : address.ip.isUnspecified = false

/-- What the policy of a relay lets through is allowed. -/
theorem Setup.allowed_of_validate (setup : Setup ext) {policy : DestinationPolicy}
    (hpolicy : setup.destinationPolicy = some policy) {destination : String} {address : SocketAddr}
    (hvalid : policy.validate ext destination = .ok address) :
    Allowed ext setup.config address := by
  obtain ⟨hparse, hmember⟩ := DestinationPolicy.validate_eq_ok.mp hvalid
  obtain ⟨_, hport, hspecified⟩ := DestinationPolicy.parse_eq_ok.mp hparse
  have hloaded := setup.loaded
  rw [hpolicy, loadDestinationPolicy] at hloaded
  split_ifs at hloaded with huses
  · rcases hstrings : DestinationPolicy.fromStrings ext setup.config.allowedExitDestinations with
      reason | loaded
    · rw [hstrings] at hloaded
      cases hloaded
    · rw [hstrings] at hloaded
      obtain rfl := Option.some.inj (Except.ok.inj hloaded)
      obtain ⟨allowed, hread, hnew⟩ := Check.bind_eq_ok.mp hstrings
      obtain rfl := Except.ok.inj hnew
      obtain ⟨text, htext, hlisted⟩ :=
        Check.mem_of_mapM hread (DestinationPolicy.mem_new.mp hmember)
      exact ⟨⟨text, htext, (DestinationPolicy.parse_eq_ok.mp hlisted).1⟩, hport, hspecified⟩
  · cases hloaded

/-- The DNS server of a configuration is on its list. -/
theorem dnsServer_listed {parseIp : String → Option IpAddr}
    {parseMultiaddr : String → Option Multiaddr} {values : Environment} {config : NodeConfig}
    (haccepted : NodeConfig.fromMap ext parseIp parseMultiaddr values = .ok config)
    (henabled : config.dnsEnabled = true) {server : String}
    (hserver : config.dnsServer = some server) : server ∈ config.allowedExitDestinations := by
  obtain ⟨read, _, hvalidate⟩ := Check.bind_eq_ok.mp haccepted
  obtain ⟨_, hvalid, hread⟩ := Check.bind_eq_ok.mp hvalidate
  obtain rfl := Except.ok.inj hread
  simp only [NodeConfig.validate, Check.bind_eq_ok, Check.failWhen_eq_ok, exists_const] at hvalid
  obtain ⟨_, _, _, _, _, _, _, _, hlisted, _⟩ := hvalid
  simpa [henabled, hserver] using hlisted

namespace Node

variable {setup : Setup ext} {inputs : Inputs} {forwarded : ForwardingMessage} {peerId : PeerId}
  {packet : ForwardedPacket} {payload : Bytes}

/-! ## Sockets -/

/-- Only allowed addresses were called. -/
def OnlyAllowed (ext : Externals) (config : NodeConfig) (called : List SocketAddr) : Prop :=
  ∀ address ∈ called, Allowed ext config address

theorem OnlyAllowed.append {config : NodeConfig} {called : List SocketAddr} {address : SocketAddr}
    (hcalled : OnlyAllowed ext config called) (hallowed : Allowed ext config address) :
    OnlyAllowed ext config (called ++ [address]) := by
  intro other hother
  rcases List.mem_append.mp hother with hbefore | hlast
  · exact hcalled other hbefore
  · obtain rfl := List.mem_singleton.mp hlast
    exact hallowed

theorem tcpConnect_preserves {policy : DestinationPolicy}
    (hpolicy : setup.destinationPolicy = some policy) (destination : String)
    (config : TcpAdapterConfig) (stream : TcpSocket) :
    Fallible.Preserves (OnlyAllowed ext setup.config)
      (TcpExitNetworkAdapter.connect ext destination policy config stream) := by
  unfold TcpExitNetworkAdapter.connect
  refine .bind (.of_ignores .ofExcept) fun _ => .bind_ok (.of_ignores .ofExcept)
    fun address _ _ hvalid => ?_
  have hallowed := setup.allowed_of_validate hpolicy (Fallible.ofExcept_eq_ok.mp hvalid).1
  exact .bind (.modify fun _ hcalled => hcalled.append hallowed) fun _ => .of_ignores <|
    .bind .ofExcept fun _ => .bind .ofExcept fun _ => .bind .ofExcept fun _ => .pure _

theorem udpConnect_preserves {policy : DestinationPolicy}
    (hpolicy : setup.destinationPolicy = some policy) (destination : String)
    (maximumDatagramSize timeout : Nat) (socket : UdpSocket) :
    Fallible.Preserves (OnlyAllowed ext setup.config)
      (UdpExitNetworkAdapter.connect ext destination policy
        maximumDatagramSize timeout socket) := by
  unfold UdpExitNetworkAdapter.connect
  refine .bind (.of_ignores .failWhen) fun _ => .bind_ok (.of_ignores .ofExcept)
    fun address _ _ hvalid => ?_
  have hudp := Check.mapError_eq_ok.mp (Fallible.ofExcept_eq_ok.mp hvalid).1
  obtain ⟨_, hvalidate, hrest⟩ := Check.bind_eq_ok.mp hudp
  obtain ⟨_, _, hsame⟩ := Check.bind_eq_ok.mp hrest
  obtain rfl := Except.ok.inj hsame
  have hallowed := setup.allowed_of_validate hpolicy hvalidate
  exact .bind (.of_ignores .ofExcept) fun _ =>
    .bind (.modify fun _ hcalled => hcalled.append hallowed) fun _ => .of_ignores <|
      .bind .ofExcept fun _ => .bind .ofExcept fun _ => .bind .ofExcept fun _ => .pure _

theorem resolvePacket_preserves {config : NodeConfig} {resolver : UdpDnsResolver}
    (hallowed : Allowed ext config resolver.server) (socket : UdpSocket) (request : Bytes) :
    Fallible.Preserves (OnlyAllowed ext config) (resolver.resolvePacket socket request) := by
  unfold UdpDnsResolver.resolvePacket
  exact .bind (.of_ignores .failWhen) fun _ => .bind (.of_ignores DnsQuery.parse_ignores) fun _ =>
    .bind (.of_ignores .ofExcept) fun _ => .bind (.of_ignores .ofExcept) fun _ =>
    .bind (.of_ignores .ofExcept) fun _ =>
    .bind (.modify fun _ hcalled => hcalled.append hallowed) fun _ =>
    .of_ignores UdpDnsResolver.exchange_ignores

/-! ## Everything but an exchange calls nobody -/

/-- The routine uses no socket. -/
def CallsNobody {α : Type} (routine : Handler α) : Prop := Fallible.Keeps Node.contacted routine

theorem emit_calls (effect : Effect) : CallsNobody (emit effect) := .modify fun _ => rfl

theorem onChannel_calls {α : Type} {sessionId : SessionId} {missing : String}
    {routine : Fallible EncryptedChannel RelayError α} :
    CallsNobody (onChannel sessionId missing routine) := by
  intro node
  simp only [onChannel]
  split <;> rfl

theorem onClientContext_calls {sessionId : SessionId}
    {routine : Fallible ForwardingContext RelayError Unit} :
    CallsNobody (onClientContext sessionId routine) := by
  intro node
  simp only [onClientContext]
  split <;> rfl

theorem onExitContext_calls {forwardingId : SessionId}
    {routine : Fallible ForwardingContext RelayError Unit} :
    CallsNobody (onExitContext forwardingId routine) := by
  intro node
  simp only [onExitContext]
  split <;> rfl

theorem onNat_calls {α : Type} {text : String} {routine : Fallible NatTable NatError α} :
    CallsNobody (onNat text routine) := by
  intro node
  simp only [onNat]
  split <;> rfl

theorem respond_calls {channel : ResponseChannel} : CallsNobody (respond inputs channel payload) :=
  .bind .failWhen fun _ => emit_calls _

theorem admitFlow_calls {flow : SessionId} {bytes : Nat} : CallsNobody (admitFlow flow bytes) := by
  refine .bind (.attempt (.zoom fun _ _ => rfl)) fun outcome => ?_
  cases outcome with
  | ok _ => exact .pure _
  | error reason => exact .bind (.modify fun _ => rfl) fun _ => .throw _

theorem openSession_calls {init : HandshakeInit} {channel : ResponseChannel}
    {response : HandshakeResponse} {session : SecureSession} :
    CallsNobody (openSession ext setup inputs init peerId channel response session) := by
  refine .bind (.attempt (.zoom fun _ _ => rfl)) fun outcome => ?_
  cases outcome with
  | error reason => exact .modify fun _ => rfl
  | ok _ =>
      refine .bind .ofExcept fun _ => .bind (.modify fun _ => rfl) fun _ => ?_
      split
      · unfold startRelayHandshake
        split
        · exact .pure _
        · exact .bind .ofExcept fun _ => .bind .ofExcept fun _ => .bind (.modify fun _ => rfl)
            fun _ => emit_calls _
      · exact respond_calls

theorem acceptHandshake_calls {init : HandshakeInit} {channel : ResponseChannel} :
    CallsNobody (acceptHandshake ext setup inputs init peerId channel) := by
  unfold acceptHandshake
  split
  · exact .pure _
  · refine .bind (.attempt (.zoom fun _ _ => rfl)) fun outcome => ?_
    cases outcome with
    | error reason => exact .pure _
    | ok accepted => exact openSession_calls

theorem answerMetadata_calls {request : RelayMetadataRequest} {channel : ResponseChannel} :
    CallsNobody (answerMetadata ext setup inputs request channel) := by
  unfold answerMetadata
  split
  · exact .bind .get fun _ => .bind .orThrow fun _ => respond_calls
  · exact .pure _

theorem requestExit_calls {forwarding : ClientForwarding} {message : ForwardingMessage}
    {sessionId : SessionId} {channel : ResponseChannel} :
    CallsNobody (requestExit ext inputs forwarding message sessionId channel) :=
  .bind (emit_calls _) fun _ => .modify fun _ => rfl

theorem forwardPacket_calls {channel : ResponseChannel} :
    CallsNobody (forwardPacket ext inputs forwarded peerId channel) :=
  .bind .get fun _ => .bind .orPanic fun _ => .bind .ofExcept fun _ => .bind .failWhen fun _ =>
    .bind .orThrow fun _ => .bind .failWhen fun _ => .bind onChannel_calls fun _ =>
    .bind .failWhen fun _ => .bind admitFlow_calls fun _ => .bind onClientContext_calls fun _ =>
    .bind onChannel_calls fun _ => requestExit_calls

theorem forwardEnvelope_calls {envelope : DataPlaneEnvelope} {channel : ResponseChannel} :
    CallsNobody (forwardEnvelope ext setup inputs envelope peerId channel) := by
  refine .bind onChannel_calls fun _ => .bind .get fun _ => .bind .orThrow fun _ => ?_
  split
  · exact .pure _
  · exact .bind onClientContext_calls fun _ =>
      .bind onChannel_calls fun _ => .bind .orThrow fun _ =>
      .bind .orThrow fun _ => requestExit_calls

theorem acknowledge_calls {envelope : DataPlaneEnvelope} {channel : ResponseChannel} :
    CallsNobody (acknowledge ext inputs envelope channel) := by
  refine .bind onChannel_calls fun opened => ?_
  cases opened with
  | none => exact .pure _
  | some frame => exact respond_calls

theorem handleEnvelope_calls {envelope : DataPlaneEnvelope} {channel : ResponseChannel} :
    CallsNobody (handleEnvelope ext setup inputs envelope peerId channel) := by
  unfold handleEnvelope
  split
  · exact .pure _
  · refine .bind .get fun _ => ?_
    split_ifs
    · exact forwardEnvelope_calls
    · exact acknowledge_calls
    · exact .pure _

theorem establishForwarding_calls {pending : PendingRelayHandshake} {response : HandshakeResponse} :
    CallsNobody (establishForwarding ext inputs pending response) := by
  refine .bind .ofExcept fun _ => .bind .ofExcept fun _ => .bind (.modify fun _ => rfl) fun _ => ?_
  split
  · exact fun _ => rfl
  · refine .bind .ofExcept fun _ => .bind .locally fun (_, _) => .bind (.modify fun _ => rfl)
      fun _ => ?_
    split
    · exact .pure _
    · exact respond_calls

theorem completeRelayHandshake_calls {response : HandshakeResponse} :
    CallsNobody (completeRelayHandshake ext inputs response peerId) := by
  refine .bind .get fun _ => ?_
  split
  · exact .pure _
  · refine .bind (.modify fun _ => rfl) fun _ => .bind .orPanic fun _ => ?_
    split
    · exact .pure _
    · exact establishForwarding_calls

theorem handleResponse_calls {requestId : RequestId} :
    CallsNobody (handleResponse ext inputs payload peerId requestId) := by
  unfold handleResponse
  split
  · exact completeRelayHandshake_calls
  · refine .bind .get fun _ => ?_
    split
    · exact .pure _
    · exact .bind (.modify fun _ => rfl) fun _ => .bind .orThrow fun _ => .bind .get fun _ =>
        .bind .orThrow fun _ => .bind .ofExcept fun _ => .bind .ofExcept fun _ =>
        .bind .ofExcept fun _ => .bind onClientContext_calls fun _ => .bind onChannel_calls fun _ =>
        .bind onChannel_calls fun _ => respond_calls

theorem notePeer_calls : CallsNobody (notePeer peerId) := by
  refine .bind (.attempt (.zoom fun _ _ => rfl)) fun outcome => ?_
  cases outcome with
  | ok _ => exact .pure _
  | error reason => exact .modify fun _ => rfl

theorem peerConnected_calls : CallsNobody (peerConnected inputs peerId) := by
  refine .bind notePeer_calls fun _ => .bind .get fun _ => ?_
  split
  · exact .pure _
  · exact emit_calls _

theorem listening_calls : CallsNobody listening := by
  refine .bind .get fun _ => ?_
  split
  · exact .pure _
  · exact .bind (.zoom fun _ _ => rfl) fun _ => .zoom fun _ _ => rfl

theorem handleTun_calls : CallsNobody (handleTun ext inputs payload) := by
  refine .bind .get fun node => ?_
  split
  · refine .bind (.attempt onChannel_calls) fun outcome => ?_
    cases outcome with
    | error reason => exact .pure _
    | ok frame => exact emit_calls _
  · exact .pure _

theorem openExitContext_calls {clientPeer : PeerId} :
    CallsNobody (openExitContext forwarded clientPeer) := by
  refine .bind .get fun node => ?_
  split
  · exact .pure _
  · exact .bind .ofExcept fun _ => .bind .locally fun (_, _) => .modify fun _ => rfl

theorem admitForwarded_calls : CallsNobody (admitForwarded ext forwarded peerId) :=
  .bind onExitContext_calls fun _ => .bind (.modify fun _ => rfl) fun _ =>
    .bind onExitContext_calls fun _ => .bind .orPanic fun _ =>
    .bind onExitContext_calls fun _ => .pure _

theorem openForwarded_calls : CallsNobody (openForwarded ext forwarded packet) :=
  .bind onChannel_calls fun _ => .bind .failWhen fun _ => .bind admitFlow_calls fun _ => .pure _

theorem validatePayload_calls {text : String} :
    CallsNobody (validatePayload ext setup forwarded peerId payload text) :=
  .bind .get fun _ => .bind .orPanic fun _ => .bind (.zoom fun _ _ => rfl) fun _ => .pure _

theorem driveAdapter_calls {adapter : TcpExitNetworkAdapter} :
    CallsNobody (driveAdapter ext setup forwarded peerId packet payload adapter) := by
  intro node
  unfold driveAdapter
  cases node.exitForwarding.lookup forwarded.forwardingId with
  | none => rfl
  | some context =>
      rcases hrun : ExitPacketHandler.handleBoundWithAdapterPayload forwarded.forwardingId payload
        context (bindingOf ext setup forwarded peerId) (node.exitHandler, adapter) with
        ⟨_ | _ | _, next⟩ <;> simp [hrun]

/-! ## The exchanges -/

/-- The sockets of a relay were used for allowed addresses only. -/
def CalledAllowed (setup : Setup ext) (node : Node) : Prop :=
  OnlyAllowed ext setup.config node.contacted

theorem CallsNobody.preserves {α : Type} {routine : Handler α} (hcalls : CallsNobody routine) :
    Fallible.Preserves (CalledAllowed setup) routine := by
  intro node hcalled
  unfold CalledAllowed
  rwa [hcalls node]

theorem onSockets_preserves {ε α : Type} {convert : ε → RelayError}
    {routine : Fallible (List SocketAddr) ε α}
    (hroutine : Fallible.Preserves (OnlyAllowed ext setup.config) routine) :
    Fallible.Preserves (CalledAllowed setup) (onSockets convert routine) :=
  .zoom (fun _ _ => rfl) hroutine.mapError

theorem exchangeUdp_preserves : Fallible.Preserves (CalledAllowed setup)
    (exchangeUdp ext setup inputs forwarded peerId packet payload) := by
  refine .bind (.of_ignores .failWhen) fun _ => .bind validatePayload_calls.preserves fun _ =>
    .bind (.of_ignores .orPanic) fun _ => .bind onNat_calls.preserves fun _ =>
    .bind_ok (CallsNobody.preserves .orThrow) fun policy _ _ hpolicy => ?_
  have hpolicy := (Fallible.orThrow_eq_ok.mp hpolicy).1
  exact .bind (onSockets_preserves (udpConnect_preserves hpolicy _ _ _ _)) fun _ =>
    .bind (emit_calls _).preserves fun _ => .bind (.of_ignores .ofExcept) fun _ =>
    .bind (CallsNobody.preserves .locally) fun _ => .bind onNat_calls.preserves fun _ =>
    .of_ignores (.pure _)

theorem exchangeTcp_preserves : Fallible.Preserves (CalledAllowed setup)
    (exchangeTcp ext setup inputs forwarded peerId packet payload) := by
  refine .bind (CallsNobody.preserves .orThrow) fun _ =>
    .bind (CallsNobody.preserves .orThrow) fun _ => .bind (.of_ignores .failWhen) fun _ =>
    .bind_ok (CallsNobody.preserves .orThrow) fun policy _ _ hpolicy => ?_
  have hpolicy := (Fallible.orThrow_eq_ok.mp hpolicy).1
  exact .bind (onSockets_preserves (tcpConnect_preserves hpolicy _ _ _)) fun _ =>
    .bind driveAdapter_calls.preserves fun (_, _) => .bind (CallsNobody.preserves .locally) fun _ =>
    .of_ignores (.pure _)

/-- The DNS server of the relay is a destination on its list. -/
def ServerListed (setup : Setup ext) : Prop :=
  setup.config.dnsEnabled = true → ∀ server, setup.config.dnsServer = some server →
    server ∈ setup.config.allowedExitDestinations

theorem exchangeDns_preserves (hlisted : ServerListed setup) :
    Fallible.Preserves (CalledAllowed setup)
      (exchangeDns ext setup inputs forwarded peerId packet payload) := by
  refine .bind_ok (.of_ignores .failWhen) fun _ _ _ henabled =>
    .bind_ok (CallsNobody.preserves .orThrow) fun configured _ _ hconfigured =>
    .bind_ok (CallsNobody.preserves .orThrow) fun server _ _ hserver =>
    .bind (.of_ignores .failWhen) fun _ => .bind validatePayload_calls.preserves fun _ =>
    .bind_ok (.of_ignores .ofExcept) fun resolver _ _ hnew => ?_
  have henabled := not_not.mp (Fallible.failWhen_eq_ok.mp henabled).1
  have hconfigured := (Fallible.orThrow_eq_ok.mp hconfigured).1
  have hserver := (Fallible.orThrow_eq_ok.mp hserver).1
  obtain ⟨-, ⟨hport, hspecified⟩, rfl⟩ :=
    UdpDnsResolver.new_eq_ok.mp (Check.mapError_eq_ok.mp (Fallible.ofExcept_eq_ok.mp hnew).1)
  have hallowed : Allowed ext setup.config server :=
    ⟨⟨configured, hlisted henabled configured hconfigured, hserver⟩, hport, hspecified⟩
  exact .bind (emit_calls _).preserves fun _ =>
    onSockets_preserves (resolvePacket_preserves hallowed _ _)

theorem exitForwarded_preserves {clientPeer : PeerId} {channel : ResponseChannel}
    (hlisted : ServerListed setup) :
    Fallible.Preserves (CalledAllowed setup)
      (exitForwarded ext setup inputs forwarded peerId clientPeer channel) := by
  refine .bind openExitContext_calls.preserves fun _ => .bind admitForwarded_calls.preserves
    fun packet => .bind openForwarded_calls.preserves fun payload => .bind ?_ fun answer => ?_
  · unfold exchange
    cases packet.protocol with
    | udp => exact .bind exchangeUdp_preserves fun _ => .of_ignores (.pure _)
    | dns => exact .bind (exchangeDns_preserves hlisted) fun _ => .of_ignores (.pure _)
    | tcp => exact .bind exchangeTcp_preserves fun _ => .of_ignores (.pure _)
    | ip =>
        refine .bind (CallsNobody.preserves ?_) fun _ => .of_ignores (.pure _)
        unfold writeTun
        split
        · exact emit_calls _
        · exact .pure _
  · cases answer with
    | none => exact .of_ignores (.pure _)
    | some response => exact CallsNobody.preserves (.bind onChannel_calls fun _ => respond_calls)

/-! ## Runs -/

theorem handleForwarding_preserves {channel : ResponseChannel} (hlisted : ServerListed setup) :
    Fallible.Preserves (CalledAllowed setup)
      (handleForwarding ext setup inputs forwarded peerId channel) := by
  unfold handleForwarding
  split
  · exact .of_ignores (.pure _)
  · refine .bind (CallsNobody.preserves .get) fun _ => ?_
    split_ifs
    · exact forwardPacket_calls.preserves
    · exact .of_ignores (.pure _)
    · split
      · exact .of_ignores (.pure _)
      · exact exitForwarded_preserves hlisted
    · exact .of_ignores (.pure _)

theorem handleRequest_preserves {channel : ResponseChannel} (hlisted : ServerListed setup) :
    Fallible.Preserves (CalledAllowed setup)
      (handleRequest ext setup inputs payload peerId channel) := by
  unfold handleRequest
  split
  · exact acceptHandshake_calls.preserves
  · split
    · exact answerMetadata_calls.preserves
    · split
      · exact handleForwarding_preserves hlisted
      · split
        · exact handleEnvelope_calls.preserves
        · exact .of_ignores (.pure _)

theorem handleEvent_preserves {event : NetworkEvent ResponseChannel RequestId}
    (hlisted : ServerListed setup) :
    Fallible.Preserves (CalledAllowed setup) (handleEvent ext setup inputs event) := by
  refine .bind (CallsNobody.preserves (.modify fun _ => rfl)) fun _ => ?_
  cases event with
  | listening => exact listening_calls.preserves
  | peerConnected => exact peerConnected_calls.preserves
  | peerDisconnected => exact CallsNobody.preserves (.modify fun _ => rfl)
  | discoveryRequest => exact handleRequest_preserves hlisted
  | discoveryResponse => exact handleResponse_calls.preserves
  | peerIdentified => exact .of_ignores (.pure _)
  | pingResult => exact .of_ignores (.pure _)
  | networkError => exact .of_ignores (.pure _)

variable (setup inputs) in
/-- Every event keeps to the list, whether the relay survives it or not. -/
theorem handle_preserves (hlisted : ServerListed setup) (event : LoopEvent) :
    Fallible.Preserves (CalledAllowed setup) (handle ext setup inputs event) := by
  cases event with
  | network event => exact handleEvent_preserves hlisted
  | tun payload => exact handleTun_calls.preserves
  | heartbeat => exact CallsNobody.preserves (.modify fun _ => rfl)

theorem calledAllowed_of_reachable {node : Node} (hlisted : ServerListed setup)
    (hreach : (loop ext setup).Reachable node) : CalledAllowed setup node := by
  refine hreach.invariant (CalledAllowed setup) ?_ ?_
  · intro start hstarted address haddress
    rw [hstarted.contacted] at haddress
    cases haddress
  · rintro state next _ hcalled ⟨inputs, event, hrun⟩
    have hkept := handle_preserves setup inputs hlisted event state hcalled
    rwa [hrun] at hkept

/-- A relay whose configuration was read from an environment calls only addresses on its list, at
every event in every run, and the order and the number of times in which the list names them does
not matter. -/
theorem handle_calls_allowed {parseIp : String → Option IpAddr}
    {parseMultiaddr : String → Option Multiaddr} {values : Environment}
    (haccepted : NodeConfig.fromMap ext parseIp parseMultiaddr values = .ok setup.config)
    {node : Node} (hreach : (loop ext setup).Reachable node) (event : LoopEvent) :
    (∀ address ∈ (handle ext setup inputs event node).2.contacted,
      Allowed ext setup.config address) ∧
    ∀ first second : List SocketAddr, (∀ address, address ∈ first ↔ address ∈ second) →
      ∀ destination, (DestinationPolicy.new first).validate ext destination =
        (DestinationPolicy.new second).validate ext destination := by
  have hlisted : ServerListed setup :=
    fun henabled server hserver => dnsServer_listed haccepted henabled hserver
  exact ⟨handle_preserves setup inputs hlisted event node
      (calledAllowed_of_reachable hlisted hreach),
    fun first second hsame destination => DestinationPolicy.validate_congr hsame destination⟩

/-! ### An exit that calls its destination -/

section Calling

open ReferenceRelay

def destinationText : String := bytesText (socketBytes destination)

/-- The environment of the exit. -/
def environment : Environment := fun key => List.lookup key [
  (Key.listenAddress, "/ip4/0.0.0.0/udp/9000/quic-v1"),
  (Key.routeMode, "two-hop"),
  (Key.tunEnabled, "true"),
  (Key.allowedExitDestinations, destinationText),
  (Key.externalTestDestination, destinationText),
  (Key.maxConnectedPeers, "8"),
  (Key.maxActiveSessions, "8"),
  (Key.maxActiveFlows, "8"),
  (Key.relayRole, "exit")]

theorem environment_destinations :
    NodeConfig.parseAllowedDestinations reference environment = .ok [destinationText] ∧
      NodeConfig.parseExternalTestDestination reference environment =
        .ok (some destinationText) := by
  have hread : reference.parseSocket destinationText = some destination :=
    reference.readsSockets destination
  have hallowed : optional environment Key.allowedExitDestinations = some destinationText := by
    decide +kernel
  have hexternal : optional environment Key.externalTestDestination = some destinationText := by
    decide +kernel
  have hitems : items destinationText = [destinationText] := by decide +kernel
  constructor
  · simp only [NodeConfig.parseAllowedDestinations, hallowed, hitems, NodeConfig.parseAddress,
      List.mapM_cons, List.mapM_nil, hread]
    rfl
  · simp only [NodeConfig.parseExternalTestDestination, NodeConfig.parseOptionalAddress, hexternal,
      NodeConfig.parseAddress, hread]
    rfl

theorem fromMap_environment :
    NodeConfig.fromMap reference (fun _ => none) (fun _ => none) environment =
      .ok Flow.exitRelay.config := by
  have hread : NodeConfig.readFields reference (fun _ => none) environment =
      .ok Flow.exitRelay.config := by
    rw [NodeConfig.readFields, environment_destinations.1, environment_destinations.2]
    rfl
  have hvalid : Flow.exitRelay.config.validate (fun _ => none) = .ok () := by
    have hlisted : Flow.exitRelay.config.validateTestDestination = .ok () := by
      simp [NodeConfig.validateTestDestination, Flow.exitRelay, ReferenceRelay.setup, config,
        Check.failWhen]
    rw [NodeConfig.validate, hlisted]
    rfl
  exact Check.bind_eq_ok.mpr ⟨_, hread, Check.bind_eq_ok.mpr ⟨(), hvalid, rfl⟩⟩

/-- The stream of an exchange over TCP was connected to the destination of the packet. -/
theorem called_of_exchange {node next : Node} {answer : Option Bytes}
    (hprotocol : packet.protocol = .tcp)
    (hrun : exchange ext setup inputs forwarded peerId packet payload node = (.ok answer, next)) :
    packet.destination ∈ next.contacted := by
  simp only [exchange, hprotocol, Fallible.bind_eq_ok, exchangeTcp_eq_ok,
    Fallible.pure_eq_ok] at hrun
  obtain ⟨_, _, ⟨_, destination, policy, _, called, _, _, _, hdestination, _, hconnect, _, _, _,
    rfl⟩, _, rfl⟩ := hrun
  simp only [TcpExitNetworkAdapter.connect, Fallible.bind_eq_ok, Fallible.ofExcept_eq_ok,
    Fallible.modify_eq_ok, Fallible.pure_eq_ok] at hconnect
  obtain ⟨_, _, ⟨_, rfl⟩, address, _, ⟨hvalid, rfl⟩, _, _, rfl, _, _,
    ⟨_, rfl⟩, _, _, ⟨_, rfl⟩, _, _,
    ⟨_, rfl⟩, _, rfl⟩ := hconnect
  have hread := (DestinationPolicy.parse_eq_ok.mp (DestinationPolicy.validate_eq_ok.mp hvalid).1).1
  obtain rfl := Option.some.inj (hdestination.symm.trans hread)
  simp

/-- The exit of the environment calls its destination for the first message of a flow. -/
theorem handle_calls_destination : ∃ node event,
    NodeConfig.fromMap reference (fun _ => none) (fun _ => none) environment =
      .ok Flow.exitRelay.config ∧
    (loop reference Flow.exitRelay).Reachable node ∧
    destination ∈ (handle reference Flow.exitRelay
      (ReferenceRelay.inputs 0) event node).2.contacted ∧
    Allowed reference Flow.exitRelay.config destination := by
  obtain ⟨node, final, frame, hreach, -, hhandle, _, hrun⟩ := Flow.exit_takes
  have hsends := Flow.clientFlow_sends (by decide : (1 : UInt64) ≠ 0) frame
  -- The run opened the message that was given, so it called the destination of its policy.
  have hcalled : destination ∈ final.contacted := by
    obtain ⟨_, packet, _, _, answer, next, hreaches, hexchange, hanswers⟩ :=
      exitForwarded_eq_ok.mp hrun
    obtain rfl := Option.some.inj (hsends.belongs.shown.symm.trans hreaches.admits.belongs.shown)
    have hnext := called_of_exchange rfl hexchange
    cases answer with
    | none =>
        obtain rfl := hanswers
        exact hnext
    | some response =>
        obtain ⟨_, _, _, _, rfl⟩ := hanswers
        exact hnext
  have hreaches : destination ∈ (handle reference Flow.exitRelay (ReferenceRelay.inputs 0)
      (Flow.clientFlow.arrival reference (Flow.clientDelivery 1 frame)) node).2.contacted := by
    rw [hhandle]
    exact hcalled
  exact ⟨node, _, fromMap_environment, hreach, hreaches,
    (handle_calls_allowed fromMap_environment hreach _).1 destination hreaches⟩

end Calling

end Node

end Relay
