import GhostLayer.Client.Handshakes
import GhostLayer.Network.ChannelPairs
import GhostLayer.Network.PipelineDelivery
import GhostLayer.Network.TunBridge

/-! # How the client program ends

The program sends one packet over its session and waits. It finishes on a response
that the session authenticates and that says what was waited for, and on no other
event; the channel is closed then.
-/

namespace Client

open Foundation Network Relay

variable {ext : Externals}

namespace Program

variable {setup : Setup} {inputs : Inputs} {program final : Program}
  {channel opened : EncryptedChannel} {envelope : DataPlaneEnvelope} {received : DataPlaneMessage}
  {message : ForwardingMessage}

/-! ## The channel -/

/-- A channel that was closed on this side. -/
def closed (channel : EncryptedChannel) : EncryptedChannel :=
  { channel with
    state := .closed
    session := { channel.session with state := .closed } }

def withClosed (program : Program) (channel : EncryptedChannel) : Program :=
  { program with activeChannel := some (closed channel) }

theorem finish_run (hactive : program.activeChannel = some channel)
    (hstate : channel.state = .established) (hsession : channel.session.state = .established) :
    finish program = (.error .finished, program.withClosed channel) := by
  have hclose : EncryptedChannel.close channel = (.ok (), closed channel) := by
    simp [EncryptedChannel.close, hstate, EncryptedChannel.onSession, Fallible.mapError,
      Fallible.zoom, SecureSession.close, hsession, closed]
  rw [finish, Fallible.get_bind_run]
  simp only [hactive, onChannel, Fallible.bind_run, hclose]
  rfl

/-- What is received was received on an open channel, which stays open. -/
theorem receive_established {maximumPayloadSize : Nat}
    (hreceive : DataPlane.receive ext maximumPayloadSize envelope channel =
      (.ok received, opened)) :
    channel.state = .established ∧ opened.state = .established ∧
      opened.session.state = .established := by
  obtain ⟨_, _, haccepted, _⟩ := DataPlane.receive_eq_ok.mp hreceive
  obtain ⟨_, _, _, _, _, hframed, hdecrypt, _, _, _, rfl⟩ :=
    EncryptedChannel.receive_eq_ok.mp haccepted
  obtain ⟨hsession, _, _, _, rfl⟩ := SecureSession.decrypt_eq_ok.mp hdecrypt
  exact ⟨hframed.established, by simp [EncryptedChannel.accepted, hframed.established], hsession⟩

/-! ## Verdicts -/

/-- What the program makes of the payload of a message: it ends, or waits on. -/
def verdict (packet : Option ForwardedPacket) (payload : Bytes) : Option Stop :=
  if payload = Bytes.ofText "ghost-layer-external-test" then some .finished
  else match packet.map ForwardedPacket.protocol with
    | some .udp =>
        if payload = Bytes.ofText "ack: hello ghost layer udp" then some .finished
        else some (.failed .unexpectedUdpResponse)
    | some .dns =>
        if [127, 0, 0, 1] <:+: payload then some .finished
        else some (.failed .unexpectedDnsResponse)
    | _ => none

/-- Where the program is left when it has made its verdict. -/
def judged (program : Program) (channel : EncryptedChannel) :
    Option Stop → Outcome Stop Unit × Program
  | none => (.ok (), program)
  | some .finished => (.error .finished, program.withClosed channel)
  | some (.failed reason) => (.error (.failed reason), program)

theorem checkProtocolResponse_udp (payload : Bytes) :
    checkProtocolResponse .udp payload =
      if payload = Bytes.ofText "ack: hello ghost layer udp" then .ok ()
      else .error .unexpectedUdpResponse := by
  split_ifs with hexpected <;>
    simp [checkProtocolResponse, hexpected, Check.failWhen, bind, Except.bind]

theorem checkProtocolResponse_dns (payload : Bytes) :
    checkProtocolResponse .dns payload =
      if [127, 0, 0, 1] <:+: payload then .ok () else .error .unexpectedDnsResponse := by
  split_ifs with hexpected <;>
    simp [checkProtocolResponse, hexpected, Check.failWhen, bind, Except.bind]

theorem conclude_run (hactive : program.activeChannel = some channel)
    (hstate : channel.state = .established) (hsession : channel.session.state = .established) :
    conclude message received program =
      program.judged channel (verdict message.packet received.payload) := by
  have hfinish := finish_run hactive hstate hsession
  unfold conclude verdict
  split
  · exact hfinish
  · rcases message.packet.map ForwardedPacket.protocol with _ | (_ | _ | _ | _)
    case some.udp =>
      simp only [checkProtocolResponse_udp]
      split_ifs
      · exact hfinish
      · rfl
    case some.dns =>
      simp only [checkProtocolResponse_dns]
      split_ifs
      · exact hfinish
      · rfl
    all_goals rfl

/-! ## The last event -/

theorem writeFrame_eq_ok {bridge : TunDataPlane} {device : TunDevice} {maximumPayloadSize : Nat}
    {packet : NetworkPacket} :
    TunDataPlane.writeFrame ext bridge device maximumPayloadSize envelope channel =
        (.ok packet, opened) ↔
      ∃ received, DataPlane.receive ext maximumPayloadSize envelope channel =
          (.ok received, opened) ∧
        NetworkPacket.new received.payload bridge.maximumPacketSize bridge.mtu = .ok packet ∧
        device.writePacket = .ok () := by
  rw [TunBridge.writeFrame_calls, TunBridge.writeFrame_run]
  rcases DataPlane.receive ext maximumPayloadSize envelope channel with ⟨received | _ | _, next⟩
  · cases hnew : NetworkPacket.new received.payload bridge.maximumPacketSize bridge.mtu with
    | error reason => simp [hnew]
    | ok read =>
        cases hwrite : device.writePacket with
        | error reason => simp [TunDevice.calls, hnew, hwrite]
        | ok => simp [TunDevice.calls, hwrite, hnew, and_comm]
  · simp
  · simp

/-- A step that can only fail does not finish the program. -/
theorem orFail_bind_finished {ε α : Type} {convert : ε → ProgramError} {result : Except ε α}
    {rest : α → Handler Unit} :
    (orFail convert result >>= rest) program = (.error .finished, final) ↔
      ∃ value, result = .ok value ∧ rest value program = (.error .finished, final) := by
  cases result with
  | error reason => simp [orFail, Except.mapError, Fallible.bind_run]
  | ok value => simp [orFail, Except.mapError]

theorem onChannel_bind_finished {ε α : Type} {routine : Fallible EncryptedChannel ε α}
    {rest : Except ε α → Handler Unit} :
    (onChannel channel routine >>= rest) program = (.error .finished, final) ↔
      ∃ result next, routine channel = (.ofExcept result, next) ∧
        rest result { program with activeChannel := some next } = (.error .finished, final) := by
  rw [Fallible.bind_run, onChannel]
  rcases hroutine : routine channel with ⟨value | reason | _, next⟩
  · constructor
    · exact fun hrest => ⟨.ok value, next, rfl, hrest⟩
    · rintro ⟨_ | _, _, hsame, hrest⟩ <;> cases hsame
      exact hrest
  · constructor
    · exact fun hrest => ⟨.error reason, next, rfl, hrest⟩
    · rintro ⟨_ | _, _, hsame, hrest⟩ <;> cases hsame
      exact hrest
  · constructor
    · intro hpanic
      cases hpanic
    · rintro ⟨_ | _, _, hsame, _⟩ <;> cases hsame

variable (ext setup inputs program) in
/-- The responses on which the program finishes, with the channel that they were opened on and what
is still done. -/
inductive Concludes : Response → EncryptedChannel → List Effect → Prop
  | payload (message : ForwardingMessage) (channel opened : EncryptedChannel) (route : RouteBinding)
      (received : DataPlaneMessage) (kind : message.kind = forwardingKind)
      (active : program.activeChannel = some channel) (selected : program.activeRoute = some route)
      (belongs : bound ext setup message channel route = true)
      (plain : setup.tunWriter = false)
      (opens : DataPlane.receive ext defaultMaximumPayloadSize message.data channel =
        (.ok received, opened))
      (awaited : verdict message.packet received.payload = some .finished) :
      Concludes (.forwarding message) opened []
  | packet (message : ForwardingMessage) (channel opened : EncryptedChannel) (route : RouteBinding)
      (received : DataPlaneMessage) (packet : NetworkPacket) (kind : message.kind = forwardingKind)
      (active : program.activeChannel = some channel) (selected : program.activeRoute = some route)
      (belongs : bound ext setup message channel route = true)
      (device : setup.tunWriter = true)
      (limits : setup.tun.maximumPacketSize ≠ 0 ∧ setup.tun.mtu ≠ 0)
      (opens : DataPlane.receive ext defaultMaximumPayloadSize message.data channel =
        (.ok received, opened))
      (fits : NetworkPacket.new received.payload setup.tun.maximumPacketSize setup.tun.mtu =
        .ok packet)
      (written : inputs.device.writePacket = .ok ()) :
      Concludes (.forwarding message) opened [.tun packet.bytes]
  | acknowledgement (envelope : DataPlaneEnvelope) (channel opened : EncryptedChannel)
      (received : DataPlaneMessage) (kind : envelope.kind = dataPlaneKind)
      (active : program.activeChannel = some channel)
      (opens : DataPlane.receive ext defaultMaximumPayloadSize envelope channel =
        (.ok received, opened))
      (awaited : Bytes.ofText "ack: " <+: received.payload) :
      Concludes (.envelope envelope) opened []

/-- The program when it has finished. -/
def concluded (program : Program) (opened : EncryptedChannel) (sent : List Effect) : Program :=
  { program with
    activeChannel := some (closed opened)
    effects := program.effects ++ sent }

theorem writeToTun_finished :
    writeToTun ext setup inputs channel message program = (.error .finished, final) ↔
      ∃ received packet opened, (setup.tun.maximumPacketSize ≠ 0 ∧ setup.tun.mtu ≠ 0) ∧
        DataPlane.receive ext defaultMaximumPayloadSize message.data channel =
          (.ok received, opened) ∧
        NetworkPacket.new received.payload setup.tun.maximumPacketSize setup.tun.mtu =
          .ok packet ∧
        inputs.device.writePacket = .ok () ∧
        program.concluded opened [.tun packet.bytes] = final := by
  simp only [writeToTun, onChannel_bind_finished, orFail_bind_finished, TunDataPlane.new,
    Check.bind_eq_ok, Check.failWhen_eq_ok, not_or]
  constructor
  · rintro ⟨_, _, -, _, rfl, _, ⟨_, hlimits, hbridge⟩, _, opened, hwrites, packet, rfl, hrest⟩
    cases hbridge
    obtain ⟨received, hreceive, hnew, hwrite⟩ := writeFrame_eq_ok.mp hwrites
    obtain ⟨-, hstate, hsession⟩ := receive_established hreceive
    rw [emit, Fallible.modify_bind_run, finish_run rfl hstate hsession] at hrest
    obtain rfl := (Prod.mk.inj hrest).2
    exact ⟨received, packet, opened, hlimits, hreceive, hnew, hwrite, rfl⟩
  · rintro ⟨received, packet, opened, hlimits, hreceive, hnew, hwrite, rfl⟩
    obtain ⟨hbefore, hstate, hsession⟩ := receive_established hreceive
    refine ⟨.ok (), channel, DataPlane.open_eq_ok.mpr ⟨⟨hbefore, by decide⟩, rfl⟩, (), rfl, _,
      ⟨(), hlimits, rfl⟩, .ok packet, opened,
      writeFrame_eq_ok.mpr ⟨received, hreceive, hnew, hwrite⟩, packet, rfl, ?_⟩
    rw [emit, Fallible.modify_bind_run, finish_run rfl hstate hsession]
    rfl

theorem receiveOn_bind_finished {rest : Except DataPlaneError DataPlaneMessage → Handler Unit}
    (hquiet : ∀ reason next, rest (.error reason) next ≠ (.error .finished, final)) :
    (receiveOn ext channel envelope >>= rest) program = (.error .finished, final) ↔
      ∃ received opened, DataPlane.receive ext defaultMaximumPayloadSize envelope channel =
          (.ok received, opened) ∧
        rest (.ok received) { program with activeChannel := some opened } =
          (.error .finished, final) := by
  rw [receiveOn, onChannel_bind_finished]
  constructor
  · rintro ⟨_ | received, opened, hroutine, hrest⟩
    · exact absurd hrest (hquiet _ _)
    · obtain ⟨_, _, hopen, hreceive⟩ := Fallible.bind_eq_ok.mp hroutine
      obtain ⟨-, rfl⟩ := DataPlane.open_eq_ok.mp hopen
      exact ⟨received, opened, hreceive, hrest⟩
  · rintro ⟨received, opened, hreceive, hrest⟩
    have hopen : DataPlane.open defaultMaximumPayloadSize channel = (.ok (), channel) :=
      DataPlane.open_eq_ok.mpr ⟨⟨(receive_established hreceive).1, by decide⟩, rfl⟩
    exact ⟨.ok received, opened, Fallible.bind_eq_ok.mpr ⟨(), channel, hopen, hreceive⟩, hrest⟩

theorem with_activeChannel (program : Program) (channel : EncryptedChannel) :
    ({ program with activeChannel := some channel } : Program).activeChannel = some channel := rfl

theorem judged_finished {stop : Option Stop} :
    program.judged channel stop = (.error .finished, final) ↔
      stop = some .finished ∧ program.withClosed channel = final := by
  rcases stop with _ | (_ | reason) <;> simp [judged]

theorem deliver_finished :
    deliver ext setup inputs message program = (.error .finished, final) ↔
      ∃ opened sent, Concludes ext setup inputs program (.forwarding message) opened sent ∧
        program.concluded opened sent = final := by
  constructor
  · intro hrun
    unfold deliver at hrun
    by_cases hkind : message.kind = forwardingKind
    · simp only [if_pos hkind, Fallible.get_bind_run] at hrun
      cases hactive : program.activeChannel with
      | none =>
          rw [hactive] at hrun
          cases hrun
      | some channel =>
          cases hover : program.activeRoute with
          | none =>
              simp only [hactive, hover] at hrun
              cases hrun
          | some route =>
              simp only [hactive, hover] at hrun
              split_ifs at hrun with hbelongs hdevice
              · obtain ⟨received, packet, opened, hlimits, hreceive, hnew, hwrite, hfinal⟩ :=
                  writeToTun_finished.mp hrun
                exact ⟨opened, _, .packet message channel opened route received packet hkind hactive
                  hover hbelongs hdevice hlimits hreceive hnew hwrite, hfinal⟩
              · obtain ⟨received, opened, hreceive, hconcludes⟩ :=
                  (receiveOn_bind_finished fun _ _ hrest => by cases hrest).mp hrun
                obtain ⟨-, hstate, hsession⟩ := receive_established hreceive
                simp only [conclude_run (program.with_activeChannel opened) hstate hsession,
                  judged_finished] at hconcludes
                refine ⟨opened, [], .payload message channel opened route received hkind hactive
                  hover hbelongs (Bool.eq_false_iff.mpr hdevice) hreceive hconcludes.1, ?_⟩
                rw [← hconcludes.2, concluded, List.append_nil]
                rfl
              · cases hrun
    · simp only [if_neg hkind] at hrun
      cases hrun
  · rintro ⟨opened, sent, hconcludes, rfl⟩
    unfold deliver
    cases hconcludes with
    | payload _ channel _ route received kind active selected belongs plain opens awaited =>
        simp only [if_pos kind, Fallible.get_bind_run, active, selected, belongs, plain]
        refine (receiveOn_bind_finished fun _ _ hrest => by cases hrest).mpr
          ⟨received, opened, opens, ?_⟩
        obtain ⟨-, hstate, hsession⟩ := receive_established opens
        simp only [conclude_run (program.with_activeChannel opened) hstate hsession,
          judged_finished]
        refine ⟨awaited, ?_⟩
        rw [concluded, List.append_nil]
        rfl
    | packet _ channel _ route received packet kind active selected belongs device limits opens fits
        written =>
        simp only [if_pos kind, Fallible.get_bind_run, active, selected, belongs, device]
        exact writeToTun_finished.mpr ⟨received, packet, opened, limits, opens, fits, written, rfl⟩

variable (setup inputs) in
theorem acknowledge_finished :
    acknowledge ext envelope program = (.error .finished, final) ↔
      ∃ opened sent, Concludes ext setup inputs program (.envelope envelope) opened sent ∧
        program.concluded opened sent = final := by
  constructor
  · intro hrun
    unfold acknowledge at hrun
    by_cases hkind : envelope.kind = dataPlaneKind
    · simp only [if_pos hkind, Fallible.get_bind_run] at hrun
      cases hactive : program.activeChannel with
      | none =>
          rw [hactive] at hrun
          cases hrun
      | some channel =>
          simp only [hactive] at hrun
          obtain ⟨received, opened, hreceive, hrest⟩ :=
            (receiveOn_bind_finished fun _ _ hrest => by cases hrest).mp hrun
          obtain ⟨-, hstate, hsession⟩ := receive_established hreceive
          dsimp only at hrest
          split_ifs at hrest with hawaited
          · rw [finish_run (program.with_activeChannel opened) hstate hsession] at hrest
            refine ⟨opened, [], .acknowledgement envelope channel opened received hkind hactive
              hreceive hawaited.2, ?_⟩
            rw [← (Prod.mk.inj hrest).2, concluded, List.append_nil]
            rfl
          · cases hrest
    · simp only [if_neg hkind] at hrun
      cases hrun
  · rintro ⟨opened, sent, hconcludes, rfl⟩
    cases hconcludes with
    | acknowledgement _ channel _ received kind active opens awaited =>
        unfold acknowledge
        simp only [if_pos kind, Fallible.get_bind_run, active]
        refine (receiveOn_bind_finished fun _ _ hrest => by cases hrest).mpr
          ⟨received, opened, opens, ?_⟩
        obtain ⟨-, hstate, hsession⟩ := receive_established opens
        simp only [awaited, and_self, if_true,
          finish_run (program.with_activeChannel opened) hstate hsession]
        rw [concluded, List.append_nil]
        rfl

/-! ### Other events -/

theorem firstEnvelope_raises (session : SecureSession) :
    Fallible.Raises (· ≠ Stop.finished) (firstEnvelope ext setup inputs session) := by
  unfold firstEnvelope
  split
  · refine (Fallible.Raises.mapError fun _ => nofun).bind fun _ =>
      (Fallible.Raises.ofExcept fun _ => nofun).bind fun packet => ?_
    cases packet with
    | none => exact .throw nofun
    | some packet =>
        exact (Fallible.Raises.ofExcept fun _ => nofun).bind fun mtu =>
          (Fallible.Raises.mapError fun _ => nofun).bind fun _ => .pure _
  · exact (Fallible.Raises.mapError fun _ => nofun).bind fun _ =>
      (Fallible.Raises.mapError fun _ => nofun).bind fun _ => .pure _

theorem openSession_raises (session : SecureSession) :
    Fallible.Raises (· ≠ Stop.finished) (openSession ext setup inputs session) :=
  (Fallible.Raises.ofExcept fun _ => nofun).bind fun _ =>
    (firstEnvelope_raises session).locally.bind fun _ =>
      (Fallible.Raises.ofExcept fun _ => nofun).bind fun _ =>
        (Fallible.Raises.modify _).bind fun _ => .modify _

theorem completeSession_ne_finished (response : HandshakeResponse) :
    completeSession ext setup inputs response program ≠ (.error .finished, final) := by
  intro hrun
  unfold completeSession at hrun
  split at hrun
  · rw [Fallible.get_bind_run] at hrun
    cases hpending : program.pendingSession with
    | none =>
        rw [hpending] at hrun
        cases hrun
    | some initiator =>
        simp only [hpending, Fallible.modify_bind_run] at hrun
        cases hcomplete : initiator.complete ext response with
        | error reason =>
            rw [hcomplete] at hrun
            cases hrun
        | ok session =>
            rw [hcomplete] at hrun
            exact (openSession_raises session).of_run hrun rfl
  · cases hrun

/-- The program finishes exactly on a response that concludes its session. -/
theorem handle_finished {event : NetworkEvent ResponseChannel RequestId} :
    handle ext setup inputs event program = (.error .finished, final) ↔
      ∃ peer requestId payload response opened sent,
        event = .discoveryResponse peer requestId payload ∧
        readResponse ext payload = .ok response ∧
        Concludes ext setup inputs program response opened sent ∧
        program.concluded opened sent = final := by
  constructor
  · intro hrun
    cases event with
    | discoveryResponse peer requestId payload =>
        change handleResponse ext setup inputs payload program = _ at hrun
        unfold handleResponse at hrun
        cases hread : readResponse ext payload with
        | error reason => exact reason.elim
        | panic =>
            rw [hread] at hrun
            cases hrun
        | ok response =>
            rw [hread] at hrun
            cases response with
            | handshake response => exact absurd hrun (completeSession_ne_finished response)
            | forwarding message =>
                obtain ⟨opened, sent, hconcludes, hfinal⟩ := deliver_finished.mp hrun
                exact ⟨peer, requestId, payload, _, opened, sent, rfl, hread, hconcludes, hfinal⟩
            | envelope envelope =>
                obtain ⟨opened, sent, hconcludes, hfinal⟩ :=
                  (acknowledge_finished setup inputs).mp hrun
                exact ⟨peer, requestId, payload, _, opened, sent, rfl, hread, hconcludes, hfinal⟩
            | metadata metadata =>
                obtain ⟨_, hconsidered⟩ : ∃ next, considerRelay ext setup inputs metadata program =
                    (.ok (), next) := (considerRelay_handled peer metadata).imp fun _ => And.left
                cases hconsidered.symm.trans hrun
            | unknown => cases hrun
    | peerConnected | peerDisconnected | peerIdentified | pingResult | discoveryRequest
    | listening | networkError => cases hrun
  · rintro ⟨peer, requestId, payload, response, opened, sent, rfl, hread, hconcludes, rfl⟩
    show handleResponse ext setup inputs payload program = _
    rw [handleResponse, hread]
    cases response with
    | forwarding message => exact deliver_finished.mpr ⟨opened, sent, hconcludes, rfl⟩
    | envelope envelope =>
        exact (acknowledge_finished setup inputs).mpr ⟨opened, sent, hconcludes, rfl⟩
    | handshake | metadata | unknown => cases hconcludes

/-! ## The packet of a session -/

/-- What is sealed first over a channel is the payload that comes with it. -/
theorem firstEnvelope_sends {session : SecureSession} {payload : Bytes}
    (hfirst : firstEnvelope ext setup inputs session channel = (.ok (envelope, payload), opened))
    (hsession : channel.session.sessionId = session.sessionId) :
    ∃ frame, DataPlane.send ext defaultMaximumPayloadSize payload channel = (.ok frame, opened) ∧
      envelope = ⟨dataPlaneKind, session.sessionId, frame⟩ := by
  unfold firstEnvelope at hfirst
  split at hfirst
  · obtain ⟨_, _, hopen, hfirst⟩ := Fallible.bind_eq_ok.mp hfirst
    obtain ⟨-, rfl⟩ := DataPlane.open_eq_ok.mp (Fallible.mapError_eq_ok.mp hopen)
    obtain ⟨packet, _, hread, hfirst⟩ := Fallible.bind_eq_ok.mp hfirst
    obtain ⟨-, rfl⟩ := orFail_eq_ok.mp hread
    cases packet with
    | none => cases hfirst
    | some packet =>
        obtain ⟨mtu, _, hmtu, hfirst⟩ := Fallible.bind_eq_ok.mp hfirst
        obtain ⟨-, rfl⟩ := orFail_eq_ok.mp hmtu
        obtain ⟨_, _, hsend, hfirst⟩ := Fallible.bind_eq_ok.mp hfirst
        cases hfirst
        obtain ⟨routed, frame, hnew, -, hsends, rfl⟩ :=
          PacketPipeline.send_eq_ok.mp (Fallible.mapError_eq_ok.mp hsend)
        rw [(NetworkPacket.new_eq_ok.mp hnew).2.2.2] at hsends
        refine ⟨frame, hsends, ?_⟩
        have hsent := DataPlane.send_sentOn ext defaultMaximumPayloadSize packet.bytes channel
        rw [hsends] at hsent
        rw [hsent.sessionId, hsession]
  · obtain ⟨_, _, hopen, hfirst⟩ := Fallible.bind_eq_ok.mp hfirst
    obtain ⟨-, rfl⟩ := DataPlane.open_eq_ok.mp (Fallible.mapError_eq_ok.mp hopen)
    obtain ⟨frame, _, hsend, hfirst⟩ := Fallible.bind_eq_ok.mp hfirst
    cases hfirst
    exact ⟨frame, Fallible.mapError_eq_ok.mp hsend, rfl⟩

/-- Without a TUN device a fixed payload is sealed. -/
theorem firstEnvelope_plain {session : SecureSession} {frame : Bytes}
    (hplain : setup.tunWriter = false)
    (hsend : DataPlane.send ext defaultMaximumPayloadSize (firstPayload setup session.route)
      channel = (.ok frame, opened)) :
    firstEnvelope ext setup inputs session channel =
      (.ok (⟨dataPlaneKind, session.sessionId, frame⟩, firstPayload setup session.route),
        opened) := by
  have hstate := (EncryptedChannel.send_eq_ok.mp (DataPlane.send_eq_ok.mp hsend).2).1
  have hopen : DataPlane.open defaultMaximumPayloadSize channel = (.ok (), channel) :=
    DataPlane.open_eq_ok.mpr ⟨⟨hstate, by decide⟩, rfl⟩
  rw [firstEnvelope, if_neg (Bool.eq_false_iff.mp hplain)]
  simp only [Fallible.bind_run, Fallible.mapError, hopen, hsend]
  rfl

/-- One packet was sent over the channel of a session when its handshake was completed, and since
then the channel was only received on. -/
def AskedOnce (ext : Externals) (setup : Setup) (program : Program) (channel : EncryptedChannel) :
    Prop :=
  ∃ (initiator : SessionInitiator) (response : HandshakeResponse) (session : SecureSession)
    (frame payload request : Bytes) (sent : EncryptedChannel),
    initiator.complete ext response = .ok session ∧
    DataPlane.send ext defaultMaximumPayloadSize payload (Node.freshChannel session) =
      (.ok frame, sent) ∧
    requestPayload ext setup session ⟨dataPlaneKind, session.sessionId, frame⟩ payload =
      .ok request ∧
    .request session.peerId request ∈ program.effects ∧
    program.activeRoute = some session.route ∧ sent.ReceivedOn channel

theorem AskedOnce.used {next : EncryptedChannel} (hasked : AskedOnce ext setup program channel)
    (heffects : program.effects ⊆ final.effects) (hroute : final.activeRoute = program.activeRoute)
    (hreceived : channel.ReceivedOn next) : AskedOnce ext setup final next := by
  obtain ⟨initiator, response, session, frame, payload, request, sent, hcomplete, hsend, hrequest,
    heffect, hover, hused⟩ := hasked
  exact ⟨initiator, response, session, frame, payload, request, sent, hcomplete, hsend, hrequest,
    heffects heffect, hroute.trans hover, hused.trans hreceived⟩

/-- Just one frame was sent. -/
theorem AskedOnce.sequence (hasked : AskedOnce ext setup program channel) :
    channel.sendSequence = 1 ∧ channel.session.sendNonce = 1 ∧
      channel.pendingOutbound.length = 1 := by
  obtain ⟨_, _, session, frame, payload, request, sent, hcomplete, hsend, -, -, -, hreceived⟩ :=
    hasked
  obtain ⟨_, _, _, rfl⟩ := SessionInitiator.complete_eq_ok.mp hcomplete
  obtain ⟨_, next, _, _, hnext, hencrypt, _, _, _, rfl⟩ :=
    EncryptedChannel.send_eq_ok.mp (DataPlane.send_eq_ok.mp hsend).2
  obtain ⟨_, nonce, _, hnonce, _, rfl, rfl⟩ := SecureSession.encrypt_eq_ok.mp hencrypt
  rw [hreceived.sendSequence, hreceived.sendNonce, hreceived.pendingOutbound]
  have hone : checkedSucc 0 = some 1 := by decide
  obtain rfl := Option.some.inj (hnext.symm.trans hone)
  obtain rfl := Option.some.inj (hnonce.symm.trans hone)
  exact ⟨rfl, rfl, rfl⟩

theorem freshChannel_open {session : SecureSession} (hstate : session.state = .established) :
    EncryptedChannel.open session channelProtocolVersion 4096 8 = .ok (Node.freshChannel session) :=
  EncryptedChannel.open_eq_ok.mpr ⟨⟨hstate, by decide, by decide⟩, rfl⟩

/-- The program when its packet is on the way. -/
def askedOf (program : Program) (initiator : SessionInitiator) (client : EncryptedChannel)
    (request : Bytes) : Program :=
  { program with
    pendingSession := none
    activeChannel := some client
    activeRoute := some initiator.route
    effects := program.effects ++ [.request initiator.expectedPeer request] }

variable (setup inputs) in
/-- The answer of a relay to the handshake of the program makes it send its packet. -/
theorem handle_opens {initiator : SessionInitiator} {payload request : Bytes}
    {client : EncryptedChannel} (relay : Keypair) (secret : Bytes32) (peer : PeerId)
    (requestId : RequestId)
    (hparse : ext.ParsesJson) (hreads : ext.ReadsIdentities)
    (hsigns : ext.SignaturesVerify) (hpending : program.pendingSession = some initiator)
    (hexpected : initiator.expectedPeer = ext.peerOf relay)
    (hnegotiating : initiator.state = .negotiating)
    (hshared : allZero (ext.diffieHellman initiator.secret (ext.ephemeralPublic secret)) = false)
    (hfirst : firstEnvelope ext setup inputs (Engine.answeredSession ext initiator secret)
      (Node.freshChannel (Engine.answeredSession ext initiator secret)) =
        (.ok (envelope, payload), client))
    (hrequest : requestPayload ext setup (Engine.answeredSession ext initiator secret)
      envelope payload = .ok request) :
    handle ext setup inputs (.discoveryResponse peer requestId
        ((handshakeResponse ext relay (initiator.initOf ext) secret
          initiator.protocolVersion).toJson ext).render) program =
      (.ok (), askedOf program initiator client request) := by
  have hcompletes : initiator.complete ext (handshakeResponse ext relay (initiator.initOf ext)
      secret initiator.protocolVersion) = .ok (Engine.answeredSession ext initiator secret) := by
    refine SessionInitiator.complete_eq_ok.mpr ⟨hnegotiating, ?_, hshared, rfl⟩
    rw [hexpected]
    exact validateResponse_handshakeResponse initiator.identity _ _ _ hreads hsigns rfl
  show handleResponse ext setup inputs _ program = _
  rw [handleResponse, readResponse_handshake hparse hreads]
  simp only [completeSession]
  rw [if_pos (show (handshakeResponse ext relay (initiator.initOf ext) secret
    initiator.protocolVersion).kind = "secure_session_response" from rfl)]
  simp only [Fallible.get_bind_run, hpending, Fallible.modify_bind_run, hcompletes]
  have hopen : EncryptedChannel.open (Engine.answeredSession ext initiator secret)
      channelProtocolVersion 4096 8 =
        .ok (Node.freshChannel (Engine.answeredSession ext initiator secret)) :=
    freshChannel_open rfl
  simp only [openSession, Fallible.bind_run, orFail, hopen, Except.mapError,
    Fallible.ofExcept_ok, Fallible.pure_run, Fallible.locally, hfirst, hrequest]
  rfl

/-- What the loop goes on with after it received is the same program over a channel that was used.
-/
theorem receiveOn_used {result : Except DataPlaneError DataPlaneMessage}
    (hrun : receiveOn ext channel envelope program = (.ok result, final)) :
    ∃ next, channel.ReceivedOn next ∧ { program with activeChannel := some next } = final := by
  obtain ⟨next, hroutine, rfl⟩ := onChannel_eq_ok hrun
  refine ⟨next, ?_, rfl⟩
  have hkeeps := DataPlane.receive_receivedOn ext defaultMaximumPayloadSize envelope channel
  rw [Fallible.bind_run] at hroutine
  have hstate := DataPlane.open_state defaultMaximumPayloadSize channel
  rcases hopen : DataPlane.open defaultMaximumPayloadSize channel with ⟨_ | _ | _, opened⟩ <;>
    rw [hopen] at hroutine hstate
  · dsimp only at hstate hroutine
    rw [hstate] at hroutine
    rwa [hroutine] at hkeeps
  · obtain rfl := (Prod.mk.inj hroutine).2
    rw [show opened = channel from hstate]
    exact .refl channel
  · cases result <;> cases hroutine

/-- Either nothing that has to do with the session changed, or its channel was received on. -/
inductive Continues (program : Program) : Program → Prop
  | kept (final : Program) (channel : final.activeChannel = program.activeChannel)
      (route : final.activeRoute = program.activeRoute)
      (effects : program.effects ⊆ final.effects) : Continues program final
  | used (channel next : EncryptedChannel) (active : program.activeChannel = some channel)
      (used : channel.ReceivedOn next) :
      Continues program { program with activeChannel := some next }

theorem Continues.same (program : Program) : Continues program program :=
  .kept program rfl rfl (List.Subset.refl _)

theorem deliver_continues (hrun : deliver ext setup inputs message program = (.ok (), final)) :
    Continues program final := by
  unfold deliver at hrun
  by_cases hkind : message.kind = forwardingKind
  · simp only [if_pos hkind, Fallible.get_bind_run] at hrun
    cases hactive : program.activeChannel with
    | none =>
        rw [hactive] at hrun
        cases hrun
        exact .same program
    | some channel =>
        cases hover : program.activeRoute with
        | none =>
            simp only [hactive, hover] at hrun
            cases hrun
            exact .same program
        | some route =>
            simp only [hactive, hover] at hrun
            split_ifs at hrun with hbelongs hdevice
            · exact absurd hrun writeToTun_ne_ok
            · obtain ⟨result, middle, hreceive, hrest⟩ := Fallible.bind_eq_ok.mp hrun
              obtain ⟨next, hused, rfl⟩ := receiveOn_used hreceive
              cases result with
              | error reason =>
                  cases hrest
                  exact .used channel next hactive hused
              | ok received =>
                  obtain rfl := conclude_eq_ok hrest
                  exact .used channel next hactive hused
            · cases hrun
              exact .same program
  · simp only [if_neg hkind] at hrun
    cases hrun
    exact .same program

theorem acknowledge_continues (hrun : acknowledge ext envelope program = (.ok (), final)) :
    Continues program final := by
  unfold acknowledge at hrun
  by_cases hkind : envelope.kind = dataPlaneKind
  · simp only [if_pos hkind, Fallible.get_bind_run] at hrun
    cases hactive : program.activeChannel with
    | none =>
        rw [hactive] at hrun
        cases hrun
        exact .same program
    | some channel =>
        simp only [hactive] at hrun
        obtain ⟨result, middle, hreceive, hrest⟩ := Fallible.bind_eq_ok.mp hrun
        obtain ⟨next, hused, rfl⟩ := receiveOn_used hreceive
        cases result with
        | error reason =>
            cases hrest
            exact .used channel next hactive hused
        | ok received =>
            dsimp only at hrest
            split_ifs at hrest with hawaited
            · exact absurd hrest finish_ne_ok
            · cases hrest
              exact .used channel next hactive hused
  · simp only [if_neg hkind] at hrun
    cases hrun
    exact .same program

/-- A session that was opened is one over which one packet was sent. -/
theorem openSession_asked {initiator : SessionInitiator} {response : HandshakeResponse}
    {session : SecureSession} (hcomplete : initiator.complete ext response = .ok session)
    (hrun : openSession ext setup inputs session program = (.ok (), final)) :
    ∃ channel, final.activeChannel = some channel ∧ AskedOnce ext setup final channel := by
  obtain ⟨channel, _, hopens, hrest⟩ := Fallible.bind_eq_ok.mp hrun
  obtain ⟨hopen, rfl⟩ := orFail_eq_ok.mp hopens
  obtain ⟨⟨⟨envelope, payload⟩, sent⟩, _, hlocally, hrest⟩ := Fallible.bind_eq_ok.mp hrest
  obtain ⟨hfirst, rfl⟩ := Fallible.locally_eq_ok.mp hlocally
  obtain ⟨request, _, hbuilds, hrest⟩ := Fallible.bind_eq_ok.mp hrest
  obtain ⟨hrequest, rfl⟩ := orFail_eq_ok.mp hbuilds
  obtain rfl := (Prod.mk.inj hrest).2
  obtain ⟨-, rfl⟩ := EncryptedChannel.open_eq_ok.mp hopen
  obtain ⟨frame, hsend, rfl⟩ := firstEnvelope_sends hfirst rfl
  exact ⟨sent, rfl, initiator, response, session, frame, payload, request, sent, hcomplete, hsend,
    hrequest, List.mem_append_right _ (List.mem_singleton_self _), rfl, .refl sent⟩

/-- The channel of a program that goes on is one over which one packet was sent. -/
def AsksOnce (ext : Externals) (setup : Setup) (program : Program) : Prop :=
  ∀ channel, program.activeChannel = some channel → AskedOnce ext setup program channel

theorem Continues.asks (hcontinues : Continues program final) (hasks : AsksOnce ext setup program) :
    AsksOnce ext setup final := by
  intro channel hactive
  cases hcontinues with
  | kept _ same route effects =>
      exact (hasks channel (same.symm.trans hactive)).used effects route (.refl channel)
  | used before _ active used =>
      obtain rfl := Option.some.inj hactive
      exact (hasks before active).used (List.Subset.refl _) rfl used

theorem completeSession_asks {response : HandshakeResponse} (hasks : AsksOnce ext setup program)
    (hrun : completeSession ext setup inputs response program = (.ok (), final)) :
    AsksOnce ext setup final := by
  unfold completeSession at hrun
  by_cases hkind : response.kind = "secure_session_response"
  · simp only [if_pos hkind, Fallible.get_bind_run] at hrun
    cases hpending : program.pendingSession with
    | none =>
        rw [hpending] at hrun
        cases hrun
        exact hasks
    | some initiator =>
        simp only [hpending, Fallible.modify_bind_run] at hrun
        cases hcomplete : initiator.complete ext response with
        | error reason =>
            rw [hcomplete] at hrun
            cases hrun
            exact hasks
        | ok session =>
            rw [hcomplete] at hrun
            obtain ⟨channel, hactive, hasked⟩ := openSession_asked hcomplete hrun
            intro other hother
            obtain rfl := Option.some.inj (hactive.symm.trans hother)
            exact hasked
  · simp only [if_neg hkind] at hrun
    cases hrun
    exact hasks

theorem considerRelay_continues {metadata : RelayMetadata}
    (hrun : considerRelay ext setup inputs metadata program = (.ok (), final)) :
    Continues program final := by
  unfold considerRelay at hrun
  cases haccepted : RelayCandidate.fromMetadata setup.parseMultiaddr metadata setup.requirements
      inputs.checkedAt with
  | error reason =>
      rw [haccepted] at hrun
      cases hrun
      exact .same program
  | ok candidate =>
      simp only [haccepted, Fallible.modify_bind_run, Fallible.get_bind_run] at hrun
      cases hselected : RouteSelector.select ext (ext.peerOf setup.identity)
          (RelayRanking.rank ext (program.candidates ++ [candidate]) inputs.rankedAt)
          setup.routePolicy inputs.selectedAt with
      | error reason =>
          rw [hselected] at hrun
          cases hrun
          exact .kept _ rfl rfl (List.Subset.refl _)
      | ok route =>
          simp only [hselected, startSession, Fallible.get_bind_run] at hrun
          split_ifs at hrun with hfree
          · obtain ⟨initiator, _, hnew, hrest⟩ := Fallible.bind_eq_ok.mp hrun
            obtain ⟨-, rfl⟩ := orFail_eq_ok.mp hnew
            obtain ⟨init, _, hbuild, hrest⟩ := Fallible.bind_eq_ok.mp hrest
            obtain ⟨-, rfl⟩ := orFail_eq_ok.mp hbuild
            cases hrest
            exact .kept _ rfl rfl (List.subset_append_left _ _)
          · cases hrun
            exact .kept _ rfl rfl (List.Subset.refl _)

theorem handle_asksOnce {event : NetworkEvent ResponseChannel RequestId}
    (hasks : AsksOnce ext setup program)
    (hrun : handle ext setup inputs event program = (.ok (), final)) :
    AsksOnce ext setup final := by
  cases event with
  | peerConnected peer =>
      have hkept : Continues program final := by
        cases hrun
        exact .kept _ rfl rfl (List.subset_append_left _ _)
      exact hkept.asks hasks
  | discoveryResponse peer requestId payload =>
      change handleResponse ext setup inputs payload program = _ at hrun
      unfold handleResponse at hrun
      generalize readResponse ext payload = read at hrun
      rcases read with (response | message | envelope | metadata | _) | ⟨⟨⟩⟩ | _
      · exact completeSession_asks hasks hrun
      · exact (deliver_continues hrun).asks hasks
      · exact (acknowledge_continues hrun).asks hasks
      · exact (considerRelay_continues hrun).asks hasks
      · cases hrun
        exact hasks
      · cases hrun
  | peerDisconnected | peerIdentified | pingResult | discoveryRequest | listening
  | networkError =>
      cases hrun
      exact hasks

theorem asksOnce_of_run {past : List Entry} {state : (toLoop ext setup).State}
    (hrun : (toLoop ext setup).Run past state) : AsksOnce ext setup state := by
  induction hrun with
  | start => exact nofun
  | step _ handles _ ih => exact handle_asksOnce ih (Fallible.endsIn_eq_some.mp handles)

/-! ## Whole runs -/

/-- In every run the program has sent one packet over the channel that it has, and it finishes on a
response that concludes the session of this channel, on no other event; the channel is closed then.
-/
theorem finishes_iff {past : List Entry} (hrun : (toLoop ext setup).Run past program)
    (inputs : Inputs) (event : NetworkEvent ResponseChannel RequestId) (final : Program) :
    (∀ channel, program.activeChannel = some channel →
      AskedOnce ext setup program channel ∧ channel.sendSequence = 1 ∧
        channel.session.sendNonce = 1 ∧ channel.pendingOutbound.length = 1) ∧
    (handle ext setup inputs event program = (.error .finished, final) ↔
      ∃ peer requestId payload response opened sent,
        event = .discoveryResponse peer requestId payload ∧
        readResponse ext payload = .ok response ∧
        Concludes ext setup inputs program response opened sent ∧
        program.concluded opened sent = final) :=
  ⟨fun channel hactive =>
    have hasked := asksOnce_of_run hrun channel hactive
    ⟨hasked, hasked.sequence⟩, handle_finished⟩

end Program

/-! ## A program that meets one relay -/

namespace ReferenceClient

/-- The program without a TUN device. -/
def programSetup (mode : RouteMode) : Program.Setup where
  toSetup := { setup mode with tunWriter := false }
  tun := ⟨false, "ghost0", 1500, 1500, 16, 16⟩
  udpEnabled := false
  dnsEnabled := false
  externalTestDestination := some "127.0.0.1:7"
  allowedExitDestinations := []
  dnsServer := none

def programInputs : Program.Inputs := { inputs with device := ⟨.ok none, .ok ()⟩ }

theorem program_met : ∃ past, ∃ program : Program,
    (Program.toLoop reference (programSetup .oneHop)).Run past program ∧
      program.pendingSession = some (initiator .oneHop) := by
  have hstart : (Program.toLoop reference (programSetup .oneHop)).Run [] Program.new := .start
  have hread := readResponse_metadata reference.parsesJson reference.readsIdentities
    (metadata_writable 2) (report_eq 2)
  have hturn : (Program.toLoop reference (programSetup .oneHop)).turn
      (programInputs, .discoveryResponse ⟨[2]⟩ 0 (report 2).render) = _ :=
    Response.turn_eq_reported.mpr ⟨hread, rfl, rfl⟩
  obtain ⟨sent, program, hpass⟩ := hstart.considered hturn
  have hbegins : Standing.new.begins reference (programSetup .oneHop).toSetup
      (.reported ⟨[2]⟩ (metadata 2) inputs) = some (initiator .oneHop) :=
    Loop.begins_eq_some.mpr ⟨_, _, _, _, rfl, rfl, selects_meeting 2, rfl⟩
  have hpending : (Standing.new.after reference (programSetup .oneHop).toSetup false
      (.reported ⟨[2]⟩ (metadata 2) inputs)).pendingSession = some (initiator .oneHop) := by
    simp only [Standing.after, hbegins]
    rfl
  exact ⟨_, program, hpass.after, (congrArg Standing.pendingSession hpass.standing).trans hpending⟩

/-- The channel of the relay that the program has its session with. -/
noncomputable def relayChannel : EncryptedChannel :=
  Node.freshChannel (deriveSession reference inputs.sessionId ⟨[1]⟩ (route .oneHop) .responder
    (reference.diffieHellman (Vector.replicate 32 2) (Vector.replicate 32 1)) "1.0")

theorem relayChannel_paired :
    DataPlane.Paired (Node.freshChannel (session .oneHop)) relayChannel := by
  have hopen : EncryptedChannel.open (deriveSession reference inputs.sessionId ⟨[2]⟩ (route .oneHop)
      .initiator (reference.diffieHellman (Vector.replicate 32 1) (Vector.replicate 32 2)) "1.0")
      channelProtocolVersion 4096 8 = .ok (Node.freshChannel (session .oneHop)) :=
    Program.freshChannel_open rfl
  have hcommutes : reference.diffieHellman (Vector.replicate 32 1) (Vector.replicate 32 2) =
      reference.diffieHellman (Vector.replicate 32 2) (Vector.replicate 32 1) :=
    reference.diffieHellmanCommutes _ _
  refine DataPlane.paired_of_open inputs.sessionId ⟨[1]⟩ ⟨[2]⟩ (route .oneHop) _ "1.0" hopen ?_
  rw [hcommutes]
  exact Program.freshChannel_open rfl

/-- The program has sent its packet. -/
theorem program_asked : ∃ past, ∃ program : Program, ∃ frame client,
    (Program.toLoop reference (programSetup .oneHop)).Run past program ∧
      program.activeChannel = some client ∧
      DataPlane.send reference defaultMaximumPayloadSize (Bytes.ofText "hello ghost layer")
        (Node.freshChannel (session .oneHop)) = (.ok frame, client) := by
  obtain ⟨past, program, hrun, hpending⟩ := program_met
  have hshared : allZero (reference.diffieHellman (Vector.replicate 32 1)
      (Vector.replicate 32 2)) = false := by decide +kernel
  have hsends : (DataPlane.send reference defaultMaximumPayloadSize
      (Bytes.ofText "hello ghost layer") (Node.freshChannel (session .oneHop))).1.IsOk := by
    decide +kernel
  obtain ⟨frame, client, hsend⟩ := Fallible.isOk_iff.mp hsends
  have hfirst : Program.firstEnvelope reference (programSetup .oneHop) programInputs
      (session .oneHop) (Node.freshChannel (session .oneHop)) =
        (.ok (⟨dataPlaneKind, inputs.sessionId, frame⟩, Bytes.ofText "hello ghost layer"),
          client) :=
    Program.firstEnvelope_plain rfl hsend
  have hopens := Program.handle_opens (programSetup .oneHop) programInputs ⟨[2]⟩
    (Vector.replicate 32 2) ⟨[2]⟩ 1 reference.parsesJson reference.readsIdentities
    reference.signaturesVerify hpending rfl rfl hshared hfirst rfl
  have hhandles : (Program.toLoop reference (programSetup .oneHop)).handle
      (programInputs, .discoveryResponse ⟨[2]⟩ 1 _) program = some _ :=
    Fallible.endsIn_eq_some.mpr hopens
  obtain ⟨sent, hpass⟩ := hrun.handled hhandles
  exact ⟨_, _, frame, client, hpass.after, rfl, hsend⟩

end ReferenceClient

/-- The program finishes on the acknowledgement of its relay. -/
theorem finishes_iff_acknowledged : ∃ past, ∃ program final : Program, ∃ event client,
    (Program.toLoop reference (ReferenceClient.programSetup .oneHop)).Run past program ∧
      program.activeChannel = some client ∧ client.sendSequence = 1 ∧
      Program.handle reference (ReferenceClient.programSetup .oneHop)
        ReferenceClient.programInputs event program = (.error .finished, final) := by
  obtain ⟨past, program, frame, client, hrun, hactive, hsend⟩ := ReferenceClient.program_asked
  have hanswers : (DataPlane.send reference defaultMaximumPayloadSize
      (Bytes.ofText "ack: hello ghost layer") ReferenceClient.relayChannel).1.IsOk := by
    decide +kernel
  obtain ⟨answer, relay, hanswer⟩ := Fallible.isOk_iff.mp hanswers
  have hlinked : DataPlane.Linked ReferenceClient.relayChannel client :=
    ReferenceClient.relayChannel_paired.back.sentOn (DataPlane.sentOn_of_send hsend)
      (DataPlane.established_after_send hsend)
  obtain ⟨message, opened, hpayload, hreceive, -⟩ :=
    hlinked.advances reference.parsesJson reference.cipherOpens hanswer
  let envelope : DataPlaneEnvelope := ⟨dataPlaneKind, client.session.sessionId, answer⟩
  have hconcludes : Program.Concludes reference (ReferenceClient.programSetup .oneHop)
      ReferenceClient.programInputs program (.envelope envelope) opened [] :=
    .acknowledgement envelope client opened message rfl hactive hreceive
      (hpayload ▸ by decide +kernel)
  have hwhole := Program.finishes_iff hrun ReferenceClient.programInputs
    (.discoveryResponse ⟨[2]⟩ 2 envelope.toJson.render) (program.concluded opened [])
  exact ⟨past, program, _, _, client, hrun, hactive, (hwhole.1 client hactive).2.1,
    hwhole.2.mpr ⟨_, _, _, _, opened, [], rfl, readResponse_envelope reference.parsesJson envelope,
      hconcludes, rfl⟩⟩

end Client
