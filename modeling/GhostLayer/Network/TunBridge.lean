import GhostLayer.Network.ChannelIntegrity
import GhostLayer.Network.Config
import GhostLayer.Network.PipelineLaws

/-! # The bridge between a device and the data plane

The bridge calls a device and a channel one after the other. What the first call
took is not given back when the second one fails: a packet that was read is gone,
and an envelope that was opened is refused when it comes again.
-/

namespace Network

open Foundation

/-! ## Devices -/

/-- The calls of a TUN device on a state of its own. -/
structure TunDevice.Calls (δ : Type) where
  readPacket : Fallible δ TunError (Option NetworkPacket)
  writePacket : NetworkPacket → Fallible δ TunError Unit

/-- A device whose calls always return the same. -/
def TunDevice.calls (device : TunDevice) : TunDevice.Calls Unit where
  readPacket := .ofExcept device.readPacket
  writePacket _ := .ofExcept device.writePacket

structure MockTunDevice where
  config : TunConfig
  inbound : List NetworkPacket
  outbound : List NetworkPacket
  closed : Bool

namespace MockTunDevice

def «open» (config : TunConfig) : MockTunDevice := ⟨config, [], [], false⟩

def injectPacket (bytes : Bytes) : Fallible MockTunDevice TunError Unit := do
  let device ← Fallible.get
  Fallible.failWhen (device.closed = true) .closed
  Fallible.failWhen (device.inbound.length ≥ device.config.readBufferLimit) .queueFull
  let packet ← Fallible.ofExcept ((NetworkPacket.new bytes device.config.maximumPacketSize
    device.config.mtu).mapError .invalidPacket)
  Fallible.modify fun device => { device with inbound := device.inbound ++ [packet] }

def takeWritten : Fallible MockTunDevice TunError (Option NetworkPacket) := do
  let device ← Fallible.get
  Fallible.failWhen (device.closed = true) .closed
  Fallible.modify fun device => { device with outbound := device.outbound.tail }
  return device.outbound.head?

def readPacket : Fallible MockTunDevice TunError (Option NetworkPacket) := do
  let device ← Fallible.get
  Fallible.failWhen (device.closed = true) .closed
  Fallible.modify fun device => { device with inbound := device.inbound.tail }
  return device.inbound.head?

def writePacket (packet : NetworkPacket) : Fallible MockTunDevice TunError Unit := do
  let device ← Fallible.get
  Fallible.failWhen (device.closed = true) .closed
  Fallible.failWhen (packet.bytes.length > device.config.mtu ∨
      packet.bytes.length > device.config.maximumPacketSize)
    (.invalidPacket (.oversized packet.bytes.length device.config.maximumPacketSize))
  Fallible.failWhen (device.outbound.length ≥ device.config.writeBufferLimit) .queueFull
  Fallible.modify fun device => { device with outbound := device.outbound ++ [packet] }

def calls : TunDevice.Calls MockTunDevice where
  readPacket := readPacket
  writePacket := writePacket

theorem readPacket_eq_ok {device final : MockTunDevice} {result : Option NetworkPacket} :
    readPacket device = (.ok result, final) ↔ device.closed = false ∧
      device.inbound.head? = result ∧ { device with inbound := device.inbound.tail } = final := by
  obtain ⟨config, inbound, outbound, closed⟩ := device
  simp only [readPacket, Fallible.get_bind_run, Fallible.failWhen_bind_run]
  cases closed <;> simp

theorem readPacket_some {device final : MockTunDevice} {packet : NetworkPacket}
    (hread : readPacket device = (.ok (some packet), final)) :
    device.inbound = packet :: final.inbound := by
  obtain ⟨-, hhead, rfl⟩ := readPacket_eq_ok.mp hread
  exact (List.cons_head?_tail hhead).symm

end MockTunDevice

/-! ## The bridge -/

namespace TunBridge

variable (ext : Externals) (bridge : TunDataPlane) {δ α : Type} (device : TunDevice.Calls δ)
  (maximumPayloadSize : Nat)

def onDevice (routine : Fallible δ TunError α) :
    Fallible (EncryptedChannel × δ) TunPipelineError α :=
  Fallible.zoom Prod.snd (fun device state => (state.1, device)) (Fallible.mapError .tun routine)

def onChannel (routine : Fallible EncryptedChannel DataPlaneError α) :
    Fallible (EncryptedChannel × δ) TunPipelineError α :=
  Fallible.zoom Prod.fst (fun channel state => (channel, state.2))
    (Fallible.mapError .dataPlane routine)

def readFrame : Fallible (EncryptedChannel × δ) TunPipelineError (Option DataPlaneEnvelope) := do
  match ← onDevice device.readPacket with
  | none => return none
  | some packet =>
      let frame ← onChannel (DataPlane.send ext maximumPayloadSize packet.bytes)
      let (channel, _) ← Fallible.get
      return some ⟨dataPlaneKind, channel.session.sessionId, frame⟩

def writeFrame (envelope : DataPlaneEnvelope) :
    Fallible (EncryptedChannel × δ) TunPipelineError NetworkPacket := do
  let message ← onChannel (DataPlane.receive ext maximumPayloadSize envelope)
  let packet ← Fallible.ofExcept ((NetworkPacket.new message.payload bridge.maximumPacketSize
    bridge.mtu).mapError .invalidPacket)
  onDevice (device.writePacket packet)
  return packet

variable {ext bridge device maximumPayloadSize} {channel next : EncryptedChannel} {state after : δ}

theorem readFrame_run : readFrame ext device maximumPayloadSize (channel, state) =
    match device.readPacket state with
    | (.error reason, after) => (.error (.tun reason), (channel, after))
    | (.panic, after) => (.panic, (channel, after))
    | (.ok none, after) => (.ok none, (channel, after))
    | (.ok (some packet), after) =>
        match DataPlane.send ext maximumPayloadSize packet.bytes channel with
        | (.ok frame, next) =>
            (.ok (some ⟨dataPlaneKind, next.session.sessionId, frame⟩), (next, after))
        | (.error reason, next) => (.error (.dataPlane reason), (next, after))
        | (.panic, next) => (.panic, (next, after)) := by
  simp only [readFrame, Fallible.bind_run, onDevice, onChannel, Fallible.zoom, Fallible.mapError]
  rcases device.readPacket state with ⟨(_ | packet) | reason | _, after⟩
  · rfl
  · simp only [Fallible.bind_run, Fallible.zoom, Fallible.mapError]
    rcases DataPlane.send ext maximumPayloadSize packet.bytes channel with ⟨_ | _ | _, next⟩ <;> rfl
  · rfl
  · rfl

theorem writeFrame_run (envelope : DataPlaneEnvelope) :
    writeFrame ext bridge device maximumPayloadSize envelope (channel, state) =
      match DataPlane.receive ext maximumPayloadSize envelope channel with
      | (.error reason, next) => (.error (.dataPlane reason), (next, state))
      | (.panic, next) => (.panic, (next, state))
      | (.ok message, next) =>
          match NetworkPacket.new message.payload bridge.maximumPacketSize bridge.mtu with
          | .error reason => (.error (.invalidPacket reason), (next, state))
          | .ok packet =>
              match device.writePacket packet state with
              | (.ok (), after) => (.ok packet, (next, after))
              | (.error reason, after) => (.error (.tun reason), (next, after))
              | (.panic, after) => (.panic, (next, after)) := by
  simp only [writeFrame, Fallible.bind_run, onDevice, onChannel, Fallible.zoom, Fallible.mapError]
  rcases DataPlane.receive ext maximumPayloadSize envelope channel with ⟨message | _ | _, next⟩
  · simp only
    rcases NetworkPacket.new message.payload bridge.maximumPacketSize bridge.mtu with _ | packet
    · rfl
    · simp only [Except.mapError, Fallible.ofExcept_ok, Fallible.pure_run]
      rcases device.writePacket packet state with ⟨_ | _ | _, after⟩ <;> rfl
  · rfl
  · rfl

/-- Where the calls of the device return what is given, the bridge is the one over these calls. -/
theorem writeFrame_calls (outcomes : TunDevice) (envelope : DataPlaneEnvelope) :
    TunDataPlane.writeFrame ext bridge outcomes maximumPayloadSize envelope channel =
      ((writeFrame ext bridge outcomes.calls maximumPayloadSize envelope (channel, ())).1,
        (writeFrame ext bridge outcomes.calls maximumPayloadSize envelope (channel, ())).2.1) := by
  rw [writeFrame_run]
  simp only [TunDataPlane.writeFrame, Fallible.bind_run, Fallible.mapError]
  rcases DataPlane.receive ext maximumPayloadSize envelope channel with ⟨message | _ | _, next⟩
  · cases hnew : NetworkPacket.new message.payload bridge.maximumPacketSize bridge.mtu with
    | error reason =>
        simp only [hnew]
        rfl
    | ok packet =>
        simp only [hnew, TunDevice.calls]
        rcases outcomes.writePacket with reason | _ <;> rfl
  · rfl
  · rfl

/-! ## Failures -/

/-- Where the device fails, nothing was sent; where the data plane does, a packet was read. -/
theorem readFrame_error {reason : TunPipelineError}
    (hread : readFrame ext device maximumPayloadSize (channel, state) =
      (.error reason, (next, after))) :
    (∃ failure, reason = .tun failure ∧ device.readPacket state = (.error failure, after) ∧
      next = channel) ∨
    ∃ failure packet, reason = .dataPlane failure ∧
      device.readPacket state = (.ok (some packet), after) ∧
      DataPlane.send ext maximumPayloadSize packet.bytes channel = (.error failure, next) := by
  rw [readFrame_run] at hread
  rcases hdevice : device.readPacket state with ⟨(_ | packet) | failure | _, rest⟩
  · rw [hdevice] at hread
    cases hread
  · rcases hsend : DataPlane.send ext maximumPayloadSize packet.bytes channel with
      ⟨_ | failure | _, sent⟩ <;> simp only [hdevice, hsend] at hread <;> cases hread
    exact .inr ⟨failure, packet, rfl, rfl, hsend⟩
  · rw [hdevice] at hread
    cases hread
    exact .inl ⟨failure, rfl, rfl, rfl⟩
  · rw [hdevice] at hread
    cases hread

/-- A device is called only with a packet of an envelope that was opened. -/
theorem writeFrame_error {envelope : DataPlaneEnvelope} {reason : TunPipelineError}
    (hwrite : writeFrame ext bridge device maximumPayloadSize envelope (channel, state) =
      (.error reason, (next, after))) :
    (∃ failure message, reason = .tun failure ∧
      DataPlane.receive ext maximumPayloadSize envelope channel = (.ok message, next)) ∨
    (∀ failure, reason ≠ .tun failure) ∧ after = state := by
  rw [writeFrame_run] at hwrite
  rcases hreceive : DataPlane.receive ext maximumPayloadSize envelope channel with
    ⟨message | failure | _, opened⟩
  · cases hnew : NetworkPacket.new message.payload bridge.maximumPacketSize bridge.mtu with
    | error failure =>
        simp only [hreceive, hnew] at hwrite
        cases hwrite
        exact .inr ⟨nofun, rfl⟩
    | ok packet =>
        rcases hdevice : device.writePacket packet state with ⟨_ | failure | _, rest⟩ <;>
          simp only [hreceive, hnew, hdevice] at hwrite <;> cases hwrite
        exact .inl ⟨failure, message, rfl, rfl⟩
  · rw [hreceive] at hwrite
    cases hwrite
    exact .inr ⟨nofun, rfl⟩
  · rw [hreceive] at hwrite
    cases hwrite

/-- Nothing is undone when the bridge fails. A packet that was read and not sent is gone, from the
queue of the mock device too; what the device refused is refused as a duplicate when it comes
again. -/
theorem failures (ext : Externals) (bridge : TunDataPlane) (device : TunDevice.Calls δ)
    (maximumPayloadSize : Nat) (channel : EncryptedChannel) (state : δ) :
    (∀ reason next after, readFrame ext device maximumPayloadSize (channel, state) =
        (.error reason, (next, after)) →
      (∃ failure, reason = .tun failure ∧ device.readPacket state = (.error failure, after) ∧
        next = channel) ∨
      ∃ failure packet, reason = .dataPlane failure ∧
        device.readPacket state = (.ok (some packet), after)) ∧
    (∀ mock next after failure, readFrame ext MockTunDevice.calls maximumPayloadSize
        (channel, mock) = (.error (.dataPlane failure), (next, after)) →
      ∃ packet, mock.inbound = packet :: after.inbound) ∧
    ∀ envelope reason next after,
      writeFrame ext bridge device maximumPayloadSize envelope (channel, state) =
        (.error reason, (next, after)) →
      (∃ failure, reason = .tun failure ∧
        ∀ later, writeFrame ext bridge device maximumPayloadSize envelope (next, later) =
          (.error (.dataPlane .duplicateMessage), (next, later))) ∨
      (∀ failure, reason ≠ .tun failure) ∧ after = state := by
  refine ⟨?_, ?_, ?_⟩
  · intro reason next after hread
    rcases readFrame_error hread with ⟨failure, rfl, hdevice, hsame⟩ |
      ⟨failure, packet, rfl, hdevice, -⟩
    · exact .inl ⟨failure, rfl, hdevice, hsame⟩
    · exact .inr ⟨failure, packet, rfl, hdevice⟩
  · intro mock next after failure hread
    rcases readFrame_error hread with ⟨_, hreason, -, -⟩ | ⟨_, packet, -, hdevice, -⟩
    · cases hreason
    · exact ⟨packet, MockTunDevice.readPacket_some hdevice⟩
  · intro envelope reason next after hwrite
    rcases writeFrame_error hwrite with ⟨failure, message, rfl, hreceive⟩ | huntouched
    · refine .inl ⟨failure, rfl, fun later => ?_⟩
      rw [writeFrame_run, DataPlane.receive_again hreceive]
    · exact .inr huntouched

/-! ### A packet and an envelope that are lost -/

theorem reference_linked : DataPlane.Linked (ChannelPair.reference.channel .initiator)
    (ChannelPair.reference.channel .responder) where
  established := rfl
  session := rfl
  sessionId := rfl
  key := rfl
  version := rfl
  limit := le_rfl
  bounded := by
    change 65536 < 2 ^ 32
    norm_num
  sequence := rfl
  nonce := nofun

/-- An IPv4 header with a public destination. -/
def examplePacket : NetworkPacket where
  bytes := [0x45, 0, 0, 20, 0, 0, 0, 0, 64, 17, 0, 0, 10, 8, 0, 1, 198, 51, 100, 1]
  packetType := .ipv4

/-- A device with room for one packet in each direction. -/
def exampleDevice (inbound outbound : List NetworkPacket) : MockTunDevice where
  config := ⟨true, "mock0", 1500, 1500, 1, 1⟩
  inbound
  outbound
  closed := false

theorem examplePacket_sent : ∃ frame sent,
    DataPlane.send reference 1500 examplePacket.bytes
      (ChannelPair.reference.channel .initiator) = (.ok frame, sent) := by
  have hsent : (DataPlane.send reference 1500 examplePacket.bytes
      (ChannelPair.reference.channel .initiator)).1.IsOk := by decide +kernel
  exact Fallible.isOk_iff.mp hsent

theorem failures_lose :
    (∃ next after, readFrame reference MockTunDevice.calls 16
        (ChannelPair.reference.channel .initiator, exampleDevice [examplePacket] []) =
          (.error (.dataPlane .oversizedPayload), (next, after)) ∧
      (MockTunDevice.readPacket after).1 = .ok none) ∧
    ∃ envelope next after, writeFrame reference ⟨1500, 1500⟩ MockTunDevice.calls 1500 envelope
        (ChannelPair.reference.channel .responder, exampleDevice [] [examplePacket]) =
          (.error (.tun .queueFull), (next, after)) ∧
      writeFrame reference ⟨1500, 1500⟩ MockTunDevice.calls 1500 envelope
        (next, exampleDevice [] []) =
          (.error (.dataPlane .duplicateMessage), (next, exampleDevice [] [])) := by
  constructor
  · have hsend : DataPlane.send reference 16 examplePacket.bytes
        (ChannelPair.reference.channel .initiator) = (.error .oversizedPayload, _) :=
      Fallible.bind_error (by rw [Fallible.failWhen_pos _ (by decide)]; rfl)
    refine ⟨ChannelPair.reference.channel .initiator, exampleDevice [] [], ?_, rfl⟩
    have hread : MockTunDevice.calls.readPacket (exampleDevice [examplePacket] []) =
        (.ok (some examplePacket), exampleDevice [] []) := rfl
    rw [readFrame_run, hread]
    simp only [hsend]
  · obtain ⟨frame, sent, hsend⟩ := examplePacket_sent
    obtain ⟨message, opened, hpayload, -, hreceive⟩ := reference_linked.receives_within
      reference.parsesJson reference.cipherOpens le_rfl hsend
    refine ⟨⟨dataPlaneKind, (ChannelPair.reference.channel .responder).session.sessionId, frame⟩,
      opened, exampleDevice [] [examplePacket], ?_, ?_⟩
    · rw [writeFrame_run, hreceive]
      simp only [hpayload]
      rfl
    · rw [writeFrame_run, DataPlane.receive_again hreceive]

end TunBridge

end Network
