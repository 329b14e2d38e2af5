import GhostLayer.Network.TunBridge

/-! # From one TUN device to another

A packet that the pipeline sends is one that the bridge at the other end writes to
its device, byte for byte. One that it refuses by itself has not touched the
channel.
-/

namespace Network

open Foundation

namespace PacketPipeline

variable {ext : Externals} {mtu : MtuPolicy} {maximumPayloadSize : Nat} {bytes : Bytes}
  {channel final : EncryptedChannel} {envelope : DataPlaneEnvelope}

theorem route_eq_ok {packet : NetworkPacket} {decision : RoutingDecision} :
    route mtu bytes = .ok (packet, decision) ↔
      NetworkPacket.new bytes mtu.maximumPacketSize mtu.tunnelMtu = .ok packet ∧
        ∃ destination, classifyDestination packet = .ok destination ∧
          (decision ≠ .unsupported ∧ decision ≠ .drop) ∧
          RoutingDecision.decide destination = decision := by
  simp only [route, MtuPolicy.validate, Check.bind_eq_ok, Check.mapError_eq_ok]
  constructor
  · rintro ⟨found, hnew, destination, hclass, hdecision⟩
    cases destination <;> cases hdecision <;> exact ⟨hnew, _, hclass, ⟨nofun, nofun⟩, rfl⟩
  · rintro ⟨hnew, destination, hclass, ⟨hsupported, hkept⟩, rfl⟩
    refine ⟨packet, hnew, destination, hclass, ?_⟩
    cases destination <;> first | rfl | exact absurd rfl hsupported | exact absurd rfl hkept

theorem decide_eq_through {destination : DestinationClass} :
    RoutingDecision.decide destination = .throughGhostLayer ↔ destination = .public' := by
  cases destination <;> simp [RoutingDecision.decide]

/-- Only packets with a destination that is not reserved are handed to the data plane. -/
theorem send_eq_ok :
    send ext mtu maximumPayloadSize bytes channel = (.ok envelope, final) ↔
      ∃ packet frame, NetworkPacket.new bytes mtu.maximumPacketSize mtu.tunnelMtu = .ok packet ∧
        ¬ IsReserved packet.destination ∧
        DataPlane.send ext maximumPayloadSize packet.bytes channel = (.ok frame, final) ∧
        envelope = ⟨dataPlaneKind, final.session.sessionId, frame⟩ := by
  rw [send, Fallible.bind_eq_ok]
  constructor
  · rintro ⟨⟨packet, decision⟩, _, hroute, hrest⟩
    obtain ⟨hfound, rfl⟩ := Fallible.ofExcept_eq_ok.mp hroute
    obtain ⟨hnew, destination, hclass, -, hdecision⟩ := route_eq_ok.mp hfound
    by_cases hthrough : decision = .throughGhostLayer
    · subst hthrough
      rw [decide_eq_through.mp hdecision] at hclass
      simp only [ne_eq, not_true_eq_false, if_false, Fallible.bind_eq_ok, Fallible.mapError_eq_ok,
        Fallible.get_eq_ok, Fallible.pure_eq_ok] at hrest
      obtain ⟨frame, _, hsend, _, _, ⟨rfl, rfl⟩, rfl, rfl⟩ := hrest
      exact ⟨packet, frame, hnew,
        (NetworkPacket.classifyDestination_eq_public hnew).mp hclass, hsend, rfl⟩
    · simp only [ne_eq, hthrough, not_false_eq_true, if_true, hclass, Except.mapError,
        Fallible.ofExcept_ok, Fallible.pure_bind_run, Fallible.throw_run] at hrest
      cases hrest
  · rintro ⟨packet, frame, hnew, hpublic, hsend, rfl⟩
    have hclass := (NetworkPacket.classifyDestination_eq_public hnew).mpr hpublic
    have hroute : route mtu bytes = .ok (packet, .throughGhostLayer) :=
      route_eq_ok.mpr ⟨hnew, .public', hclass, ⟨nofun, nofun⟩, rfl⟩
    refine ⟨(packet, .throughGhostLayer), channel, Fallible.ofExcept_eq_ok.mpr ⟨hroute, rfl⟩, ?_⟩
    simp only [ne_eq, not_true_eq_false, if_false, Fallible.bind_eq_ok, Fallible.mapError_eq_ok,
      Fallible.get_eq_ok, Fallible.pure_eq_ok]
    exact ⟨frame, final, hsend, final, final, ⟨rfl, rfl⟩, rfl, rfl⟩

/-- A refusal by anything but the data plane leaves the channel alone. -/
theorem send_refused {reason : PipelineError}
    (hsend : send ext mtu maximumPayloadSize bytes channel = (.error reason, final))
    (hreason : ∀ failure, reason ≠ .dataPlane failure) : final = channel := by
  cases hroute : route mtu bytes with
  | error failure =>
      rw [send, hroute] at hsend
      cases hsend
      rfl
  | ok routed =>
      obtain ⟨packet, decision⟩ := routed
      obtain ⟨hnew, destination, hclass, -, hdecision⟩ := route_eq_ok.mp hroute
      rw [send, hroute, Fallible.ofExcept_ok, Fallible.pure_bind_run] at hsend
      by_cases hthrough : decision = .throughGhostLayer
      · simp only [hthrough, ne_eq, not_true_eq_false, if_false, Fallible.bind_run,
          Fallible.mapError] at hsend
        rcases hrun : DataPlane.send ext maximumPayloadSize packet.bytes channel with
          ⟨frame | failure | _, next⟩ <;> simp only [hrun] at hsend <;> cases hsend
        exact absurd rfl (hreason failure)
      · simp only [ne_eq, hthrough, not_false_eq_true, if_true, hclass, Except.mapError,
          Fallible.ofExcept_ok, Fallible.pure_bind_run, Fallible.throw_run] at hsend
        cases hsend
        rfl

/-- What the pipeline sends is a packet within the limits and to an address outside the reserved
networks, and the bridge of a peer that is ready for it writes these bytes to its device. -/
theorem send_delivers (hparse : ext.ParsesJson) (hcipher : ext.CipherOpens) (mtu : MtuPolicy)
    (maximumPayloadSize : Nat) (bytes : Bytes) (sender : EncryptedChannel) :
    (∀ envelope final,
      send ext mtu maximumPayloadSize bytes sender = (.ok envelope, final) →
        ∃ packet, NetworkPacket.new bytes mtu.maximumPacketSize mtu.tunnelMtu = .ok packet ∧
          packet.bytes = bytes ∧ bytes.length ≤ mtu.maximumPacketSize ∧
          bytes.length ≤ mtu.tunnelMtu ∧ ¬ IsReserved packet.destination ∧
          ∀ (δ : Type) (device : TunDevice.Calls δ) (state after : δ) (bridge : TunDataPlane)
            (maximumPayloadSize' : Nat) (receiver : EncryptedChannel),
            DataPlane.Linked sender receiver → mtu.maximumPacketSize ≤ bridge.maximumPacketSize →
            mtu.tunnelMtu ≤ bridge.mtu → maximumPayloadSize ≤ maximumPayloadSize' →
            device.writePacket packet state = (.ok (), after) →
              ∃ opened, TunBridge.writeFrame ext bridge device maximumPayloadSize' envelope
                (receiver, state) = (.ok packet, (opened, after))) ∧
    ∀ reason final, send ext mtu maximumPayloadSize bytes sender = (.error reason, final) →
      (∀ failure, reason ≠ .dataPlane failure) → final = sender := by
  refine ⟨?_, fun reason final hsend hreason => send_refused hsend hreason⟩
  intro envelope final hsend
  obtain ⟨packet, frame, hnew, hpublic, hframe, rfl⟩ := send_eq_ok.mp hsend
  obtain ⟨⟨hlarge, hwide⟩, ⟨hsize, hfits⟩, hheader, hbytes⟩ := NetworkPacket.new_eq_ok.mp hnew
  refine ⟨packet, hnew, hbytes, hsize, hfits, hpublic, ?_⟩
  intro δ device state after bridge maximumPayloadSize' receiver hlinked hmaximum hmtu hpayload
    hroom
  obtain ⟨message, opened, hmessage, -, hreceive⟩ :=
    hlinked.receives_within hparse hcipher hpayload hframe
  have hsession : final.session.sessionId = receiver.session.sessionId := by
    have hsent := DataPlane.send_sentOn ext maximumPayloadSize packet.bytes sender
    rw [hframe] at hsent
    exact hsent.sessionId.trans hlinked.sessionId.symm
  -- The limits of the receiver allow what those of the sender did.
  have hagain : NetworkPacket.new message.payload bridge.maximumPacketSize bridge.mtu =
      .ok packet := by
    rw [hmessage, hbytes]
    exact NetworkPacket.new_eq_ok.mpr ⟨⟨by omega, by omega⟩, ⟨by omega, by omega⟩, hheader, hbytes⟩
  refine ⟨opened, ?_⟩
  rw [TunBridge.writeFrame_run, hsession, hreceive]
  simp only [hagain, hroom]

theorem send_delivers_example : ∃ envelope final opened,
    send reference ⟨1500, 1500⟩ 1500 TunBridge.examplePacket.bytes
        (ChannelPair.reference.channel .initiator) = (.ok envelope, final) ∧
      TunBridge.writeFrame reference ⟨1500, 1500⟩ MockTunDevice.calls 1500 envelope
        (ChannelPair.reference.channel .responder, TunBridge.exampleDevice [] []) =
          (.ok TunBridge.examplePacket,
            (opened, TunBridge.exampleDevice [] [TunBridge.examplePacket])) := by
  have hnew : NetworkPacket.new TunBridge.examplePacket.bytes 1500 1500 =
      .ok TunBridge.examplePacket := by decide
  have hpublic : ¬ IsReserved TunBridge.examplePacket.destination :=
    (NetworkPacket.classifyDestination_eq_public hnew).mp (by decide)
  obtain ⟨frame, final, hframe⟩ := TunBridge.examplePacket_sent
  have hsend := (@send_eq_ok _ ⟨1500, 1500⟩ _ _ _ _ _).mpr
    ⟨TunBridge.examplePacket, frame, hnew, hpublic, hframe, rfl⟩
  obtain ⟨packet, hfound, -, -, -, -, hdelivers⟩ := (send_delivers reference.parsesJson
    reference.cipherOpens ⟨1500, 1500⟩ 1500 TunBridge.examplePacket.bytes
    (ChannelPair.reference.channel .initiator)).1 _ _ hsend
  obtain rfl : TunBridge.examplePacket = packet := Except.ok.inj (hnew.symm.trans hfound)
  obtain ⟨opened, hwrite⟩ := hdelivers MockTunDevice MockTunDevice.calls
    (TunBridge.exampleDevice [] []) (TunBridge.exampleDevice [] [TunBridge.examplePacket])
    ⟨1500, 1500⟩ 1500 (ChannelPair.reference.channel .responder) TunBridge.reference_linked le_rfl
    le_rfl le_rfl rfl
  exact ⟨_, final, opened, hsend, hwrite⟩

end PacketPipeline

end Network
