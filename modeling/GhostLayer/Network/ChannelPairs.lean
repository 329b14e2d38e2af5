import GhostLayer.Network.ChannelLaws

/-! # The two ends of a session

Each end of a session is ready for the next frame of the other. A payload that
one end sends is received by the other as it was, and both are ready for the
next one afterwards, in either direction.
-/

namespace Network

open Foundation

variable {ext : Externals}

namespace DataPlane

variable {sender receiver next opened here there : EncryptedChannel} {payload frame : Bytes}
  {maximum maximum' : Nat} {message : DataPlaneMessage}

/-- What a sender receives does not change what it sends next. -/
theorem Linked.receivedOn (hlinked : Linked sender receiver) (hreceived : sender.ReceivedOn next) :
    Linked next receiver where
  established := hlinked.established
  session := hlinked.session
  sessionId := hlinked.sessionId.trans hreceived.sessionId.symm
  key := hlinked.key.trans hreceived.sendKey.symm
  version := hlinked.version.trans hreceived.protocolVersion.symm
  limit := hreceived.maximumFrameSize ▸ hlinked.limit
  bounded := hlinked.bounded
  sequence := hlinked.sequence.trans hreceived.sendSequence.symm
  nonce := hreceived.sendNonce ▸ hlinked.nonce

/-- What a receiver sends does not change what it receives next. -/
theorem Linked.sentOn (hlinked : Linked sender receiver) (hsent : receiver.SentOn next)
    (hstate : next.state = .established) : Linked sender next where
  established := hstate
  session := hsent.sessionState.trans hlinked.session
  sessionId := hsent.sessionId.trans hlinked.sessionId
  key := hsent.receiveKey.trans hlinked.key
  version := hsent.protocolVersion.trans hlinked.version
  limit := hsent.maximumFrameSize ▸ hlinked.limit
  bounded := hsent.maximumFrameSize ▸ hlinked.bounded
  sequence := hsent.receiveSequence.trans hlinked.sequence
  nonce := hsent.lastReceivedNonce ▸ hlinked.nonce

theorem established_after_send (hsend : send ext maximum payload sender = (.ok frame, next)) :
    next.state = .established := by
  obtain ⟨hstate, _, _, _, _, _, _, _, _, rfl⟩ :=
    EncryptedChannel.send_eq_ok.mp (send_eq_ok.mp hsend).2
  simpa [EncryptedChannel.queued] using hstate

theorem sentOn_of_send (hsend : send ext maximum payload sender = (.ok frame, next)) :
    sender.SentOn next := by
  have hsent := send_sentOn ext maximum payload sender
  rwa [hsend] at hsent

/-- A frame takes its sender and its receiver to the next number and the next nonce. -/
theorem Linked.advances (hparse : ext.ParsesJson) (hcipher : ext.CipherOpens)
    (hlinked : Linked sender receiver)
    (hsend : send ext maximum payload sender = (.ok frame, next)) :
    ∃ message opened, message.payload = payload ∧
      receive ext maximum ⟨dataPlaneKind, receiver.session.sessionId, frame⟩ receiver =
        (.ok message, opened) ∧ Linked next opened := by
  obtain ⟨message, opened, hpayload, hopened, hreceive⟩ :=
    hlinked.receives_within hparse hcipher le_rfl hsend
  refine ⟨message, opened, hpayload, hreceive, ?_⟩
  have hsent := sentOn_of_send hsend
  have hreceived := receivedOn_of_receive hreceive
  obtain ⟨_, succ, _, _, hsucc, hencrypt, hfits, _, rfl, rfl⟩ :=
    EncryptedChannel.send_eq_ok.mp (send_eq_ok.mp hsend).2
  obtain ⟨_, nonce, ciphertext, hnonce, _, rfl, rfl⟩ := SecureSession.encrypt_eq_ok.mp hencrypt
  obtain ⟨_, _, haccepted, _⟩ := receive_eq_ok.mp hreceive
  obtain ⟨header, body, plaintext, _, succ', hframed, hdecrypt, _, _, hsucc', rfl⟩ :=
    EncryptedChannel.receive_eq_ok.mp haccepted
  -- The frame is read in one way, so the nonce that was noted is the one that it was sealed under.
  obtain ⟨rfl, rfl⟩ := hframed.unique (EncryptedChannel.framed_frameBytes receiver hparse
    hlinked.established (hfits.trans hlinked.limit) hlinked.bounded hlinked.version.symm
    hlinked.sessionId.symm hlinked.sequence.symm rfl)
  obtain ⟨_, _, _, _, rfl⟩ := SecureSession.decrypt_eq_ok.mp hdecrypt
  refine ⟨hopened, hlinked.session, hlinked.sessionId, hlinked.key, hlinked.version,
    hlinked.limit, hlinked.bounded, ?_, ?_⟩
  · rw [hlinked.sequence, hsucc] at hsucc'
    exact (Option.some.inj hsucc').symm
  · rintro last hlast
    obtain rfl := Option.some.inj hlast
    rw [counterOf_append, UInt64.lt_iff_toNat_lt]
    have hcount := checkedSucc_eq_some.mp hnonce
    exact hcount ▸ Nat.lt_succ_self _

/-- Each end is ready for the next frame of the other. -/
structure Paired (here there : EncryptedChannel) : Prop where
  forth : Linked here there
  back : Linked there here

theorem Paired.symm (hpaired : Paired here there) : Paired there here :=
  ⟨hpaired.back, hpaired.forth⟩

/-- What one end sends, the other receives, and both ends are ready again. -/
theorem Paired.transmits (hparse : ext.ParsesJson) (hcipher : ext.CipherOpens)
    (hpaired : Paired here there)
    (hsend : send ext maximum payload here = (.ok frame, next)) :
    ∃ message opened, message.payload = payload ∧
      receive ext maximum ⟨dataPlaneKind, there.session.sessionId, frame⟩ there =
        (.ok message, opened) ∧ Paired next opened := by
  obtain ⟨message, opened, hpayload, hreceive, hforth⟩ :=
    hpaired.forth.advances hparse hcipher hsend
  exact ⟨message, opened, hpayload, hreceive, hforth,
    (hpaired.back.receivedOn (receivedOn_of_receive hreceive)).sentOn (sentOn_of_send hsend)
      (established_after_send hsend)⟩

/-- The two sessions of a handshake are opened as the two ends of a channel. -/
theorem paired_of_open (sessionId : SessionId) (initiatorPeer responderPeer : PeerId)
    (route : RouteBinding) (shared : Bytes32) (protocol : String)
    (hopen : EncryptedChannel.open (deriveSession ext sessionId responderPeer route .initiator
      shared protocol) channelProtocolVersion 4096 8 = .ok here)
    (hopen' : EncryptedChannel.open (deriveSession ext sessionId initiatorPeer route .responder
      shared protocol) channelProtocolVersion 4096 8 = .ok there) :
    Paired here there := by
  obtain ⟨-, rfl⟩ := EncryptedChannel.open_eq_ok.mp hopen
  obtain ⟨-, rfl⟩ := EncryptedChannel.open_eq_ok.mp hopen'
  have hbounded : 4096 < 2 ^ 32 := by decide
  exact ⟨⟨rfl, rfl, rfl, rfl, rfl, Nat.le_refl _, hbounded, rfl, nofun⟩,
    ⟨rfl, rfl, rfl, rfl, rfl, Nat.le_refl _, hbounded, rfl, nofun⟩⟩

end DataPlane

end Network
