import GhostLayer.Network.ChannelLaws

/-! # The queue of a channel in use

A channel returns every frame that it seals and keeps a copy in its queue. The
loops of this program send what is returned and never empty the queue, so its
length is the number of frames sealed so far.
-/

namespace Network

open Foundation

variable {ext : Externals}

namespace EncryptedChannel

/-- How a channel was used since it was opened with the limits of this program, and the frames that
it sealed. -/
inductive Used (ext : Externals) : EncryptedChannel → List Bytes → Prop
  | opened (session : SecureSession) (protocolVersion : String) (channel : EncryptedChannel)
      (opens : EncryptedChannel.open session protocolVersion 4096 8 = .ok channel) :
      Used ext channel []
  | sent (channel next : EncryptedChannel) (frames : List Bytes) (payload frame : Bytes)
      (used : Used ext channel frames)
      (sends : DataPlane.send ext defaultMaximumPayloadSize payload channel = (.ok frame, next)) :
      Used ext next (frames ++ [frame])
  | refused (channel next : EncryptedChannel) (frames : List Bytes) (payload : Bytes)
      (reason : DataPlaneError) (used : Used ext channel frames)
      (refuses : DataPlane.send ext defaultMaximumPayloadSize payload channel =
        (.error reason, next)) :
      Used ext next frames
  | received (channel : EncryptedChannel) (frames : List Bytes) (envelope : DataPlaneEnvelope)
      (used : Used ext channel frames) :
      Used ext (DataPlane.receive ext defaultMaximumPayloadSize envelope channel).2 frames

/-- A payload that is refused leaves the queue as it was. -/
theorem pendingOutbound_of_refused {channel next : EncryptedChannel} {payload : Bytes}
    {reason : DataPlaneError}
    (hrefuses : DataPlane.send ext defaultMaximumPayloadSize payload channel =
      (.error reason, next)) : next.pendingOutbound = channel.pendingOutbound := by
  unfold DataPlane.send at hrefuses
  rw [Fallible.failWhen_bind_run] at hrefuses
  split_ifs at hrefuses
  · obtain ⟨_, rfl⟩ := Prod.mk.inj hrefuses
    rfl
  · rw [Fallible.mapError] at hrefuses
    rcases send_cases ext (.dataPlane payload) channel with ⟨frame, final, hsend⟩ |
      ⟨reason, hsend⟩ | ⟨reason, next, _, hsend⟩ | ⟨reason, _, hsend⟩ <;>
      rw [hsend] at hrefuses
    · cases (Prod.mk.inj hrefuses).1
    all_goals
      obtain ⟨_, rfl⟩ := Prod.mk.inj hrefuses
      rfl

/-- Every frame that was sealed is in the queue. -/
theorem Used.queue {channel : EncryptedChannel} {frames : List Bytes}
    (hused : Used ext channel frames) :
    channel.pendingOutbound = frames ∧ channel.maximumPendingMessages = 8 := by
  induction hused with
  | opened session protocolVersion channel opens =>
      obtain ⟨_, rfl⟩ := open_eq_ok.mp opens
      exact ⟨rfl, rfl⟩
  | sent channel next frames payload frame _ sends ih =>
      have hsent := DataPlane.send_sentOn ext defaultMaximumPayloadSize payload channel
      rw [sends] at hsent
      obtain ⟨_, _, _, _, _, _, _, _, _, rfl⟩ := send_eq_ok.mp (DataPlane.send_eq_ok.mp sends).2
      exact ⟨congrArg (· ++ [frame]) ih.1, ih.2⟩
  | refused channel next frames payload reason _ refuses ih =>
      have hsent := DataPlane.send_sentOn ext defaultMaximumPayloadSize payload channel
      rw [refuses] at hsent
      exact ⟨(pendingOutbound_of_refused refuses).trans ih.1,
        hsent.maximumPendingMessages.trans ih.2⟩
  | received channel frames envelope _ ih =>
      have hreceived := DataPlane.receive_receivedOn ext defaultMaximumPayloadSize envelope channel
      exact ⟨hreceived.pendingOutbound.trans ih.1, hreceived.maximumPendingMessages.trans ih.2⟩

theorem Used.limit {channel : EncryptedChannel} {frames : List Bytes}
    (hused : Used ext channel frames) : channel.maximumFrameSize = 4096 := by
  induction hused with
  | opened session protocolVersion channel opens =>
      obtain ⟨_, rfl⟩ := open_eq_ok.mp opens
      rfl
  | sent channel next frames payload frame _ sends ih =>
      have hsent := DataPlane.send_sentOn ext defaultMaximumPayloadSize payload channel
      rw [sends] at hsent
      exact hsent.maximumFrameSize.trans ih
  | refused channel next frames payload reason _ refuses ih =>
      have hsent := DataPlane.send_sentOn ext defaultMaximumPayloadSize payload channel
      rw [refuses] at hsent
      exact hsent.maximumFrameSize.trans ih
  | received channel frames envelope _ ih =>
      have hreceived := DataPlane.receive_receivedOn ext defaultMaximumPayloadSize envelope channel
      exact hreceived.maximumFrameSize.trans ih

/-- A message is held up when it was sealed, its frame fits and the queue is full. -/
theorem send_backpressure {message : ChannelMessage} {channel : EncryptedChannel} :
    (send ext message channel).1 = .error .backpressure ↔
      channel.state = .established ∧ ∃ next ciphertext session,
        checkedSucc channel.sendSequence = some next ∧
        SecureSession.encrypt ext message.toJson.render (channel.nextHeader message).associatedData
          channel.session = (.ok ciphertext, session) ∧
        (channel.nextFrame message ciphertext).length ≤ channel.maximumFrameSize ∧
        channel.maximumPendingMessages ≤ channel.pendingOutbound.length := by
  rw [send_run]
  by_cases hstate : channel.state = .established
  · rw [if_neg (by simpa using hstate)]
    cases checkedSucc channel.sendSequence with
    | none => simp
    | some next =>
        rcases SecureSession.encrypt ext message.toJson.render
          (channel.nextHeader message).associatedData channel.session with
          ⟨ciphertext | reason | _, session⟩
        · by_cases hlarge :
              (channel.nextFrame message ciphertext).length > channel.maximumFrameSize
          · simp only [if_pos hlarge]
            simp [Nat.not_le.mpr hlarge]
          · simp only [if_neg hlarge]
            have hfits := Nat.not_lt.mp hlarge
            by_cases hfull : channel.pendingOutbound.length ≥ channel.maximumPendingMessages
            · simp [hstate, hfull, hfits]
            · simp [hfull]
        · cases reason <;> simp [ChannelError.ofSession]
        · simp
  · rw [if_pos hstate]
    simp [hstate]

/-- A payload within the limits of an established channel: with an empty queue it would be sent. -/
def Fits (ext : Externals) (channel : EncryptedChannel) (payload : Bytes) : Prop :=
  DataPlane.CanSend ext { channel with pendingOutbound := [] } payload

theorem ofChannel_eq_backpressure {reason : ChannelError} :
    DataPlaneError.ofChannel reason = .backpressure ↔ reason = .backpressure := by
  cases reason <;> simp [DataPlaneError.ofChannel]

/-- A payload is refused for a full queue when nothing else is wrong with it. -/
theorem dataPlane_backpressure {channel : EncryptedChannel} {payload : Bytes}
    (hlimit : 0 < channel.maximumPendingMessages) :
    (DataPlane.send ext defaultMaximumPayloadSize payload channel).1 = .error .backpressure ↔
      Fits ext channel payload ∧
        channel.maximumPendingMessages ≤ channel.pendingOutbound.length := by
  have hmapped : (DataPlane.send ext defaultMaximumPayloadSize payload channel).1 =
        .error .backpressure ↔ payload.length ≤ defaultMaximumPayloadSize ∧
      (send ext (.dataPlane payload) channel).1 = .error .backpressure := by
    unfold DataPlane.send
    rw [Fallible.failWhen_bind_run]
    split_ifs with hsize
    · simp [Nat.not_le.mpr hsize]
    · rcases hrun : send ext (.dataPlane payload) channel with ⟨_ | _ | _, _⟩ <;>
        simp [Fallible.mapError, hrun, ofChannel_eq_backpressure, Nat.not_lt.mp hsize]
  rw [hmapped, send_backpressure]
  simp only [SecureSession.encrypt_eq_ok]
  constructor
  · rintro ⟨hsize, hstate, _, _, _, hsequence, ⟨hsession, _, ciphertext, hnonce, hsealed, rfl, _⟩,
      hfits, hfull⟩
    exact ⟨⟨hsize, hstate, hsession, checkedSucc_isSome.mp ⟨_, hsequence⟩,
      checkedSucc_isSome.mp ⟨_, hnonce⟩, hlimit, ciphertext, hsealed, hfits⟩, hfull⟩
  · rintro ⟨hcan, hfull⟩
    obtain ⟨next, hnext⟩ := checkedSucc_isSome.mpr hcan.sequence
    obtain ⟨nonce, hnonce⟩ := checkedSucc_isSome.mpr hcan.nonce
    obtain ⟨ciphertext, hsealed, hfits⟩ := hcan.fits
    exact ⟨hcan.size, hcan.established, next, _, _, hnext,
      ⟨hcan.session, nonce, ciphertext, hnonce, hsealed, rfl, rfl⟩, hfits, hfull⟩

/-- A channel in use takes a payload that fits until it has sealed eight frames. -/
theorem Used.not_backpressure_iff {channel : EncryptedChannel} {frames : List Bytes}
    (hused : Used ext channel frames) (payload : Bytes) :
    (DataPlane.send ext defaultMaximumPayloadSize payload channel).1 ≠ .error .backpressure ↔
      (Fits ext channel payload → frames.length < 8) := by
  obtain ⟨rfl, hlimit⟩ := hused.queue
  rw [ne_eq, dataPlane_backpressure (by omega), hlimit, not_and, Nat.not_le]

end EncryptedChannel

end Network
