import GhostLayer.Network.Channel
import GhostLayer.Foundation.Frames
import GhostLayer.Network.SessionLaws

/-! # What the channel operations do

One lemma for each way `send` and `receive` can end. Later modules use these and
do not unfold the operations.
-/

namespace Network

open Foundation

variable {ext : Externals}

/-! ## JSON forms are read back -/

@[simp] theorem MessageType.fromJson_toJson (messageType : MessageType) :
    MessageType.fromJson messageType.toJson = some messageType := by
  cases messageType <;> rfl

@[simp] theorem MessageType.readable_toJson (depth : Nat) (messageType : MessageType) :
    Json.readable depth messageType.toJson = true := by
  cases messageType <;> simp [MessageType.toJson, Json.readable]

theorem FrameHeader.fromJson_toJson (header : FrameHeader) :
    FrameHeader.fromJson header.toJson = some header := by
  rw [FrameHeader.fromJson, FrameHeader.toJson, Serde.record_zip 0 (by decide) rfl]
  simp

theorem FrameHeader.readable_toJson (header : FrameHeader) :
    Json.readable 127 header.toJson = true := by
  have hsequence : header.sequenceNumber.toNat < 2 ^ 64 := header.sequenceNumber.toNat_lt
  have hlength : header.ciphertextLength.toNat < 2 ^ 64 :=
    lt_trans header.ciphertextLength.toNat_lt (by decide)
  simp only [FrameHeader.toJson, FrameHeader.fieldNames, List.zip_cons_cons, List.zip_nil_right,
    Json.readable, Json.readableFields, SessionId.readable_toJson, MessageType.readable_toJson,
    hsequence, hlength, decide_true, Bool.and_self]

theorem FrameHeader.fromSlice_render (hparse : ext.ParsesJson) (header : FrameHeader) :
    ext.fromSlice FrameHeader.fromJson header.toJson.render = some header :=
  Externals.fromSlice_render hparse header.readable_toJson header.fromJson_toJson

theorem ChannelMessage.fromJson_toJson (message : ChannelMessage) :
    ChannelMessage.fromJson message.toJson = some message := by
  cases message <;> simp [ChannelMessage.fromJson, ChannelMessage.toJson, Serde.variant,
    Serde.unitVariant, List.lookup_cons]

theorem ChannelMessage.readable_toJson (message : ChannelMessage) :
    Json.readable 127 message.toJson = true := by
  cases message <;> simp [ChannelMessage.toJson, Json.readable, Json.readableFields]

theorem ChannelMessage.fromSlice_render (hparse : ext.ParsesJson) (message : ChannelMessage) :
    ext.fromSlice ChannelMessage.fromJson message.toJson.render = some message :=
  Externals.fromSlice_render hparse message.readable_toJson message.fromJson_toJson

theorem DataPlaneEnvelope.fromJson_toJson (envelope : DataPlaneEnvelope) :
    DataPlaneEnvelope.fromJson envelope.toJson = some envelope := by
  rw [DataPlaneEnvelope.fromJson, DataPlaneEnvelope.toJson, Serde.record_zip 0 (by decide) rfl]
  simp

theorem DataPlaneEnvelope.readable_toJson (depth : Nat) (envelope : DataPlaneEnvelope) :
    Json.readable (depth + 2) envelope.toJson = true := by
  simp [DataPlaneEnvelope.toJson, DataPlaneEnvelope.fieldNames, Json.readable,
    Json.readableFields]

/-- Authenticated headers tell apart everything but the length field. -/
theorem FrameHeader.associatedData_inj {first second : FrameHeader}
    (hdata : first.associatedData = second.associatedData) :
    first.protocolVersion = second.protocolVersion ∧ first.sessionId = second.sessionId ∧
      first.messageType = second.messageType ∧ first.sequenceNumber = second.sequenceNumber := by
  have hjson := Json.render_injective hdata
  have hread := congrArg FrameHeader.fromJson hjson
  rw [FrameHeader.fromJson_toJson, FrameHeader.fromJson_toJson, Option.some.injEq,
    FrameHeader.mk.injEq] at hread
  exact ⟨hread.1, hread.2.1, hread.2.2.1, hread.2.2.2.1⟩

namespace EncryptedChannel

/-! ## Sending -/

theorem open_eq_ok {session : SecureSession} {protocolVersion : String}
    {maximumFrameSize maximumPendingMessages : Nat} {channel : EncryptedChannel} :
    EncryptedChannel.open session protocolVersion maximumFrameSize maximumPendingMessages =
        .ok channel ↔
      (session.state = .established ∧ frameOverheadLimit < maximumFrameSize ∧
        maximumPendingMessages ≠ 0) ∧
      ⟨session, .established, protocolVersion, maximumFrameSize, maximumPendingMessages, [], 0, 0⟩ =
        channel := by
  simp [EncryptedChannel.open, Check.bind_eq_ok, Check.failWhen_eq_ok, pure, Except.pure]

/-- The header of the next outbound message, as the cipher authenticates it. -/
def nextHeader (channel : EncryptedChannel) (message : ChannelMessage) : FrameHeader where
  protocolVersion := channel.protocolVersion
  sessionId := channel.session.sessionId
  messageType := message.messageType
  sequenceNumber := channel.sendSequence
  ciphertextLength := 0

/-- The frame that carries a ciphertext of the next outbound message. -/
def nextFrame (channel : EncryptedChannel) (message : ChannelMessage) (ciphertext : Bytes) :
    Bytes :=
  frameBytes { channel.nextHeader message with
    ciphertextLength := UInt32.ofNat ciphertext.length } ciphertext

/-- The channel after a frame was queued. -/
def queued (channel : EncryptedChannel) (message : ChannelMessage) (session : SecureSession)
    (next : UInt64) (frame : Bytes) : EncryptedChannel :=
  { channel with
    session
    sendSequence := next
    pendingOutbound := channel.pendingOutbound ++ [frame]
    state := if message = .close then .closing else channel.state }

theorem onSession_run {α : Type} (routine : Fallible SecureSession SessionError α)
    (channel : EncryptedChannel) :
    onSession routine channel =
      match routine channel.session with
      | (.ok value, session) => (.ok value, { channel with session })
      | (.error reason, session) => (.error (.ofSession reason), { channel with session })
      | (.panic, session) => (.panic, { channel with session }) := by
  unfold onSession Fallible.mapError Fallible.zoom
  rcases routine channel.session with ⟨_ | _ | _, session⟩ <;> rfl

theorem messageType_eq_close {message : ChannelMessage} :
    message.messageType = .close ↔ message = .close := by
  cases message <;> simp [ChannelMessage.messageType]

theorem send_run (message : ChannelMessage) (channel : EncryptedChannel) :
    send ext message channel =
      if channel.state ≠ .established then (.error .channelClosed, channel)
      else match checkedSucc channel.sendSequence with
        | none => (.error .invalidSequence, channel)
        | some next =>
            match SecureSession.encrypt ext message.toJson.render
              (channel.nextHeader message).associatedData channel.session with
            | (.error reason, session) =>
                (.error (.ofSession reason), { channel with session, sendSequence := next })
            | (.panic, session) => (.panic, { channel with session, sendSequence := next })
            | (.ok ciphertext, session) =>
                if (channel.nextFrame message ciphertext).length > channel.maximumFrameSize then
                  (.error .frameTooLarge, { channel with session })
                else if channel.pendingOutbound.length ≥ channel.maximumPendingMessages then
                  (.error .backpressure, { channel with session })
                else (.ok (channel.nextFrame message ciphertext),
                  channel.queued message session next (channel.nextFrame message ciphertext)) := by
  simp only [send, ensureEstablished, Fallible.bind_run, Fallible.get_run]
  by_cases hstate : channel.state = .established
  · rw [if_neg (by simpa using hstate), Fallible.failWhen_neg _ (by simpa using hstate)]
    simp only [Fallible.pure_run]
    cases checkedSucc channel.sendSequence with
    | none => rfl
    | some next =>
        simp only [Fallible.orThrow_some, Fallible.pure_run, Fallible.modify_run, onSession_run]
        -- From here on the sequence number is taken, whatever becomes of the frame.
        rcases hrun : SecureSession.encrypt ext message.toJson.render
          (channel.nextHeader message).associatedData channel.session with
          ⟨ciphertext | reason | _, session⟩
        all_goals
          simp only [nextHeader, FrameHeader.associatedData] at hrun
          simp only [hrun]
        by_cases hlarge : (channel.nextFrame message ciphertext).length > channel.maximumFrameSize
        · rw [if_pos hlarge]
          simp only [nextFrame, nextHeader] at hlarge
          rw [if_pos hlarge]
          rfl
        · rw [if_neg hlarge]
          simp only [nextFrame, nextHeader] at hlarge ⊢
          rw [if_neg hlarge]
          by_cases hfull : channel.pendingOutbound.length ≥ channel.maximumPendingMessages
          · rw [if_pos hfull, if_pos hfull]
            rfl
          · rw [if_neg hfull, if_neg hfull]
            -- Only a close message moves the state of the channel.
            by_cases hclose : message = .close
            · simp [queued, hclose, ChannelMessage.messageType]
            · have htype : message.messageType ≠ .close := mt messageType_eq_close.mp hclose
              simp [queued, hclose, htype]
  · rw [if_pos hstate, Fallible.failWhen_pos _ hstate]
    rfl

/-- A message is sent when its frame fits and there is room in the queue. -/
theorem send_eq_ok {message : ChannelMessage} {channel final : EncryptedChannel} {frame : Bytes} :
    send ext message channel = (.ok frame, final) ↔
      channel.state = .established ∧ ∃ next ciphertext session,
        checkedSucc channel.sendSequence = some next ∧
        SecureSession.encrypt ext message.toJson.render (channel.nextHeader message).associatedData
          channel.session = (.ok ciphertext, session) ∧
        (channel.nextFrame message ciphertext).length ≤ channel.maximumFrameSize ∧
        channel.pendingOutbound.length < channel.maximumPendingMessages ∧
        channel.nextFrame message ciphertext = frame ∧
        channel.queued message session next frame = final := by
  rw [send_run]
  by_cases hstate : channel.state = .established
  · rw [if_neg (by simpa using hstate)]
    cases checkedSucc channel.sendSequence with
    | none => simp
    | some next =>
        rcases SecureSession.encrypt ext message.toJson.render
          (channel.nextHeader message).associatedData channel.session with
          ⟨ciphertext | reason | _, session⟩
        · by_cases hlarge :
              (channel.nextFrame message ciphertext).length > channel.maximumFrameSize
          · simp only [if_pos hlarge]
            simp [Nat.not_le.mpr hlarge]
          · by_cases hfull : channel.pendingOutbound.length ≥ channel.maximumPendingMessages
            · simp only [if_neg hlarge, if_pos hfull]
              simp [Nat.not_lt.mpr hfull]
            · simp only [if_neg hlarge, if_neg hfull]
              have hfits := Nat.not_lt.mp hlarge
              have hroom := Nat.not_le.mp hfull
              simp only [Prod.mk.injEq, Outcome.ok.injEq, hstate, true_and, Option.some.injEq]
              constructor
              · rintro ⟨rfl, rfl⟩
                exact ⟨next, ciphertext, session, rfl, ⟨rfl, rfl⟩, hfits, hroom, rfl, rfl⟩
              · rintro ⟨_, _, _, rfl, ⟨rfl, rfl⟩, _, _, rfl, rfl⟩
                exact ⟨rfl, rfl⟩
        · simp
        · simp
  · rw [if_pos hstate]
    simp [hstate]

variable (ext) in
/-- The ways a call of `send` can end: with a frame; before the cipher is called; with the cipher
or its counter failing, when the sequence number is used up; or with the message encrypted and
withheld, when the sequence number is given back. -/
theorem send_cases (message : ChannelMessage) (channel : EncryptedChannel) :
    (∃ frame final, send ext message channel = (.ok frame, final)) ∨
    (∃ reason, send ext message channel = (.error reason, channel)) ∨
    (∃ reason next, checkedSucc channel.sendSequence = some next ∧
      send ext message channel = (.error (.ofSession reason),
        { channel with
          session := (SecureSession.encrypt ext message.toJson.render
            (channel.nextHeader message).associatedData channel.session).2
          sendSequence := next })) ∨
    (∃ reason, (reason = .frameTooLarge ∨ reason = .backpressure) ∧
      send ext message channel = (.error reason,
        { channel with session := (SecureSession.encrypt ext message.toJson.render
          (channel.nextHeader message).associatedData channel.session).2 })) := by
  rw [send_run]
  by_cases hstate : channel.state = .established
  · rw [if_neg (by simpa using hstate)]
    cases checkedSucc channel.sendSequence with
    | none => exact .inr (.inl ⟨_, rfl⟩)
    | some next =>
        have hpanic := SecureSession.encrypt_ne_panic ext message.toJson.render
          (channel.nextHeader message).associatedData channel.session
        rcases hrun : SecureSession.encrypt ext message.toJson.render
          (channel.nextHeader message).associatedData channel.session with
          ⟨ciphertext | reason | _, session⟩
        · by_cases hlarge :
              (channel.nextFrame message ciphertext).length > channel.maximumFrameSize
          · simp only [if_pos hlarge]
            exact .inr (.inr (.inr ⟨_, .inl rfl, rfl⟩))
          · by_cases hfull : channel.pendingOutbound.length ≥ channel.maximumPendingMessages
            · simp only [if_neg hlarge, if_pos hfull]
              exact .inr (.inr (.inr ⟨_, .inr rfl, rfl⟩))
            · simp only [if_neg hlarge, if_neg hfull]
              exact .inl ⟨_, _, rfl⟩
        · exact .inr (.inr (.inl ⟨reason, next, rfl, rfl⟩))
        · rw [hrun] at hpanic
          exact absurd rfl hpanic
  · rw [if_pos hstate]
    exact .inr (.inl ⟨_, rfl⟩)

/-! ## Receiving -/

/-- The length of the header that a frame announces. -/
def headerLength (frame : Bytes) : Nat := Bytes.toNat (frame.take 4)

/-- A frame passes the checks that come before decryption. -/
structure Framed (ext : Externals) (channel : EncryptedChannel) (frame : Bytes)
    (header : FrameHeader) (ciphertext : Bytes) : Prop where
  established : channel.state = .established
  fits : frame.length ≤ channel.maximumFrameSize
  headed : headerLength frame ≠ 0 ∧ headerLength frame ≤ channel.maximumFrameSize ∧
    4 + headerLength frame ≤ frame.length
  parsed : ext.fromSlice FrameHeader.fromJson
    ((frame.take (4 + headerLength frame)).drop 4) = some header
  version : header.protocolVersion = channel.protocolVersion
  session : header.sessionId = channel.session.sessionId
  sequence : header.sequenceNumber = channel.receiveSequence
  rest : frame.drop (4 + headerLength frame) = ciphertext
  length : ciphertext.length = header.ciphertextLength.toNat

theorem readFrame_run (frame : Bytes) (channel : EncryptedChannel) :
    readFrame ext frame channel =
      (if channel.state ≠ .established then .error .channelClosed
      else if frame.length > channel.maximumFrameSize ∨ frame.length < 4 then
        .error .frameTooLarge
      else if headerLength frame = 0 ∨ headerLength frame > channel.maximumFrameSize ∨
          frame.length < 4 + headerLength frame then .error .invalidFrame
      else match ext.fromSlice FrameHeader.fromJson
          ((frame.take (4 + headerLength frame)).drop 4) with
        | none => .error .invalidFrame
        | some header =>
            if header.protocolVersion ≠ channel.protocolVersion then .error .unsupportedVersion
            else if header.sessionId ≠ channel.session.sessionId then .error .invalidSession
            else if header.sequenceNumber < channel.receiveSequence then .error .replayDetected
            else if header.sequenceNumber ≠ channel.receiveSequence then .error .invalidSequence
            else if (frame.drop (4 + headerLength frame)).length ≠ header.ciphertextLength.toNat
              then .error .invalidFrame
            else .ok (header, frame.drop (4 + headerLength frame)), channel) := by
  simp only [readFrame, ensureEstablished, Fallible.bind_bind, Fallible.get_bind_run,
    Fallible.failWhen_bind_run]
  by_cases hstate : channel.state = .established
  swap
  · simp [hstate]
  by_cases hsize : frame.length > channel.maximumFrameSize ∨ frame.length < 4
  · simp [hstate, hsize]
  -- The bounds that were just checked keep every slice within the frame.
  have hlong : 4 ≤ frame.length := by omega
  have hbegun : Bytes.slice frame 0 4 = some (frame.take 4) := by simp [Bytes.slice, hlong]
  simp only [hstate, hsize, hbegun, ne_eq, not_true_eq_false, ↓reduceIte, Fallible.orPanic_some,
    Fallible.pure_bind_run, Fallible.failWhen_bind_run, ← headerLength.eq_def]
  by_cases hheader : headerLength frame = 0 ∨ headerLength frame > channel.maximumFrameSize ∨
      frame.length < 4 + headerLength frame
  · simp [hheader]
  have hframe : 4 + headerLength frame ≤ frame.length := by omega
  have hslice : Bytes.slice frame 4 (4 + headerLength frame) =
      some ((frame.take (4 + headerLength frame)).drop 4) := by
    simp [Bytes.slice, hframe]
  have hrest : Bytes.sliceFrom frame (4 + headerLength frame) =
      some (frame.drop (4 + headerLength frame)) := by
    simp [Bytes.sliceFrom, hframe]
  simp only [hheader, hslice, hrest, ↓reduceIte, Fallible.orPanic_some, Fallible.pure_bind_run]
  cases ext.fromSlice FrameHeader.fromJson ((frame.take (4 + headerLength frame)).drop 4) with
  | none => rfl
  | some header =>
      simp only [Fallible.orThrow_some, Fallible.pure_bind_run, Fallible.failWhen_bind_run,
        Fallible.pure_run]
      simp only [apply_ite (fun outcome => (outcome, channel))]

theorem readFrame_eq_ok {frame : Bytes} {channel final : EncryptedChannel} {header : FrameHeader}
    {ciphertext : Bytes} :
    readFrame ext frame channel = (.ok (header, ciphertext), final) ↔
      Framed ext channel frame header ciphertext ∧ channel = final := by
  rw [readFrame_run, Prod.mk.injEq]
  refine and_congr_left' ⟨?_, ?_⟩
  · intro hread
    by_cases hstate : channel.state = .established
    swap
    · rw [if_pos hstate] at hread
      cases hread
    by_cases hsize : frame.length > channel.maximumFrameSize ∨ frame.length < 4
    · rw [if_neg (not_not.mpr hstate), if_pos hsize] at hread
      cases hread
    by_cases hheader : headerLength frame = 0 ∨ headerLength frame > channel.maximumFrameSize ∨
        frame.length < 4 + headerLength frame
    · rw [if_neg (not_not.mpr hstate), if_neg hsize, if_pos hheader] at hread
      cases hread
    rw [if_neg (not_not.mpr hstate), if_neg hsize, if_neg hheader] at hread
    rw [not_or] at hsize
    rw [not_or, not_or] at hheader
    cases hparsed : ext.fromSlice FrameHeader.fromJson
        ((frame.take (4 + headerLength frame)).drop 4) with
    | none => simp [hparsed] at hread
    | some parsed =>
        rw [hparsed] at hread
        simp only at hread
        -- The checks of the header, in the order of the source.
        split at hread
        · cases hread
        split at hread
        · cases hread
        split at hread
        · cases hread
        split at hread
        · cases hread
        split at hread
        · cases hread
        rename_i hversion hsession _ hsequence hlength
        simp only [Outcome.ok.injEq, Prod.mk.injEq] at hread
        obtain ⟨rfl, rfl⟩ := hread
        exact ⟨hstate, Nat.not_lt.mp hsize.1,
          ⟨hheader.1, Nat.not_lt.mp hheader.2.1, Nat.not_lt.mp hheader.2.2⟩, hparsed,
          not_not.mp hversion, not_not.mp hsession, not_not.mp hsequence, rfl,
          not_not.mp hlength⟩
  · rintro ⟨hstate, hfits, ⟨hnonzero, hheader, hwithin⟩, hparsed, hversion, hsession, hsequence,
      rfl, hlength⟩
    have hsize : ¬ (frame.length > channel.maximumFrameSize ∨ frame.length < 4) := by omega
    have hbounds : ¬ (headerLength frame = 0 ∨ headerLength frame > channel.maximumFrameSize ∨
        frame.length < 4 + headerLength frame) := by omega
    -- The replay check is weaker than the check of the sequence behind it.
    have hfresh : ¬ header.sequenceNumber < channel.receiveSequence := by
      rw [hsequence]
      exact UInt64.lt_irrefl _
    rw [if_neg (not_not.mpr hstate), if_neg hsize, if_neg hbounds, hparsed]
    simp only
    rw [if_neg (not_not.mpr hversion), if_neg (not_not.mpr hsession), if_neg hfresh,
      if_neg (not_not.mpr hsequence), if_neg (not_not.mpr hlength)]

theorem Framed.unique {channel : EncryptedChannel} {frame : Bytes} {header header' : FrameHeader}
    {ciphertext ciphertext' : Bytes} (hframed : Framed ext channel frame header ciphertext)
    (hframed' : Framed ext channel frame header' ciphertext') :
    header = header' ∧ ciphertext = ciphertext' :=
  ⟨Option.some.inj (hframed.parsed.symm.trans hframed'.parsed),
    hframed.rest.symm.trans hframed'.rest⟩

variable (ext) in
theorem readFrame_ne_panic (frame : Bytes) (channel : EncryptedChannel) :
    (readFrame ext frame channel).1 ≠ .panic := by
  rw [readFrame_run]
  refine Outcome.ite_ne_panic nofun (Outcome.ite_ne_panic nofun (Outcome.ite_ne_panic nofun ?_))
  cases ext.fromSlice FrameHeader.fromJson ((frame.take (4 + headerLength frame)).drop 4) with
  | none => nofun
  | some header =>
      exact Outcome.ite_ne_panic nofun (Outcome.ite_ne_panic nofun (Outcome.ite_ne_panic nofun
        (Outcome.ite_ne_panic nofun (Outcome.ite_ne_panic nofun nofun))))

variable (ext) in
/-- Reading a frame leaves the channel alone and never runs out of range. -/
theorem readFrame_cases (frame : Bytes) (channel : EncryptedChannel) :
    (∃ header ciphertext, readFrame ext frame channel = (.ok (header, ciphertext), channel)) ∨
      ∃ reason, readFrame ext frame channel = (.error reason, channel) := by
  have hpanic := readFrame_ne_panic ext frame channel
  have hstate : (readFrame ext frame channel).2 = channel := by rw [readFrame_run]
  rcases hrun : readFrame ext frame channel with ⟨result | reason | _, final⟩
  · rw [hrun] at hstate
    exact .inl ⟨result.1, result.2, by rw [← hstate]⟩
  · rw [hrun] at hstate
    exact .inr ⟨reason, by rw [← hstate]⟩
  · rw [hrun] at hpanic
    exact absurd rfl hpanic

theorem render_ne_nil (header : FrameHeader) : header.toJson.render ≠ [] := by
  obtain ⟨first, rest, hrender, _⟩ := Json.render_head header.toJson
  simp [hrender]

theorem headerLength_frameBytes (header : FrameHeader) (ciphertext : Bytes)
    (hfits : header.toJson.render.length < 2 ^ 32) :
    headerLength (frameBytes header ciphertext) = header.toJson.render.length := by
  have hbegun : (frameBytes header ciphertext).take 4 =
      Bytes.bigEndian 4 header.toJson.render.length := by
    simp [frameBytes]
  rw [headerLength, hbegun, Bytes.toNat_bigEndian_of_lt hfits]

theorem frameBytes_length (header : FrameHeader) (ciphertext : Bytes) :
    (frameBytes header ciphertext).length =
      4 + header.toJson.render.length + ciphertext.length := by
  simp [frameBytes, Nat.add_assoc]

/-- What follows the header of a frame is its ciphertext. -/
theorem drop_frameBytes (header : FrameHeader) (ciphertext : Bytes)
    (hfits : header.toJson.render.length < 2 ^ 32) :
    (frameBytes header ciphertext).drop (4 + headerLength (frameBytes header ciphertext)) =
      ciphertext := by
  have hbytes : frameBytes header ciphertext =
      Bytes.bigEndian 4 header.toJson.render.length ++ header.toJson.render ++ ciphertext := rfl
  rw [headerLength_frameBytes header ciphertext hfits, hbytes, List.drop_left' (by simp)]

/-- A frame that a channel with the same version and limit could have sent passes the checks. -/
theorem framed_frameBytes (channel : EncryptedChannel) (hparse : ext.ParsesJson)
    {header : FrameHeader} {ciphertext : Bytes} (hstate : channel.state = .established)
    (hfits : (frameBytes header ciphertext).length ≤ channel.maximumFrameSize)
    (hlimit : channel.maximumFrameSize < 2 ^ 32)
    (hversion : header.protocolVersion = channel.protocolVersion)
    (hsession : header.sessionId = channel.session.sessionId)
    (hsequence : header.sequenceNumber = channel.receiveSequence)
    (hlength : header.ciphertextLength = UInt32.ofNat ciphertext.length) :
    Framed ext channel (frameBytes header ciphertext) header ciphertext := by
  have htotal := frameBytes_length header ciphertext
  have hheader := headerLength_frameBytes header ciphertext (by omega)
  have hnonempty := List.length_pos_of_ne_nil (render_ne_nil header)
  have hbytes : frameBytes header ciphertext =
      Bytes.bigEndian 4 header.toJson.render.length ++ header.toJson.render ++ ciphertext := rfl
  refine ⟨hstate, hfits, ?_, ?_, hversion, hsession, hsequence, ?_, ?_⟩
  · rw [hheader]
    omega
  · have hsplit : ((frameBytes header ciphertext).take
        (4 + headerLength (frameBytes header ciphertext))).drop 4 = header.toJson.render := by
      rw [hheader, hbytes, List.take_left' (by simp), List.drop_left' (by simp)]
    rw [hsplit, FrameHeader.fromSlice_render hparse]
  · exact drop_frameBytes header ciphertext (by omega)
  · rw [hlength, UInt32.toNat_ofNat', Nat.mod_eq_of_lt (by omega)]

/-- The channel after a message was received. -/
def accepted (channel : EncryptedChannel) (message : ChannelMessage) (next : UInt64) :
    EncryptedChannel :=
  { channel with
    receiveSequence := next
    state := if message = .close then .closing else channel.state }

theorem acceptPlaintext_run (header : FrameHeader) (plaintext : Bytes)
    (channel : EncryptedChannel) :
    acceptPlaintext ext header plaintext channel =
      match ext.fromSlice ChannelMessage.fromJson plaintext with
      | none => (.error .invalidMessageType, channel)
      | some message =>
          if message.messageType ≠ header.messageType then (.error .invalidMessageType, channel)
          else match checkedSucc channel.receiveSequence with
            | none => (.error .invalidSequence, channel)
            | some next => (.ok message, channel.accepted message next) := by
  unfold acceptPlaintext
  cases ext.fromSlice ChannelMessage.fromJson plaintext with
  | none => rfl
  | some message =>
      simp only [Fallible.orThrow_some, Fallible.pure_bind_run, Fallible.failWhen_bind_run,
        Fallible.get_bind_run]
      cases checkedSucc channel.receiveSequence with
      | none => rfl
      | some next =>
          by_cases hclose : message = .close <;> simp [hclose, accepted]

/-- A message is received from a well-formed frame whose ciphertext the session opens. -/
theorem receive_eq_ok {frame : Bytes} {channel final : EncryptedChannel}
    {message : ChannelMessage} :
    receive ext frame channel = (.ok message, final) ↔
      ∃ header ciphertext plaintext session next,
        Framed ext channel frame header ciphertext ∧
        SecureSession.decrypt ext ciphertext header.associatedData channel.session =
          (.ok plaintext, session) ∧
        ext.fromSlice ChannelMessage.fromJson plaintext = some message ∧
        message.messageType = header.messageType ∧
        checkedSucc channel.receiveSequence = some next ∧
        { channel.accepted message next with session } = final := by
  unfold receive
  rw [Fallible.bind_eq_ok]
  constructor
  · rintro ⟨⟨header, ciphertext⟩, middle, hread, hrest⟩
    obtain ⟨hframed, rfl⟩ := readFrame_eq_ok.mp hread
    simp only [Fallible.bind_run, onSession_run] at hrest
    rcases hrun : SecureSession.decrypt ext ciphertext header.associatedData channel.session with
      ⟨plaintext | reason | _, session⟩
    · simp only [hrun, acceptPlaintext_run] at hrest
      cases hdecoded : ext.fromSlice ChannelMessage.fromJson plaintext with
      | none => simp [hdecoded] at hrest
      | some decoded =>
          rw [hdecoded] at hrest
          simp only at hrest
          split_ifs at hrest with htype
          · simp at hrest
          cases hnext : checkedSucc channel.receiveSequence with
          | none => simp [hnext] at hrest
          | some next =>
              simp only [hnext, Prod.mk.injEq, Outcome.ok.injEq] at hrest
              obtain ⟨rfl, rfl⟩ := hrest
              exact ⟨header, ciphertext, plaintext, session, next, hframed, hrun, hdecoded,
                not_not.mp htype, rfl, rfl⟩
    · simp [hrun] at hrest
    · simp [hrun] at hrest
  · rintro ⟨header, ciphertext, plaintext, session, next, hframed, hrun, hdecoded, htype, hnext,
      rfl⟩
    refine ⟨(header, ciphertext), channel, readFrame_eq_ok.mpr ⟨hframed, rfl⟩, ?_⟩
    simp only [Fallible.bind_run, onSession_run, hrun, acceptPlaintext_run, hdecoded, hnext]
    rw [if_neg (not_not.mpr htype)]
    rfl

variable (ext) in
/-- The ways a call of `receive` can end. Only an opened ciphertext changes anything, and then the
session is all that a failure changes. -/
theorem receive_cases (frame : Bytes) (channel : EncryptedChannel) :
    (∃ message final, receive ext frame channel = (.ok message, final)) ∨
    (∃ reason, receive ext frame channel = (.error reason, channel)) ∨
    (∃ reason header ciphertext plaintext session,
      Framed ext channel frame header ciphertext ∧
      SecureSession.decrypt ext ciphertext header.associatedData channel.session =
        (.ok plaintext, session) ∧
      receive ext frame channel = (.error reason, { channel with session })) := by
  rcases readFrame_cases ext frame channel with ⟨header, ciphertext, hread⟩ |
    ⟨reason, hread⟩
  swap
  · exact .inr (.inl ⟨reason, Fallible.bind_error hread⟩)
  have hframed := (readFrame_eq_ok.mp hread).1
  rw [receive, Fallible.bind_ok hread]
  simp only [Fallible.bind_run, onSession_run]
  by_cases hopens : ∃ plaintext, (SecureSession.decrypt ext ciphertext header.associatedData
      channel.session).1 = .ok plaintext
  · obtain ⟨plaintext, hopens⟩ := hopens
    rcases hrun : SecureSession.decrypt ext ciphertext header.associatedData channel.session with
      ⟨outcome, session⟩
    rw [hrun] at hopens
    obtain rfl : outcome = .ok plaintext := hopens
    -- Behind the decryption every failure keeps the session that was advanced.
    have hfailed : ∀ reason : ChannelError,
        ∃ reason' header' ciphertext' plaintext' session',
          Framed ext channel frame header' ciphertext' ∧
          SecureSession.decrypt ext ciphertext' header'.associatedData channel.session =
            (.ok plaintext', session') ∧
          ((.error reason, { channel with session }) :
            Outcome ChannelError ChannelMessage × EncryptedChannel) =
            (.error reason', { channel with session := session' }) :=
      fun reason => ⟨reason, header, ciphertext, plaintext, session, hframed, hrun, rfl⟩
    simp only [acceptPlaintext_run]
    cases ext.fromSlice ChannelMessage.fromJson plaintext with
    | none => exact .inr (.inr (hfailed _))
    | some message =>
        by_cases htype : message.messageType = header.messageType
        · cases hnext : checkedSucc channel.receiveSequence with
          | none =>
              simp only [if_neg (not_not.mpr htype)]
              exact .inr (.inr (hfailed _))
          | some next =>
              simp only [if_neg (not_not.mpr htype)]
              exact .inl ⟨_, _, rfl⟩
        · simp only [if_pos htype]
          exact .inr (.inr (hfailed _))
  · obtain ⟨reason, hrun⟩ := SecureSession.decrypt_fails (not_exists.mp hopens)
    exact .inr (.inl ⟨_, by rw [hrun]⟩)

/-- No bytes make `receive` run out of range. -/
theorem receive_ne_panic (frame : Bytes) (channel : EncryptedChannel) :
    (receive ext frame channel).1 ≠ .panic := by
  rcases receive_cases ext frame channel with ⟨message, final, hreceive⟩ |
    ⟨reason, hreceive⟩ | ⟨reason, _, _, _, session, _, _, hreceive⟩ <;> simp [hreceive]

/-! ## What sending and receiving leave alone -/

theorem send_of_not_established (message : ChannelMessage) {channel : EncryptedChannel}
    (hstate : channel.state ≠ .established) :
    send ext message channel = (.error .channelClosed, channel) := by
  rw [send_run, if_pos hstate]

theorem receive_of_not_established (frame : Bytes) {channel : EncryptedChannel}
    (hstate : channel.state ≠ .established) :
    receive ext frame channel = (.error .channelClosed, channel) := by
  have hread : readFrame ext frame channel = (.error .channelClosed, channel) := by
    rw [readFrame_run, if_pos hstate]
  rw [receive, Fallible.bind_error hread]

/-- A frame whose message was received is refused when it comes again. -/
theorem receive_again {frame : Bytes} {channel final : EncryptedChannel} {message : ChannelMessage}
    (hreceive : receive ext frame channel = (.ok message, final)) (hopen : message ≠ .close) :
    receive ext frame final = (.error .replayDetected, final) := by
  obtain ⟨header, ciphertext, plaintext, session, next, hframed, hdecrypt, _, _, hnext, rfl⟩ :=
    receive_eq_ok.mp hreceive
  obtain ⟨_, _, _, _, rfl⟩ := SecureSession.decrypt_eq_ok.mp hdecrypt
  obtain ⟨hstate, hfits, ⟨hnonzero, hheader, hwithin⟩, hparsed, hversion, hsession, hsequence, _⟩ :=
    hframed
  have hsize : ¬ (frame.length > channel.maximumFrameSize ∨ frame.length < 4) := by omega
  have hbounds : ¬ (headerLength frame = 0 ∨ headerLength frame > channel.maximumFrameSize ∨
      frame.length < 4 + headerLength frame) := by omega
  have hold : header.sequenceNumber < next := by
    rw [hsequence, UInt64.lt_iff_toNat_lt, checkedSucc_eq_some.mp hnext]
    exact Nat.lt_succ_self _
  refine Fallible.bind_error ?_
  rw [readFrame_run]
  simp only [accepted, if_neg hopen, hstate, ne_eq, not_true_eq_false, if_false, hsize, hbounds,
    hparsed, hversion, hsession, hold, if_true]

/-- A channel differs from another at most in what sending touches. -/
structure SentOn (channel final : EncryptedChannel) : Prop where
  receiveSequence : final.receiveSequence = channel.receiveSequence
  protocolVersion : final.protocolVersion = channel.protocolVersion
  maximumFrameSize : final.maximumFrameSize = channel.maximumFrameSize
  maximumPendingMessages : final.maximumPendingMessages = channel.maximumPendingMessages
  sessionId : final.session.sessionId = channel.session.sessionId
  peerId : final.session.peerId = channel.session.peerId
  route : final.session.route = channel.session.route
  sessionState : final.session.state = channel.session.state
  sendKey : final.session.sendKey = channel.session.sendKey
  receiveKey : final.session.receiveKey = channel.session.receiveKey
  lastReceivedNonce : final.session.lastReceivedNonce = channel.session.lastReceivedNonce

theorem SentOn.refl (channel : EncryptedChannel) : channel.SentOn channel :=
  ⟨rfl, rfl, rfl, rfl, rfl, rfl, rfl, rfl, rfl, rfl, rfl⟩

/-- A channel differs from another at most in what receiving touches. -/
structure ReceivedOn (channel final : EncryptedChannel) : Prop where
  sendSequence : final.sendSequence = channel.sendSequence
  pendingOutbound : final.pendingOutbound = channel.pendingOutbound
  protocolVersion : final.protocolVersion = channel.protocolVersion
  maximumFrameSize : final.maximumFrameSize = channel.maximumFrameSize
  maximumPendingMessages : final.maximumPendingMessages = channel.maximumPendingMessages
  sessionId : final.session.sessionId = channel.session.sessionId
  peerId : final.session.peerId = channel.session.peerId
  route : final.session.route = channel.session.route
  sessionState : final.session.state = channel.session.state
  sendKey : final.session.sendKey = channel.session.sendKey
  receiveKey : final.session.receiveKey = channel.session.receiveKey
  sendNonce : final.session.sendNonce = channel.session.sendNonce
  sealings : final.session.sealings = channel.session.sealings

theorem ReceivedOn.refl (channel : EncryptedChannel) : channel.ReceivedOn channel :=
  ⟨rfl, rfl, rfl, rfl, rfl, rfl, rfl, rfl, rfl, rfl, rfl, rfl, rfl⟩

theorem ReceivedOn.trans {first second third : EncryptedChannel} (hfirst : first.ReceivedOn second)
    (hsecond : second.ReceivedOn third) : first.ReceivedOn third where
  sendSequence := hsecond.sendSequence.trans hfirst.sendSequence
  pendingOutbound := hsecond.pendingOutbound.trans hfirst.pendingOutbound
  protocolVersion := hsecond.protocolVersion.trans hfirst.protocolVersion
  maximumFrameSize := hsecond.maximumFrameSize.trans hfirst.maximumFrameSize
  maximumPendingMessages := hsecond.maximumPendingMessages.trans hfirst.maximumPendingMessages
  sessionId := hsecond.sessionId.trans hfirst.sessionId
  peerId := hsecond.peerId.trans hfirst.peerId
  route := hsecond.route.trans hfirst.route
  sessionState := hsecond.sessionState.trans hfirst.sessionState
  sendKey := hsecond.sendKey.trans hfirst.sendKey
  receiveKey := hsecond.receiveKey.trans hfirst.receiveKey
  sendNonce := hsecond.sendNonce.trans hfirst.sendNonce
  sealings := hsecond.sealings.trans hfirst.sealings

variable (ext) in
theorem send_sentOn (message : ChannelMessage) (channel : EncryptedChannel) :
    channel.SentOn (send ext message channel).2 := by
  have hsession : ∀ plaintext associatedData, ∃ nonce sealings,
      (SecureSession.encrypt ext plaintext associatedData channel.session).2 =
        { channel.session with sendNonce := nonce, sealings } := by
    intro plaintext associatedData
    rcases SecureSession.encrypt_state ext plaintext associatedData channel.session with
      hsame | ⟨next, _, hsealed⟩
    · exact ⟨channel.session.sendNonce, channel.session.sealings, hsame⟩
    · exact ⟨_, _, hsealed⟩
  rcases send_cases ext message channel with ⟨frame, final, hsend⟩ | ⟨reason, hsend⟩ |
    ⟨reason, next, _, hsend⟩ | ⟨reason, _, hsend⟩
  · obtain ⟨_, next, ciphertext, session, _, hrun, _, _, _, rfl⟩ := send_eq_ok.mp hsend
    obtain ⟨nonce, sealings, hencrypt⟩ := hsession message.toJson.render
      (channel.nextHeader message).associatedData
    rw [hrun] at hencrypt
    obtain rfl : session = _ := hencrypt
    rw [hsend]
    exact ⟨rfl, rfl, rfl, rfl, rfl, rfl, rfl, rfl, rfl, rfl, rfl⟩
  · rw [hsend]
    exact .refl channel
  all_goals
    obtain ⟨nonce, sealings, hencrypt⟩ := hsession message.toJson.render
      (channel.nextHeader message).associatedData
    rw [hsend, hencrypt]
    exact ⟨rfl, rfl, rfl, rfl, rfl, rfl, rfl, rfl, rfl, rfl, rfl⟩

variable (ext) in
theorem receive_receivedOn (frame : Bytes) (channel : EncryptedChannel) :
    channel.ReceivedOn (receive ext frame channel).2 := by
  rcases receive_cases ext frame channel with ⟨message, final, hreceive⟩ |
    ⟨reason, hreceive⟩ | ⟨reason, header, ciphertext, plaintext, session, _, hrun, hreceive⟩
  · obtain ⟨header, ciphertext, plaintext, session, next, _, hrun, _, _, _, rfl⟩ :=
      receive_eq_ok.mp hreceive
    obtain ⟨_, _, _, _, rfl⟩ := SecureSession.decrypt_eq_ok.mp hrun
    rw [hreceive]
    exact ⟨rfl, rfl, rfl, rfl, rfl, rfl, rfl, rfl, rfl, rfl, rfl, rfl, rfl⟩
  · rw [hreceive]
    exact .refl channel
  · obtain ⟨_, _, _, _, rfl⟩ := SecureSession.decrypt_eq_ok.mp hrun
    rw [hreceive]
    exact ⟨rfl, rfl, rfl, rfl, rfl, rfl, rfl, rfl, rfl, rfl, rfl, rfl, rfl⟩

theorem onSession_session {α : Type} (routine : Fallible SecureSession SessionError α)
    (channel : EncryptedChannel) :
    (onSession routine channel).2 = { channel with session := (routine channel.session).2 } := by
  rw [onSession_run]
  rcases routine channel.session with ⟨_ | _ | _, session⟩ <;> rfl

/-- Closing changes the states of the channel and of its session, and nothing else. -/
theorem close_state (channel : EncryptedChannel) :
    ∃ state sessionState, (close channel).2 =
        { channel with state, session := { channel.session with state := sessionState } } ∧
      (state = channel.state ∨ state = .closed) := by
  unfold close
  rw [Fallible.get_bind_run]
  cases hstate : channel.state with
  | established | closing =>
      simp only [Fallible.modify_bind_run, onSession_session]
      rcases SecureSession.close_state channel.session with hsame | hclosed
      · exact ⟨.closed, channel.session.state, by rw [hsame], .inr rfl⟩
      · exact ⟨.closed, .closed, by rw [hclosed], .inr rfl⟩
  | closed | failed | opening =>
      exact ⟨channel.state, channel.session.state, rfl, .inl hstate⟩

/-! ## The calls behind a frame -/

/-- The call of the cipher that makes the next frame of a channel. -/
structure SealsWith (ext : Externals) (channel : EncryptedChannel) (message : ChannelMessage)
    (frame : Bytes) (call : CipherCall) : Prop where
  seals : call.Seals ext
  key : call.key = channel.session.sendKey
  nonce : call.nonce = nonceFromCounter channel.session.sendNonce
  plaintext : call.message = message.toJson.render
  associatedData : call.associatedData = (channel.nextHeader message).associatedData
  frame : channel.nextFrame message
    (Bytes.bigEndian 8 channel.session.sendNonce.toNat ++ call.ciphertext) = frame

/-- The call of the cipher that opens a frame on a channel. -/
structure OpensWith (ext : Externals) (channel : EncryptedChannel) (frame : Bytes)
    (call : CipherCall) : Prop where
  opens : call.Opens ext
  key : call.key = channel.session.receiveKey
  framed : ∃ header ciphertext, Framed ext channel frame header ciphertext ∧
    call.nonce = nonceFromCounter (counterOf ciphertext) ∧
    call.associatedData = header.associatedData ∧ call.ciphertext = ciphertext.drop 8

theorem sealsWith_of_send {message : ChannelMessage} {channel final : EncryptedChannel}
    {frame : Bytes} (hsend : send ext message channel = (.ok frame, final)) :
    ∃ call, channel.SealsWith ext message frame call := by
  obtain ⟨_, _, _, _, _, hencrypt, _, _, hframe, _⟩ := send_eq_ok.mp hsend
  obtain ⟨_, _, ciphertext, _, hsealed, rfl, _⟩ := SecureSession.encrypt_eq_ok.mp hencrypt
  exact ⟨⟨channel.session.sendKey, nonceFromCounter channel.session.sendNonce,
    message.toJson.render, (channel.nextHeader message).associatedData, ciphertext⟩, hsealed, rfl,
    rfl, rfl, rfl, hframe⟩

theorem opensWith_of_receive {message : ChannelMessage} {channel final : EncryptedChannel}
    {frame : Bytes} (hreceive : receive ext frame channel = (.ok message, final)) :
    ∃ call, channel.OpensWith ext frame call ∧
      ext.fromSlice ChannelMessage.fromJson call.message = some message := by
  obtain ⟨header, ciphertext, plaintext, _, _, hframed, hdecrypt, hdecoded, _⟩ :=
    receive_eq_ok.mp hreceive
  obtain ⟨_, _, _, hopened, _⟩ := SecureSession.decrypt_eq_ok.mp hdecrypt
  exact ⟨⟨channel.session.receiveKey, nonceFromCounter (counterOf ciphertext), plaintext,
    header.associatedData, ciphertext.drop 8⟩,
    ⟨hopened, rfl, header, ciphertext, hframed, rfl, rfl, rfl⟩, hdecoded⟩

/-- What is opened of a frame is the ciphertext that was put into it. -/
theorem SealsWith.ciphertext {sender receiver : EncryptedChannel} {message : ChannelMessage}
    {frame : Bytes} {first second : CipherCall} (hsealed : sender.SealsWith ext message frame first)
    (hopened : receiver.OpensWith ext frame second)
    (hlimit : receiver.maximumFrameSize < 2 ^ 32) : second.ciphertext = first.ciphertext := by
  obtain ⟨header, body, hframed, -, -, hbody⟩ := hopened.framed
  have hrest : body = Bytes.bigEndian 8 sender.session.sendNonce.toNat ++ first.ciphertext := by
    have hfits := hframed.fits
    rw [← hsealed.frame, nextFrame, frameBytes_length] at hfits
    rw [← hframed.rest, ← hsealed.frame, nextFrame, drop_frameBytes _ _ (by omega)]
  rw [hbody, hrest, List.drop_left' (by simp)]

end EncryptedChannel

/-! ## The data plane -/

namespace DataPlane

theorem open_eq_ok {maximumPayloadSize : Nat} {channel final : EncryptedChannel} {result : Unit} :
    DataPlane.open maximumPayloadSize channel = (.ok result, final) ↔
      (channel.state = .established ∧ maximumPayloadSize ≠ 0) ∧ channel = final := by
  simp only [DataPlane.open, Fallible.get_bind_run, Fallible.failWhen_eq_ok, not_or, not_not]

theorem send_eq_ok {maximumPayloadSize : Nat} {payload frame : Bytes}
    {channel final : EncryptedChannel} :
    send ext maximumPayloadSize payload channel = (.ok frame, final) ↔
      payload.length ≤ maximumPayloadSize ∧
      EncryptedChannel.send ext (.dataPlane payload) channel = (.ok frame, final) := by
  unfold send
  rw [Fallible.failWhen_bind_run]
  by_cases hsize : payload.length > maximumPayloadSize
  · rw [if_pos hsize]
    simp [Nat.not_le.mpr hsize]
  · rw [if_neg hsize, Fallible.mapError_eq_ok, and_iff_right (Nat.le_of_not_gt hsize)]

theorem receive_eq_ok {maximumPayloadSize : Nat} {envelope : DataPlaneEnvelope}
    {channel final : EncryptedChannel} {message : DataPlaneMessage} :
    receive ext maximumPayloadSize envelope channel = (.ok message, final) ↔
      envelope.kind = dataPlaneKind ∧ envelope.sessionId = channel.session.sessionId ∧
      EncryptedChannel.receive ext envelope.frame channel =
        (.ok (.dataPlane message.payload), final) ∧
      message.payload.length ≤ maximumPayloadSize ∧
      message = ⟨final.session.sessionId, final.receiveSequence - 1, .data, message.payload⟩ := by
  unfold receive
  rw [Fallible.get_bind_run, Fallible.failWhen_bind_run]
  by_cases hbound : envelope.kind ≠ dataPlaneKind ∨
      envelope.sessionId ≠ channel.session.sessionId
  · rw [if_pos hbound]
    rcases hbound with hkind | hsession <;> simp [*]
  · rw [if_neg hbound]
    obtain ⟨hkind, hsession⟩ := not_or.mp hbound
    rw [and_iff_right (not_not.mp hkind), and_iff_right (not_not.mp hsession),
      Fallible.bind_eq_ok]
    simp only [Fallible.mapError_eq_ok]
    constructor
    · rintro ⟨opened, next, hreceive, hrest⟩
      cases opened with
      | dataPlane payload =>
          simp only [Fallible.failWhen_bind_run] at hrest
          by_cases hsize : payload.length > maximumPayloadSize
          · rw [if_pos hsize] at hrest
            cases hrest
          · rw [if_neg hsize] at hrest
            cases hrest
            exact ⟨hreceive, Nat.le_of_not_gt hsize, rfl⟩
      | ping | pong | sessionData _ | close => cases hrest
    · rintro ⟨hreceive, hsize, hmessage⟩
      refine ⟨_, _, hreceive, ?_⟩
      simp only [Fallible.failWhen_bind_run, if_neg (Nat.not_lt.mpr hsize)]
      rw [hmessage]
      rfl

theorem open_state (maximumPayloadSize : Nat) (channel : EncryptedChannel) :
    (DataPlane.open maximumPayloadSize channel).2 = channel :=
  (Fallible.Keeps.get.bind fun _ => .failWhen : Fallible.Keeps id _) channel

variable (ext) in
/-- The operations of the data plane keep the session id. -/
theorem send_keeps (maximumPayloadSize : Nat) (payload : Bytes) :
    Fallible.Keeps (fun channel : EncryptedChannel => channel.session.sessionId)
      (send ext maximumPayloadSize payload) := by
  unfold send
  exact .bind .failWhen fun _ => .mapError fun channel =>
    (EncryptedChannel.send_sentOn _ _ channel).sessionId

variable (ext) in
theorem receive_keeps (maximumPayloadSize : Nat) (envelope : DataPlaneEnvelope) :
    Fallible.Keeps (fun channel : EncryptedChannel => channel.session.sessionId)
      (receive ext maximumPayloadSize envelope) := by
  unfold receive
  refine .bind .get fun _ => .bind .failWhen fun _ => .bind (.mapError fun channel =>
    (EncryptedChannel.receive_receivedOn _ _ channel).sessionId) fun message => ?_
  cases message with
  | dataPlane payload => exact .bind .failWhen fun _ => .bind .get fun _ => .pure _
  | ping | pong | sessionData _ | close => exact .throw _

variable (ext) in
theorem send_sentOn (maximumPayloadSize : Nat) (payload : Bytes) (channel : EncryptedChannel) :
    channel.SentOn (send ext maximumPayloadSize payload channel).2 := by
  unfold send
  rw [Fallible.failWhen_bind_run]
  split_ifs
  · exact .refl channel
  · rw [Fallible.mapError_state]
    exact EncryptedChannel.send_sentOn ext (.dataPlane payload) channel

variable (ext) in
theorem receive_receivedOn (maximumPayloadSize : Nat) (envelope : DataPlaneEnvelope)
    (channel : EncryptedChannel) :
    channel.ReceivedOn (receive ext maximumPayloadSize envelope channel).2 := by
  have hreceived := EncryptedChannel.receive_receivedOn ext envelope.frame channel
  unfold receive
  rw [Fallible.get_bind_run, Fallible.failWhen_bind_run]
  split_ifs
  · exact .refl channel
  rw [Fallible.bind_run, Fallible.mapError]
  rcases hrun : EncryptedChannel.receive ext envelope.frame channel with ⟨message | _ | _, next⟩ <;>
    rw [hrun] at hreceived
  · cases message with
    | dataPlane payload =>
        simp only [Fallible.failWhen_bind_run]
        split_ifs <;> exact hreceived
    | ping | pong | sessionData _ | close => exact hreceived
  · exact hreceived
  · exact hreceived

theorem established_of_send {maximumPayloadSize : Nat} {payload frame : Bytes}
    {channel final : EncryptedChannel}
    (hsend : send ext maximumPayloadSize payload channel = (.ok frame, final)) :
    channel.state = .established :=
  (EncryptedChannel.send_eq_ok.mp (send_eq_ok.mp hsend).2).1

theorem established_of_receive {maximumPayloadSize : Nat} {envelope : DataPlaneEnvelope}
    {channel final : EncryptedChannel} {message : DataPlaneMessage}
    (hreceive : receive ext maximumPayloadSize envelope channel = (.ok message, final)) :
    channel.state = .established := by
  obtain ⟨_, _, haccepted, _⟩ := receive_eq_ok.mp hreceive
  obtain ⟨_, _, _, _, _, hframed, _⟩ := EncryptedChannel.receive_eq_ok.mp haccepted
  exact hframed.established

theorem receivedOn_of_receive {maximumPayloadSize : Nat} {envelope : DataPlaneEnvelope}
    {channel final : EncryptedChannel} {message : DataPlaneMessage}
    (hreceive : receive ext maximumPayloadSize envelope channel = (.ok message, final)) :
    channel.ReceivedOn final := by
  obtain ⟨_, _, haccepted, _⟩ := receive_eq_ok.mp hreceive
  have hreceived := EncryptedChannel.receive_receivedOn ext envelope.frame channel
  rwa [haccepted] at hreceived

/-- What a channel needs to send a payload. -/
structure CanSend (ext : Externals) (channel : EncryptedChannel) (payload : Bytes) : Prop where
  size : payload.length ≤ defaultMaximumPayloadSize
  established : channel.state = .established
  session : channel.session.state = .established
  sequence : channel.sendSequence.toNat + 1 < 2 ^ 64
  nonce : channel.session.sendNonce.toNat + 1 < 2 ^ 64
  queue : channel.pendingOutbound.length < channel.maximumPendingMessages
  fits : ∃ ciphertext, ext.aeadEncrypt channel.session.sendKey
      (nonceFromCounter channel.session.sendNonce) (ChannelMessage.dataPlane payload).toJson.render
      (channel.nextHeader (.dataPlane payload)).associatedData = some ciphertext ∧
    (channel.nextFrame (.dataPlane payload) (Bytes.bigEndian 8 channel.session.sendNonce.toNat ++
      ciphertext)).length ≤ channel.maximumFrameSize

theorem send_isOk {payload : Bytes} {channel : EncryptedChannel} :
    (send ext defaultMaximumPayloadSize payload channel).1.IsOk ↔ CanSend ext channel payload := by
  simp only [Fallible.isOk_iff, send_eq_ok, EncryptedChannel.send_eq_ok,
    SecureSession.encrypt_eq_ok]
  constructor
  · rintro ⟨_, _, hsize, hstate, _, _, _, hsequence, ⟨hsession, _, ciphertext, hnonce, hsealed, rfl,
      _⟩, hfits, hqueue, _⟩
    exact ⟨hsize, hstate, hsession, checkedSucc_isSome.mp ⟨_, hsequence⟩,
      checkedSucc_isSome.mp ⟨_, hnonce⟩, hqueue, ciphertext, hsealed, hfits⟩
  · intro hcan
    obtain ⟨next, hnext⟩ := checkedSucc_isSome.mpr hcan.sequence
    obtain ⟨nonce, hnonce⟩ := checkedSucc_isSome.mpr hcan.nonce
    obtain ⟨ciphertext, hsealed, hfits⟩ := hcan.fits
    exact ⟨_, _, hcan.size, hcan.established, next, _, _, hnext,
      ⟨hcan.session, nonce, ciphertext, hnonce, hsealed, rfl, rfl⟩, hfits, hcan.queue, rfl, rfl⟩

/-- Receiving does not touch what a channel sends. -/
theorem canSend_of_receivedOn {payload : Bytes} {channel final : EncryptedChannel}
    (hreceived : channel.ReceivedOn final) (hstate : channel.state = .established)
    (hstate' : final.state = .established) :
    CanSend ext final payload ↔ CanSend ext channel payload := by
  obtain ⟨session, state, version, limit, maximum, pending, sequence, received⟩ := channel
  obtain ⟨session', state', version', limit', maximum', pending', sequence', received'⟩ := final
  obtain ⟨rfl, rfl, rfl, rfl, rfl, hid, _, _, hestablished, hkey, _, hnonce, _⟩ := hreceived
  simp only at hid hestablished hkey hnonce hstate hstate'
  subst hstate hstate'
  constructor <;>
  · rintro ⟨hsize, hopen, hsession, hsequence, hcount, hqueue, hfits⟩
    refine ⟨hsize, rfl, ?_, hsequence, ?_, hqueue, ?_⟩ <;>
      simp_all [EncryptedChannel.nextHeader, EncryptedChannel.nextFrame]

/-- Whatever a channel takes out of a frame that was sealed is what was put in. -/
theorem receive_of_send (hparse : ext.ParsesJson) {maximum maximum' : Nat} {payload frame : Bytes}
    {envelope : DataPlaneEnvelope} {message : DataPlaneMessage}
    {sender sent receiver received : EncryptedChannel}
    (hideal : CipherCall.Ideal (sender.SealsWith ext (.dataPlane payload) frame)
      (receiver.OpensWith ext envelope.frame))
    (hsend : send ext maximum payload sender = (.ok frame, sent))
    (hreceive : receive ext maximum' envelope receiver = (.ok message, received))
    (hframe : envelope.frame = frame) (hlimit : receiver.maximumFrameSize < 2 ^ 32) :
    message.payload = payload := by
  obtain ⟨_, hsend⟩ := send_eq_ok.mp hsend
  obtain ⟨first, hsealed⟩ := EncryptedChannel.sealsWith_of_send hsend
  obtain ⟨_, _, hreceive, _⟩ := receive_eq_ok.mp hreceive
  obtain ⟨second, hopened, hdecoded⟩ := EncryptedChannel.opensWith_of_receive hreceive
  obtain rfl := hideal first second hsealed hopened (hsealed.ciphertext (hframe ▸ hopened) hlimit)
  rw [hsealed.plaintext, ChannelMessage.fromSlice_render hparse] at hdecoded
  exact (ChannelMessage.dataPlane.inj (Option.some.inj hdecoded)).symm

/-- An envelope whose message was received is refused as a duplicate when it comes again. -/
theorem receive_again {maximum maximum' : Nat} {envelope : DataPlaneEnvelope}
    {channel final : EncryptedChannel} {message : DataPlaneMessage}
    (hreceive : receive ext maximum envelope channel = (.ok message, final)) :
    receive ext maximum' envelope final = (.error .duplicateMessage, final) := by
  have hsessionId := (receivedOn_of_receive hreceive).sessionId
  obtain ⟨hkind, hsession, hreceive, -⟩ := receive_eq_ok.mp hreceive
  have hagain := EncryptedChannel.receive_again hreceive nofun
  have hsame : ¬ (envelope.kind ≠ dataPlaneKind ∨
      envelope.sessionId ≠ final.session.sessionId) := by
    simp [hkind, hsession, hsessionId]
  rw [receive, Fallible.get_bind_run, Fallible.failWhen_neg _ hsame, Fallible.pure_bind_run]
  refine Fallible.bind_error ?_
  rw [Fallible.mapError, hagain]
  rfl

variable (ext) in
/-- No envelope makes `receive` run out of range. -/
theorem receive_ne_panic (maximumPayloadSize : Nat) (envelope : DataPlaneEnvelope)
    (channel : EncryptedChannel) :
      (receive ext maximumPayloadSize envelope channel).1 ≠ .panic := by
  have hpanic : (EncryptedChannel.receive ext envelope.frame channel).1 ≠ .panic :=
    EncryptedChannel.receive_ne_panic envelope.frame channel
  unfold receive
  rw [Fallible.get_bind_run, Fallible.failWhen_bind_run]
  split_ifs
  · simp
  rw [Fallible.bind_run, Fallible.mapError]
  rcases hrun : EncryptedChannel.receive ext envelope.frame channel with ⟨message | _ | _, next⟩
  · cases message with
    | dataPlane payload =>
        simp only [Fallible.failWhen_bind_run]
        split_ifs <;> simp
    | ping | pong | sessionData _ | close => simp
  · simp
  · rw [hrun] at hpanic
    exact absurd rfl hpanic

/-- A channel that took data stays open. -/
theorem established_after_receive {maximumPayloadSize : Nat} {envelope : DataPlaneEnvelope}
    {channel final : EncryptedChannel} {message : DataPlaneMessage}
    (hreceive : receive ext maximumPayloadSize envelope channel = (.ok message, final)) :
    final.state = .established := by
  obtain ⟨_, _, haccepted, _⟩ := receive_eq_ok.mp hreceive
  obtain ⟨_, _, _, _, _, hframed, _, _, _, _, rfl⟩ := EncryptedChannel.receive_eq_ok.mp haccepted
  simp [EncryptedChannel.accepted, hframed.established]

/-- The receiver is ready for the next frame of the sender. -/
structure Linked (sender receiver : EncryptedChannel) : Prop where
  established : receiver.state = .established
  session : receiver.session.state = .established
  sessionId : receiver.session.sessionId = sender.session.sessionId
  key : receiver.session.receiveKey = sender.session.sendKey
  version : receiver.protocolVersion = sender.protocolVersion
  limit : sender.maximumFrameSize ≤ receiver.maximumFrameSize
  bounded : receiver.maximumFrameSize < 2 ^ 32
  sequence : receiver.receiveSequence = sender.sendSequence
  nonce : ∀ last ∈ receiver.session.lastReceivedNonce, last < sender.session.sendNonce

/-- The next frame of the sender is accepted with its payload, where payloads are allowed to be as
large. -/
theorem Linked.receives_within (hparse : ext.ParsesJson) (hcipher : ext.CipherOpens)
    {maximum maximum' : Nat} {sender receiver next : EncryptedChannel} {payload frame : Bytes}
    (hlinked : Linked sender receiver) (hmaximum : maximum ≤ maximum')
    (hsend : send ext maximum payload sender = (.ok frame, next)) :
    ∃ message opened, message.payload = payload ∧ opened.state = .established ∧
      receive ext maximum' ⟨dataPlaneKind, receiver.session.sessionId, frame⟩
        receiver = (.ok message, opened) := by
  obtain ⟨hsize, hsend⟩ := send_eq_ok.mp hsend
  obtain ⟨_, succ, _, _, hsucc, hencrypt, hfits, _, rfl, _⟩ :=
    EncryptedChannel.send_eq_ok.mp hsend
  obtain ⟨_, _, ciphertext, _, hsealed, rfl, _⟩ := SecureSession.encrypt_eq_ok.mp hencrypt
  have hframed := EncryptedChannel.framed_frameBytes receiver hparse
    hlinked.established (hfits.trans hlinked.limit) hlinked.bounded hlinked.version.symm
    hlinked.sessionId.symm hlinked.sequence.symm rfl
  have hopens := hcipher _ _ _ _ _ hsealed
  have hcounter := counterOf_append sender.session.sendNonce ciphertext
  have hdecrypt : SecureSession.decrypt ext
      (Bytes.bigEndian 8 sender.session.sendNonce.toNat ++ ciphertext)
      (sender.nextHeader (.dataPlane payload)).associatedData receiver.session =
      (.ok (ChannelMessage.dataPlane payload).toJson.render, _) :=
    SecureSession.decrypt_eq_ok.mpr
      ⟨hlinked.session, by simp, by rw [hcounter]; exact hlinked.nonce,
      by rw [hcounter, hlinked.key, List.drop_left' (by simp)]; exact hopens, rfl⟩
  have hreceive := EncryptedChannel.receive_eq_ok.mpr ⟨_, _, _, _, succ, hframed, hdecrypt,
    ChannelMessage.fromSlice_render hparse _, rfl, by rw [hlinked.sequence]; exact hsucc, rfl⟩
  exact ⟨⟨_, _, .data, payload⟩, _, rfl, by simp [EncryptedChannel.accepted, hlinked.established],
    receive_eq_ok.mpr ⟨rfl, rfl, hreceive, hsize.trans hmaximum, rfl⟩⟩

theorem Linked.receives (hparse : ext.ParsesJson) (hcipher : ext.CipherOpens)
    {sender receiver next : EncryptedChannel} {payload frame : Bytes}
    (hlinked : Linked sender receiver)
    (hsend : send ext defaultMaximumPayloadSize payload sender = (.ok frame, next)) :
    ∃ message opened, message.payload = payload ∧ opened.state = .established ∧
      receive ext defaultMaximumPayloadSize ⟨dataPlaneKind, receiver.session.sessionId, frame⟩
        receiver = (.ok message, opened) :=
  hlinked.receives_within hparse hcipher le_rfl hsend

end DataPlane

end Network
