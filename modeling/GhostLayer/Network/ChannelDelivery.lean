import GhostLayer.Network.ChannelIntegrity

/-! # What a channel sends is accepted

Two channels with the same version and frame limit. Sends may be refused after
encryption, which leaves gaps in the nonces and none in the sequence numbers.
Frames delivered in order are accepted one after the other, whatever other bytes
the receiver is fed between them.
-/

namespace Network

open Foundation

variable {ext : Externals}

/-- A pair of channels, and how many of the frames each end has sent were delivered so far. -/
structure Delivery where
  pair : ChannelPair
  delivered : SessionRole → Nat

namespace Delivery

/-- No call of the cipher under the key of the receiver's peer made the ciphertext of a frame. -/
def NonAuthentic (ext : Externals) (pair : ChannelPair) (role : SessionRole) (frame : Bytes) :
    Prop :=
  ∀ header ciphertext, EncryptedChannel.Framed ext (pair.channel role) frame header ciphertext →
    ∀ side, (pair.channel side).session.sendKey = (pair.channel role).session.receiveKey →
      ∀ sealing ∈ (pair.channel side).session.sealings,
        sealing.nonce = counterOf ciphertext → sealing.associatedData = header.associatedData →
        ext.aeadEncrypt (pair.channel side).session.sendKey (nonceFromCounter sealing.nonce)
          sealing.plaintext sealing.associatedData ≠ some (ciphertext.drop 8)

/-- A send that succeeds, or that is refused after encryption. -/
def Refusable (outcome : Outcome ChannelError Bytes) : Prop :=
  (∃ frame, outcome = .ok frame) ∨ outcome = .error .frameTooLarge ∨
    outcome = .error .backpressure

/-- An end sends or drains its queue, is given the next frame of the other end, or is fed bytes
that are not authentic. -/
inductive Step (ext : Externals) : Delivery → Delivery → Prop
  | send (delivery : Delivery) (role : SessionRole) (message : ChannelMessage)
      (hsend : Refusable
        (EncryptedChannel.send ext message (delivery.pair.channel role)).1) :
      Step ext delivery { delivery with pair := { delivery.pair with
        channel := Function.update delivery.pair.channel role
          (EncryptedChannel.send ext message (delivery.pair.channel role)).2
        released := Function.update delivery.pair.released role (delivery.pair.released role ++
          ChannelPair.releases (delivery.pair.channel role) message
            (EncryptedChannel.send ext message (delivery.pair.channel role)).1) } }
  | takePending (delivery : Delivery) (role : SessionRole) :
      Step ext delivery { delivery with pair := { delivery.pair with
        channel := Function.update delivery.pair.channel role
          (delivery.pair.channel role).takePending.2 } }
  | deliver (delivery : Delivery) (role : SessionRole) (entry : Released)
      (hnext : (delivery.pair.released role)[delivery.delivered role]? = some entry) :
      Step ext delivery {
        pair := { delivery.pair with
          channel := Function.update delivery.pair.channel role.other
            (EncryptedChannel.receive ext entry.frame (delivery.pair.channel role.other)).2
          received := Function.update delivery.pair.received role.other
            (delivery.pair.received role.other ++ ChannelPair.receives
              (EncryptedChannel.receive ext entry.frame (delivery.pair.channel role.other)).1) }
        delivered := Function.update delivery.delivered role (delivery.delivered role + 1) }
  | feed (delivery : Delivery) (role : SessionRole) (frame : Bytes)
      (hideal : ChannelPair.IdealCipher ext delivery.pair role frame)
      (hforged : NonAuthentic ext delivery.pair role frame) :
      Step ext delivery { delivery with pair := { delivery.pair with
        channel := Function.update delivery.pair.channel role
          (EncryptedChannel.receive ext frame (delivery.pair.channel role)).2
        received := Function.update delivery.pair.received role
          (delivery.pair.received role ++ ChannelPair.receives
            (EncryptedChannel.receive ext frame (delivery.pair.channel role)).1) } }

/-- Channels just opened with one version and one frame limit below 2^32. -/
structure Opened (ext : Externals) (delivery : Delivery) : Prop where
  pair : ChannelPair.Opened ext delivery.pair
  version : ∀ role, (delivery.pair.channel role).protocolVersion =
    (delivery.pair.channel role.other).protocolVersion
  limit : ∀ role, (delivery.pair.channel role).maximumFrameSize =
    (delivery.pair.channel role.other).maximumFrameSize
  bounded : ∀ role, (delivery.pair.channel role).maximumFrameSize < 2 ^ 32
  delivered : ∀ role, delivery.delivered role = 0

def system (ext : Externals) : System Delivery where
  init := Opened ext
  step := Step ext

/-! ## The invariant -/

/-- The frame that carries a ciphertext under a nonce. -/
def carriage (header : FrameHeader) (nonce : UInt64) (ciphertext : Bytes) : Bytes :=
  let body := Bytes.bigEndian 8 nonce.toNat ++ ciphertext
  EncryptedChannel.frameBytes { header with ciphertextLength := UInt32.ofNat body.length } body

/-- A record of a sent frame tells how the frame was made. -/
structure Recorded (ext : Externals) (sender : EncryptedChannel) (entry : Released) : Prop where
  version : entry.header.protocolVersion = sender.protocolVersion
  session : entry.header.sessionId = sender.session.sessionId
  messageType : entry.header.messageType = entry.message.messageType
  fits : entry.frame.length ≤ sender.maximumFrameSize
  below : entry.nonce < sender.session.sendNonce
  frame : ∃ ciphertext,
    ext.aeadEncrypt sender.session.sendKey (nonceFromCounter entry.nonce)
      entry.message.toJson.render entry.header.associatedData = some ciphertext ∧
    entry.frame = carriage entry.header entry.nonce ciphertext

/-- The receiver is ready for the next frame in order. -/
structure Ready (sender receiver : EncryptedChannel) (released : List Released)
    (received : List ChannelMessage) (delivered : Nat) : Prop where
  session : receiver.session.state = .established
  sequence : receiver.receiveSequence.toNat = delivered
  behind : delivered ≤ released.length
  received : received = (released.map Released.message).take delivered
  above : ∀ last ∈ receiver.session.lastReceivedNonce, last < sender.session.sendNonce ∧
    ∀ (index : Nat) (entry : Released), delivered ≤ index → released[index]? = some entry →
      last < entry.nonce

/-- One direction: frames are numbered from zero without gaps and with increasing nonces, and the
receiver is ready for the next one as long as it is established. -/
structure InOrder (ext : Externals) (sender receiver : EncryptedChannel)
    (released : List Released) (received : List ChannelMessage) (delivered : Nat) : Prop where
  key : receiver.session.receiveKey = sender.session.sendKey
  version : receiver.protocolVersion = sender.protocolVersion
  sessionId : receiver.session.sessionId = sender.session.sessionId
  limit : receiver.maximumFrameSize = sender.maximumFrameSize
  bounded : receiver.maximumFrameSize < 2 ^ 32
  counted : sender.sendSequence.toNat = released.length
  numbered : ∀ (index : Nat) (entry : Released), released[index]? = some entry →
    entry.header.sequenceNumber.toNat = index
  recorded : ∀ entry ∈ released, Recorded ext sender entry
  increasing : (released.map Released.nonce).Pairwise (· < ·)
  ready : receiver.state = .established → Ready sender receiver released received delivered

/-- The next frame in order is accepted with the message that was sent. -/
theorem InOrder.accepts (hparse : ext.ParsesJson) (hcipher : ext.CipherOpens)
    {sender receiver : EncryptedChannel} {released : List Released}
    {received : List ChannelMessage} {delivered : Nat}
    (horder : InOrder ext sender receiver released received delivered)
    (hstate : receiver.state = .established) {entry : Released}
    (hnext : released[delivered]? = some entry) :
    ∃ next, next.toNat = delivered + 1 ∧
      EncryptedChannel.receive ext entry.frame receiver = (.ok entry.message,
        { receiver.accepted entry.message next with session :=
            { receiver.session with lastReceivedNonce := some entry.nonce } }) := by
  have hready := horder.ready hstate
  have hentry := List.mem_of_getElem? hnext
  have hrecord := horder.recorded entry hentry
  obtain ⟨ciphertext, hsealed, hframe⟩ := hrecord.frame
  have hsequence : entry.header.sequenceNumber = receiver.receiveSequence := by
    apply UInt64.toNat_inj.mp
    rw [horder.numbered delivered entry hnext, hready.sequence]
  have hfits : (carriage entry.header entry.nonce ciphertext).length ≤
      receiver.maximumFrameSize := by
    rw [← hframe, horder.limit]
    exact hrecord.fits
  have hframed := EncryptedChannel.framed_frameBytes _ hparse hstate hfits horder.bounded
    (hrecord.version.trans horder.version.symm) (hrecord.session.trans horder.sessionId.symm)
    hsequence rfl
  -- The nonce is above all that the receiver saw, so it is not taken for a replay.
  have hdecrypt : SecureSession.decrypt ext (Bytes.bigEndian 8 entry.nonce.toNat ++ ciphertext)
      entry.header.associatedData receiver.session = (.ok entry.message.toJson.render,
        { receiver.session with lastReceivedNonce := some entry.nonce }) := by
    refine SecureSession.decrypt_eq_ok.mpr ⟨hready.session, by simp, ?_, ?_, ?_⟩
    · intro last hlast
      rw [counterOf_append]
      exact (hready.above last hlast).2 delivered entry (Nat.le_refl _) hnext
    · rw [counterOf_append, List.drop_left' (by simp), horder.key]
      exact hcipher _ _ _ _ _ hsealed
    · rw [counterOf_append]
  -- The sender counted past this frame without an overflow, so the receiver can.
  have hlt : receiver.receiveSequence.toNat + 1 < 2 ^ 64 := by
    have hbefore := (List.getElem?_eq_some_iff.mp hnext).1
    have hsend := sender.sendSequence.toNat_lt
    rw [hready.sequence]
    have hcounted := horder.counted
    omega
  obtain ⟨next, hsucc⟩ := checkedSucc_isSome.mpr hlt
  refine ⟨next, ?_, ?_⟩
  · rw [checkedSucc_eq_some.mp hsucc, hready.sequence]
  · rw [hframe]
    exact EncryptedChannel.receive_eq_ok.mpr ⟨_, _, _, _, next, hframed, hdecrypt,
      ChannelMessage.fromSlice_render hparse entry.message, hrecord.messageType.symm, hsucc, rfl⟩

/-- The receiver stays in order when the next frame is delivered, accepted or not. -/
theorem InOrder.deliver (hparse : ext.ParsesJson) (hcipher : ext.CipherOpens)
    {sender receiver : EncryptedChannel} {released : List Released}
    {received : List ChannelMessage} {delivered : Nat}
    (horder : InOrder ext sender receiver released received delivered) {entry : Released}
    (hnext : released[delivered]? = some entry) :
    InOrder ext sender (EncryptedChannel.receive ext entry.frame receiver).2 released
      (received ++ ChannelPair.receives
        (EncryptedChannel.receive ext entry.frame receiver).1) (delivered + 1) := by
  by_cases hstate : receiver.state = .established
  swap
  · rw [EncryptedChannel.receive_of_not_established entry.frame hstate]
    exact { horder with ready := fun hopen => absurd hopen hstate }
  obtain ⟨next, hcount, hreceive⟩ := horder.accepts hparse hcipher hstate hnext
  have hready := horder.ready hstate
  have hindex := (List.getElem?_eq_some_iff.mp hnext).1
  rw [hreceive]
  refine { horder with ready := fun _ => ⟨hready.session, hcount, hindex, ?_, ?_⟩ }
  · rw [ChannelPair.receives, List.take_add_one, List.getElem?_map, hnext, Option.map_some,
      Option.toList_some, ← hready.received]
  · intro last hlast
    obtain rfl : entry.nonce = last := Option.some.inj hlast
    refine ⟨(horder.recorded entry (List.mem_of_getElem? hnext)).below, ?_⟩
    intro index other hlater hother
    have hordered := List.pairwise_iff_getElem.mp horder.increasing delivered index
      (by simpa using hindex) (by simpa using (List.getElem?_eq_some_iff.mp hother).1)
      (Nat.lt_of_succ_le hlater)
    rw [List.getElem_map, List.getElem_map, (List.getElem?_eq_some_iff.mp hnext).2,
      (List.getElem?_eq_some_iff.mp hother).2] at hordered
    exact hordered

/-- Every field that a direction reads of its sender, but the counters. -/
structure SameSender (sender sender' : EncryptedChannel) : Prop where
  sendKey : sender'.session.sendKey = sender.session.sendKey
  version : sender'.protocolVersion = sender.protocolVersion
  sessionId : sender'.session.sessionId = sender.session.sessionId
  limit : sender'.maximumFrameSize = sender.maximumFrameSize
  nonce : sender.session.sendNonce ≤ sender'.session.sendNonce

theorem Recorded.of_sender {sender sender' : EncryptedChannel} {entry : Released}
    (hrecord : Recorded ext sender entry) (hsame : SameSender sender sender') :
    Recorded ext sender' entry where
  version := hrecord.version.trans hsame.version.symm
  session := hrecord.session.trans hsame.sessionId.symm
  messageType := hrecord.messageType
  fits := hsame.limit ▸ hrecord.fits
  below := UInt64.lt_of_lt_of_le hrecord.below hsame.nonce
  frame := hsame.sendKey ▸ hrecord.frame

/-- A direction stays in order when its sender uses up nonces. -/
theorem InOrder.of_sender {sender sender' receiver : EncryptedChannel} {released : List Released}
    {received : List ChannelMessage} {delivered : Nat}
    (horder : InOrder ext sender receiver released received delivered)
    (hsame : SameSender sender sender') (hsequence : sender'.sendSequence = sender.sendSequence) :
    InOrder ext sender' receiver released received delivered where
  key := horder.key.trans hsame.sendKey.symm
  version := horder.version.trans hsame.version.symm
  sessionId := horder.sessionId.trans hsame.sessionId.symm
  limit := horder.limit.trans hsame.limit.symm
  bounded := horder.bounded
  counted := hsequence ▸ horder.counted
  numbered := horder.numbered
  recorded := fun entry hentry => (horder.recorded entry hentry).of_sender hsame
  increasing := horder.increasing
  ready := by
    intro hstate
    have hready := horder.ready hstate
    refine { hready with above := fun last hlast => ?_ }
    obtain ⟨hbelow, hlater⟩ := hready.above last hlast
    exact ⟨UInt64.lt_of_lt_of_le hbelow hsame.nonce, hlater⟩

/-- A direction does not depend on what its receiver sends. -/
theorem InOrder.of_receiver {sender receiver receiver' : EncryptedChannel}
    {released : List Released} {received : List ChannelMessage} {delivered : Nat}
    (horder : InOrder ext sender receiver released received delivered)
    (hsent : receiver.SentOn receiver')
    (hstate : receiver'.state = .established → receiver.state = .established) :
    InOrder ext sender receiver' released received delivered where
  key := hsent.receiveKey.trans horder.key
  version := hsent.protocolVersion.trans horder.version
  sessionId := hsent.sessionId.trans horder.sessionId
  limit := hsent.maximumFrameSize.trans horder.limit
  bounded := hsent.maximumFrameSize ▸ horder.bounded
  counted := horder.counted
  numbered := horder.numbered
  recorded := horder.recorded
  increasing := horder.increasing
  ready := by
    intro hopen
    have hready := horder.ready (hstate hopen)
    exact ⟨hsent.sessionState.trans hready.session, hsent.receiveSequence ▸ hready.sequence,
      hready.behind, hready.received, hsent.lastReceivedNonce ▸ hready.above⟩

theorem encrypt_nonce_le (plaintext associatedData : Bytes) (session : SecureSession) :
    session.sendNonce ≤
      (SecureSession.encrypt ext plaintext associatedData session).2.sendNonce := by
  rcases SecureSession.encrypt_state ext plaintext associatedData session with
    hsame | ⟨next, hnext, hsealed⟩
  · rw [hsame]
    exact UInt64.le_refl _
  · rw [hsealed, UInt64.le_iff_toNat_le]
    have hsucc := checkedSucc_eq_some.mp hnext
    change session.sendNonce.toNat ≤ next.toNat
    omega

/-- A new frame is recorded with the next number and the next nonce. -/
theorem InOrder.released {sender receiver final : EncryptedChannel} {released : List Released}
    {received : List ChannelMessage} {delivered : Nat}
    (horder : InOrder ext sender receiver released received delivered) {message : ChannelMessage}
    {frame : Bytes} (hsend : EncryptedChannel.send ext message sender = (.ok frame, final)) :
    InOrder ext final receiver (released ++ [⟨message, sender.nextHeader message,
      sender.session.sendNonce, frame⟩]) received delivered := by
  have hsent := EncryptedChannel.send_sentOn ext message sender
  obtain ⟨_, next, output, session, hnext, hrun, hfits, _, hframe, rfl⟩ :=
    EncryptedChannel.send_eq_ok.mp hsend
  rw [hsend] at hsent
  obtain ⟨_, nonce, ciphertext, hnonce, hsealed, rfl, rfl⟩ := SecureSession.encrypt_eq_ok.mp hrun
  have hlt : sender.session.sendNonce < nonce := Conversation.lt_of_checkedSucc hnonce
  have hsame : SameSender sender (sender.queued message
      (sender.session.sealed nonce message.toJson.render
        (sender.nextHeader message).associatedData) next frame) :=
    ⟨hsent.sendKey, hsent.protocolVersion, hsent.sessionId, hsent.maximumFrameSize,
      UInt64.le_of_lt hlt⟩
  refine ⟨horder.key.trans hsame.sendKey.symm, horder.version.trans hsame.version.symm,
    horder.sessionId.trans hsame.sessionId.symm, horder.limit.trans hsame.limit.symm,
    horder.bounded, ?_, ?_, ?_, ?_, ?_⟩
  · rw [List.length_append, List.length_singleton, ← horder.counted]
    exact checkedSucc_eq_some.mp hnext
  · intro index entry hentry
    rcases Nat.lt_or_ge index released.length with hold | hlast
    · rw [List.getElem?_append_left hold] at hentry
      exact horder.numbered index entry hentry
    -- The new frame stands last, under the number of frames before it.
    · have hindex := (List.getElem?_eq_some_iff.mp hentry).1
      rw [List.length_append, List.length_singleton] at hindex
      rw [List.getElem?_append_right hlast] at hentry
      obtain rfl := List.mem_singleton.mp (List.mem_of_getElem? hentry)
      change sender.sendSequence.toNat = index
      rw [horder.counted]
      omega
  · intro entry hentry
    rcases List.mem_append.mp hentry with hold | hnew
    · exact (horder.recorded entry hold).of_sender hsame
    · obtain rfl := List.mem_singleton.mp hnew
      exact ⟨rfl, rfl, rfl, hframe ▸ hfits, hlt, ciphertext, hsealed, hframe.symm⟩
  · rw [List.map_append, List.pairwise_append]
    refine ⟨horder.increasing, List.pairwise_singleton _ _, ?_⟩
    intro earlier hearlier other hother
    obtain ⟨entry, hentry, rfl⟩ := List.mem_map.mp hearlier
    rw [List.map_singleton, List.mem_singleton] at hother
    rw [hother]
    exact (horder.recorded entry hentry).below
  -- What the receiver still waits for is now followed by the new frame.
  · intro hstate
    have hready := horder.ready hstate
    refine ⟨hready.session, hready.sequence, ?_, ?_, ?_⟩
    · rw [List.length_append]
      exact Nat.le_add_right_of_le hready.behind
    · rw [List.map_append, List.take_append_of_le_length (by simpa using hready.behind)]
      exact hready.received
    · intro last hlast
      obtain ⟨hbelow, hlater⟩ := hready.above last hlast
      refine ⟨UInt64.lt_trans hbelow hlt, ?_⟩
      intro index entry hindex hentry
      rcases Nat.lt_or_ge index released.length with hwithin | hbeyond
      · rw [List.getElem?_append_left hwithin] at hentry
        exact hlater index entry hindex hentry
      · rw [List.getElem?_append_right hbeyond] at hentry
        obtain rfl := List.mem_singleton.mp (List.mem_of_getElem? hentry)
        exact hbelow

/-- A direction stays in order when its sender sends, or is refused after encryption. -/
theorem InOrder.send {sender receiver : EncryptedChannel} {released : List Released}
    {received : List ChannelMessage} {delivered : Nat}
    (horder : InOrder ext sender receiver released received delivered) (message : ChannelMessage)
    (hrefusable : Refusable (EncryptedChannel.send ext message sender).1) :
    InOrder ext (EncryptedChannel.send ext message sender).2 receiver
      (released ++ ChannelPair.releases sender message
        (EncryptedChannel.send ext message sender).1) received delivered := by
  have hsent := EncryptedChannel.send_sentOn ext message sender
  rcases EncryptedChannel.send_cases ext message sender with ⟨frame, final, hsend⟩ |
    ⟨reason, hsend⟩ | ⟨reason, next, _, hsend⟩ | ⟨reason, _, hsend⟩
  · rw [hsend]
    exact horder.released hsend
  · rw [hsend]
    simpa only [ChannelPair.releases, List.append_nil] using horder
  · rw [hsend] at hrefusable
    cases reason <;> simp [Refusable, ChannelError.ofSession] at hrefusable
  · rw [hsend] at hsent ⊢
    simp only [ChannelPair.releases, List.append_nil]
    exact horder.of_sender ⟨hsent.sendKey, hsent.protocolVersion, hsent.sessionId,
      hsent.maximumFrameSize, encrypt_nonce_le _ _ _⟩ rfl

/-- Bytes that are not authentic are rejected and change nothing. -/
theorem nonAuthentic_rejected {pair : ChannelPair} {role : SessionRole} {frame : Bytes}
    (hideal : ChannelPair.IdealCipher ext pair role frame)
    (hforged : NonAuthentic ext pair role frame) :
    ∃ reason, EncryptedChannel.receive ext frame (pair.channel role) =
      (.error reason, pair.channel role) := by
  have hopens : ∀ header ciphertext plaintext session,
      EncryptedChannel.Framed ext (pair.channel role) frame header ciphertext →
      SecureSession.decrypt ext ciphertext header.associatedData (pair.channel role).session ≠
        (.ok plaintext, session) := by
    intro header ciphertext plaintext session hframed hrun
    obtain ⟨_, _, _, hopens, _⟩ := SecureSession.decrypt_eq_ok.mp hrun
    obtain ⟨side, hside, hsealing, hcipher⟩ := hideal header ciphertext plaintext hframed hopens
    exact hforged header ciphertext hframed side hside _ hsealing rfl rfl hcipher
  rcases EncryptedChannel.receive_cases ext frame (pair.channel role) with
    ⟨message, final, hreceive⟩ | ⟨reason, hreceive⟩ |
    ⟨reason, header, ciphertext, plaintext, session, hframed, hrun, _⟩
  · obtain ⟨header, ciphertext, plaintext, session, _, hframed, hrun, _⟩ :=
      EncryptedChannel.receive_eq_ok.mp hreceive
    exact absurd hrun (hopens _ _ _ _ hframed)
  · exact ⟨reason, hreceive⟩
  · exact absurd hrun (hopens _ _ _ _ hframed)

/-- Both directions are in order. -/
def Ordered (ext : Externals) (delivery : Delivery) : Prop :=
  ∀ role, InOrder ext (delivery.pair.channel role) (delivery.pair.channel role.other)
    (delivery.pair.released role) (delivery.pair.received role.other) (delivery.delivered role)

theorem Opened.ordered {delivery : Delivery} (hopened : Opened ext delivery) :
    Ordered ext delivery := by
  obtain ⟨sessionId, route, shared, protocol, peer, hsession⟩ := hopened.pair.session
  have hfresh : ∀ role, (delivery.pair.channel role).sendSequence = 0 ∧
      (delivery.pair.channel role).receiveSequence = 0 := by
    intro role
    obtain ⟨_, _, _, hopen⟩ := hopened.pair.opened role
    rw [← (EncryptedChannel.open_eq_ok.mp hopen).2]
    exact ⟨rfl, rfl⟩
  intro role
  refine ⟨?_, (hopened.version role).symm, ?_, (hopened.limit role).symm, hopened.bounded _, ?_,
    ?_, ?_, ?_, ?_⟩
  · rw [hsession, hsession]
    cases role <;> rfl
  · rw [hsession, hsession]
    rfl
  · simp [hopened.pair.released, (hfresh role).1]
  · simp [hopened.pair.released]
  · simp [hopened.pair.released]
  · simp [hopened.pair.released]
  · intro _
    refine ⟨?_, ?_, ?_, ?_, ?_⟩
    · rw [hsession]
      rfl
    · simp [(hfresh role.other).2, hopened.delivered]
    · simp [hopened.delivered]
    · simp [hopened.pair.received, hopened.delivered]
    · rw [hsession]
      simp [deriveSession]

theorem Ordered.step (hparse : ext.ParsesJson) (hcipher : ext.CipherOpens)
    {delivery next : Delivery} (hordered : Ordered ext delivery)
    (hstep : Step ext delivery next) : Ordered ext next := by
  cases hstep with
  | send role message hsend =>
      have hsent := EncryptedChannel.send_sentOn ext message (delivery.pair.channel role)
      intro direction
      by_cases hrole : direction = role
      · subst hrole
        simpa using (hordered direction).send message hsend
      · obtain rfl := SessionRole.eq_other_of_ne hrole
        have hother := hordered role.other
        rw [SessionRole.other_other] at hother
        -- A send can close the channel it is made on, and never opens one.
        have hstate : (EncryptedChannel.send ext message (delivery.pair.channel role)).2.state =
            .established → (delivery.pair.channel role).state = .established := by
          intro hopen
          by_contra hclosed
          rw [EncryptedChannel.send_of_not_established message hclosed] at hopen
          exact hclosed hopen
        simpa using hother.of_receiver hsent hstate
  | takePending role =>
      intro direction
      by_cases hrole : direction = role
      · subst hrole
        have hsame : SameSender (delivery.pair.channel direction)
            (delivery.pair.channel direction).takePending.2 :=
          ⟨rfl, rfl, rfl, rfl, UInt64.le_refl _⟩
        simpa using (hordered direction).of_sender hsame rfl
      · obtain rfl := SessionRole.eq_other_of_ne hrole
        have hother := hordered role.other
        rw [SessionRole.other_other] at hother
        have hsent : (delivery.pair.channel role).SentOn
            (delivery.pair.channel role).takePending.2 :=
          ⟨rfl, rfl, rfl, rfl, rfl, rfl, rfl, rfl, rfl, rfl, rfl⟩
        simpa using hother.of_receiver hsent id
  | deliver role entry hnext =>
      have hkeeps := EncryptedChannel.receive_receivedOn ext entry.frame
        (delivery.pair.channel role.other)
      intro direction
      by_cases hrole : direction = role
      · subst hrole
        simpa using (hordered direction).deliver hparse hcipher hnext
      · obtain rfl := SessionRole.eq_other_of_ne hrole
        have hother := hordered role.other
        rw [SessionRole.other_other] at hother
        simpa using hother.of_sender ⟨hkeeps.sendKey, hkeeps.protocolVersion, hkeeps.sessionId,
          hkeeps.maximumFrameSize, UInt64.le_of_eq hkeeps.sendNonce.symm⟩ hkeeps.sendSequence
  -- A frame that was not sealed by the other end changes nothing.
  | feed role frame hideal hforged =>
      obtain ⟨reason, hreceive⟩ := nonAuthentic_rejected hideal hforged
      simp only [hreceive, ChannelPair.receives, List.append_nil, Function.update_eq_self]
      exact hordered

/-- In every reachable state, an end that is still established has accepted every frame delivered
so far and accepts the next one in order with the message that was sent; the data plane reports its
index. Bytes that are not authentic change nothing, and no bytes run out of range. -/
theorem delivered_accepted (hparse : ext.ParsesJson) (hcipher : ext.CipherOpens)
    {delivery : Delivery} (hreach : (system ext).Reachable delivery) (role : SessionRole) :
    let receiver := delivery.pair.channel role.other
    (receiver.state = .established →
      delivery.pair.received role.other =
        (delivery.pair.sent role).take (delivery.delivered role) ∧
      ∀ entry, (delivery.pair.released role)[delivery.delivered role]? = some entry →
        (EncryptedChannel.receive ext entry.frame receiver).1 = .ok entry.message ∧
        ∀ maximumPayloadSize payload, entry.message = .dataPlane payload →
          payload.length ≤ maximumPayloadSize →
          ∃ message, (DataPlane.receive ext maximumPayloadSize
              ⟨dataPlaneKind, receiver.session.sessionId, entry.frame⟩ receiver).1 = .ok message ∧
            message.payload = payload ∧
            message.sequenceNumber.toNat = delivery.delivered role) ∧
    (∀ frame, ChannelPair.IdealCipher ext delivery.pair role.other frame →
      NonAuthentic ext delivery.pair role.other frame →
      ∃ reason, EncryptedChannel.receive ext frame receiver = (.error reason, receiver)) ∧
    ∀ frame, (EncryptedChannel.receive ext frame receiver).1 ≠ .panic := by
  have hordered : Ordered ext delivery :=
    hreach.invariant (Ordered ext) (fun _ hopened => Opened.ordered hopened)
      (fun _ _ _ hordered hstep => hordered.step hparse hcipher hstep)
  refine ⟨?_, fun frame => nonAuthentic_rejected,
    fun frame => EncryptedChannel.receive_ne_panic frame _⟩
  intro hstate
  refine ⟨((hordered role).ready hstate).received, ?_⟩
  intro entry hnext
  obtain ⟨next, hcount, hreceive⟩ := (hordered role).accepts hparse hcipher hstate hnext
  refine ⟨by rw [hreceive], ?_⟩
  intro maximumPayloadSize payload hpayload hsize
  have hsequence : (next - 1).toNat = delivery.delivered role := by
    rw [UInt64.toNat_sub_of_le _ _ (by rw [UInt64.le_iff_toNat_le, hcount]; simp), hcount]
    simp
  rw [hpayload] at hreceive
  refine ⟨⟨(delivery.pair.channel role.other).session.sessionId, next - 1, .data, payload⟩,
    ?_, rfl, hsequence⟩
  exact congrArg Prod.fst (DataPlane.receive_eq_ok.mpr ⟨rfl, rfl, hreceive, hsize, rfl⟩)

theorem reference_opened : Opened reference ⟨ChannelPair.reference, fun _ => 0⟩ where
  pair := ChannelPair.reference_opened
  version _ := rfl
  limit _ := rfl
  bounded _ := show 65536 < 2 ^ 32 by decide
  delivered _ := rfl

theorem send_reaches {delivery : Delivery} (hreach : (system ext).Reachable delivery)
    (role : SessionRole) {message : ChannelMessage} {frame : Bytes}
    (hframe : (EncryptedChannel.send ext message (delivery.pair.channel role)).1 = .ok frame) :
    ∃ next, (system ext).Reachable next ∧
      next.pair.channel role.other = delivery.pair.channel role.other ∧
      next.pair.released role = delivery.pair.released role ++
        ChannelPair.releases (delivery.pair.channel role) message (.ok frame) ∧
      next.delivered = delivery.delivered :=
  ⟨_, hreach.tail (.send delivery role message (.inl ⟨frame, hframe⟩)), by simp, by simp [hframe],
    rfl⟩

/-- A payload that is sent over a fresh pair of channels arrives as number zero. -/
theorem delivered_accepted_first :
    ∃ delivery entry, (system reference).Reachable delivery ∧
      (delivery.pair.released .initiator)[delivery.delivered .initiator]? = some entry ∧
      ∃ message, (DataPlane.receive reference 2048
          ⟨dataPlaneKind, (delivery.pair.channel .responder).session.sessionId, entry.frame⟩
          (delivery.pair.channel .responder)).1 = .ok message ∧
        message.payload = [9] ∧ message.sequenceNumber.toNat = 0 := by
  obtain ⟨frame, hframe⟩ : (EncryptedChannel.send reference (.dataPlane [9])
      (ChannelPair.reference.channel .initiator)).1.IsOk := by decide +kernel
  obtain ⟨delivery, hreach, hreceiver, hreleased, hdelivered⟩ :=
    send_reaches (.of_init reference_opened) .initiator hframe
  have hstate : (delivery.pair.channel SessionRole.initiator.other).state = .established := by
    rw [hreceiver]
    rfl
  obtain ⟨hnext, _⟩ := delivered_accepted reference.parsesJson reference.cipherOpens hreach
    .initiator
  obtain ⟨entry, hentry, hpayload⟩ :
      ∃ entry, (delivery.pair.released .initiator)[delivery.delivered .initiator]? = some entry ∧
        entry.message = .dataPlane [9] := by
    rw [hreleased, hdelivered]
    exact ⟨_, rfl, rfl⟩
  obtain ⟨message, hmessage, hsame, hsequence⟩ :=
    ((hnext hstate).2 entry hentry).2 2048 [9] hpayload (by decide)
  exact ⟨delivery, entry, hreach, hentry, message, hmessage, hsame, by rw [hsequence, hdelivered]⟩

end Delivery

end Network
