import GhostLayer.Foundation.Transition
import GhostLayer.Network.ChannelLaws
import GhostLayer.Network.Handshake

/-! # What a channel accepts was sent

Two channels on the two ends of a session exchange frames over a network that
drops, repeats, reorders, reflects and makes up bytes. The cipher is ideal: what
it opens was sealed under the same key, nonce and associated data. Then the
messages that one end accepts are a prefix of those the other end sent.
-/

namespace Network

open Foundation

variable {ext : Externals}

/-- A send that returned a frame: its message, the header and the nonce it was sealed with, and the
frame. -/
structure Released where
  message : ChannelMessage
  header : FrameHeader
  nonce : UInt64
  frame : Bytes

/-- The call of the cipher behind a sent frame. -/
def Released.sealing (entry : Released) : Sealing :=
  ⟨entry.nonce, entry.message.toJson.render, entry.header.associatedData⟩

/-- Both ends of a session, with what each of them has sent and accepted so far. -/
structure ChannelPair where
  channel : SessionRole → EncryptedChannel
  released : SessionRole → List Released
  received : SessionRole → List ChannelMessage

namespace ChannelPair

/-- The messages whose `send` succeeded, in order. -/
def sent (pair : ChannelPair) (role : SessionRole) : List ChannelMessage :=
  (pair.released role).map Released.message

/-- What a call of `send` adds to the record of sent frames. -/
def releases (channel : EncryptedChannel) (message : ChannelMessage) :
    Outcome ChannelError Bytes → List Released
  | .ok frame => [⟨message, channel.nextHeader message, channel.session.sendNonce, frame⟩]
  | _ => []

def receives : Outcome ChannelError ChannelMessage → List ChannelMessage
  | .ok message => [message]
  | _ => []

/-- The ciphertext of a frame opens only if it was sealed under the same key, nonce and associated
data. -/
def IdealCipher (ext : Externals) (pair : ChannelPair) (role : SessionRole) (frame : Bytes) :
    Prop :=
  ∀ header ciphertext plaintext,
    EncryptedChannel.Framed ext (pair.channel role) frame header ciphertext →
    ext.aeadDecrypt (pair.channel role).session.receiveKey
      (nonceFromCounter (counterOf ciphertext)) (ciphertext.drop 8) header.associatedData =
        some plaintext →
    ∃ side, (pair.channel side).session.sendKey = (pair.channel role).session.receiveKey ∧
      ⟨counterOf ciphertext, plaintext, header.associatedData⟩ ∈
        (pair.channel side).session.sealings ∧
      ext.aeadEncrypt (pair.channel side).session.sendKey
        (nonceFromCounter (counterOf ciphertext)) plaintext header.associatedData =
          some (ciphertext.drop 8)

/-- The network does not come up with a ciphertext that was sealed and never handed out. -/
def Withheld (ext : Externals) (pair : ChannelPair) (role : SessionRole) (frame : Bytes) : Prop :=
  ∀ header ciphertext, EncryptedChannel.Framed ext (pair.channel role) frame header ciphertext →
    ∀ side, ∀ sealing ∈ (pair.channel side).session.sealings,
      ext.aeadEncrypt (pair.channel side).session.sendKey (nonceFromCounter sealing.nonce)
        sealing.plaintext sealing.associatedData = some (ciphertext.drop 8) →
      sealing.nonce = counterOf ciphertext →
      ∃ entry ∈ pair.released side, entry.sealing = sealing

/-- An end sends, is given any bytes by the network, drains its queue or closes. -/
inductive Step (ext : Externals) : ChannelPair → ChannelPair → Prop
  | send (pair : ChannelPair) (role : SessionRole) (message : ChannelMessage) :
      Step ext pair { pair with
        channel := Function.update pair.channel role
          (EncryptedChannel.send ext message (pair.channel role)).2
        released := Function.update pair.released role (pair.released role ++
          releases (pair.channel role) message
            (EncryptedChannel.send ext message (pair.channel role)).1) }
  | deliver (pair : ChannelPair) (role : SessionRole) (frame : Bytes)
      (hideal : IdealCipher ext pair role frame) (hwithheld : Withheld ext pair role frame) :
      Step ext pair { pair with
        channel := Function.update pair.channel role
          (EncryptedChannel.receive ext frame (pair.channel role)).2
        received := Function.update pair.received role (pair.received role ++
          receives (EncryptedChannel.receive ext frame (pair.channel role)).1) }
  | takePending (pair : ChannelPair) (role : SessionRole) :
      Step ext pair { pair with
        channel := Function.update pair.channel role (pair.channel role).takePending.2 }
  | close (pair : ChannelPair) (role : SessionRole) :
      Step ext pair { pair with
        channel := Function.update pair.channel role
          (EncryptedChannel.close (pair.channel role)).2 }
  | markRemoteClosed (pair : ChannelPair) (role : SessionRole) :
      Step ext pair { pair with
        channel := Function.update pair.channel role (pair.channel role).markRemoteClosed }

/-- Two channels just opened on the two ends of one session, with distinct directional keys. The
ends may differ in the version and the limits they were opened with. -/
structure Opened (ext : Externals) (pair : ChannelPair) : Prop where
  session : ∃ sessionId route shared protocol, ∃ peer : SessionRole → PeerId, ∀ role,
    (pair.channel role).session =
      deriveSession ext sessionId (peer role) route role shared protocol
  opened : ∀ role, ∃ version maximumFrameSize maximumPendingMessages,
    EncryptedChannel.open (pair.channel role).session version maximumFrameSize
      maximumPendingMessages = .ok (pair.channel role)
  distinct : ∀ role,
    (pair.channel role).session.sendKey ≠ (pair.channel role).session.receiveKey
  released : ∀ role, pair.released role = []
  received : ∀ role, pair.received role = []

def system (ext : Externals) : System ChannelPair where
  init := Opened ext
  step := Step ext

/-! ## The invariant -/

/-- One direction: sequence numbers of sent frames increase, and what was accepted is what was sent
first, without gaps in its numbers. -/
structure Direction (sender receiver : EncryptedChannel) (released : List Released)
    (received : List ChannelMessage) : Prop where
  key : receiver.session.receiveKey = sender.session.sendKey
  distinct : receiver.session.sendKey ≠ receiver.session.receiveKey
  increasing : (released.map (·.header.sequenceNumber.toNat)).Pairwise (· < ·)
  below : ∀ entry ∈ released, entry.header.sequenceNumber.toNat < sender.sendSequence.toNat
  counted : receiver.receiveSequence.toNat = received.length
  taken : received = (released.map Released.message).take received.length
  gapless : ∀ index < received.length, ∀ entry, released[index]? = some entry →
    entry.header.sequenceNumber.toNat = index

/-- After a close was sent or accepted, an end is no longer established. -/
def ClosedOff (channel : EncryptedChannel) (released : List Released)
    (received : List ChannelMessage) : Prop :=
  .close ∈ released.map Released.message ∨ .close ∈ received → channel.state ≠ .established

/-- The sequence number at an index of an increasing list is at least the index. -/
theorem le_of_increasing {numbers : List Nat} (hincreasing : numbers.Pairwise (· < ·))
    {index number : Nat} (hnumber : numbers[index]? = some number) : index ≤ number := by
  induction index generalizing number with
  | zero => exact Nat.zero_le number
  | succ index ih =>
      obtain ⟨hlt, hget⟩ := List.getElem?_eq_some_iff.mp hnumber
      have hprevious := ih (List.getElem?_eq_getElem (Nat.lt_of_succ_lt hlt))
      have hstep := List.pairwise_iff_getElem.mp hincreasing index (index + 1)
        (Nat.lt_of_succ_lt hlt) hlt (Nat.lt_succ_self index)
      omega

/-- A direction does not depend on what its sender receives. -/
theorem Direction.of_sender {sender sender' receiver : EncryptedChannel}
    {released : List Released} {received : List ChannelMessage}
    (hdirection : Direction sender receiver released received)
    (hsequence : sender'.sendSequence = sender.sendSequence)
    (hkey : sender'.session.sendKey = sender.session.sendKey) :
    Direction sender' receiver released received :=
  { hdirection with
    key := hdirection.key.trans hkey.symm
    below := fun entry hentry => hsequence ▸ hdirection.below entry hentry }

/-- A direction does not depend on what its receiver sends. -/
theorem Direction.of_receiver {sender receiver receiver' : EncryptedChannel}
    {released : List Released} {received : List ChannelMessage}
    (hdirection : Direction sender receiver released received)
    (hsequence : receiver'.receiveSequence = receiver.receiveSequence)
    (hsend : receiver'.session.sendKey = receiver.session.sendKey)
    (hreceive : receiver'.session.receiveKey = receiver.session.receiveKey) :
    Direction sender receiver' released received :=
  { hdirection with
    key := hreceive.trans hdirection.key
    distinct := by rw [hsend, hreceive]; exact hdirection.distinct
    counted := hsequence ▸ hdirection.counted }

theorem Direction.length_le {sender receiver : EncryptedChannel} {released : List Released}
    {received : List ChannelMessage}
    (hdirection : Direction sender receiver released received) :
    received.length ≤ released.length := by
  have hlength := congrArg List.length hdirection.taken
  simp only [List.length_take, List.length_map] at hlength
  omega

/-- Sending numbers a frame above all earlier ones. -/
theorem Direction.send {sender receiver : EncryptedChannel} {released : List Released}
    {received : List ChannelMessage} (hdirection : Direction sender receiver released received)
    (message : ChannelMessage) :
    Direction (EncryptedChannel.send ext message sender).2 receiver
      (released ++ releases sender message (EncryptedChannel.send ext message sender).1)
      received := by
  have hkey := (EncryptedChannel.send_sentOn ext message sender).sendKey
  -- A number is used up also where the frame is refused after it was sealed.
  rcases EncryptedChannel.send_cases ext message sender with ⟨frame, final, hsend⟩ |
    ⟨reason, hsend⟩ | ⟨reason, next, hnext, hsend⟩ | ⟨reason, _, hsend⟩
  · obtain ⟨_, next, ciphertext, session, hnext, _, _, _, _, rfl⟩ :=
      EncryptedChannel.send_eq_ok.mp hsend
    rw [hsend] at hkey ⊢
    have hlt := checkedSucc_eq_some.mp hnext
    refine ⟨hdirection.key.trans hkey.symm, hdirection.distinct, ?_, ?_, hdirection.counted, ?_,
      ?_⟩
    · simp only [releases, List.map_append, List.pairwise_append]
      refine ⟨hdirection.increasing, List.pairwise_singleton _ _, ?_⟩
      intro number hnumber other hother
      obtain ⟨entry, hentry, rfl⟩ := List.mem_map.mp hnumber
      rw [List.map_singleton, List.mem_singleton] at hother
      rw [hother]
      exact hdirection.below entry hentry
    · intro entry hentry
      change _ < next.toNat
      rcases List.mem_append.mp hentry with hold | hnew
      · have hbelow := hdirection.below entry hold
        omega
      · rw [List.mem_singleton.mp hnew]
        change sender.sendSequence.toNat < _
        omega
    · rw [List.map_append, List.take_append_of_le_length
        (by simpa using hdirection.length_le)]
      exact hdirection.taken
    · intro index hindex entry hentry
      rw [List.getElem?_append_left (Nat.lt_of_lt_of_le hindex hdirection.length_le)] at hentry
      exact hdirection.gapless index hindex entry hentry
  · rw [hsend]
    simpa only [releases, List.append_nil] using hdirection
  · rw [hsend] at hkey ⊢
    simp only [releases, List.append_nil]
    have hlt := checkedSucc_eq_some.mp hnext
    refine { hdirection with key := hdirection.key.trans hkey.symm, below := ?_ }
    intro entry hentry
    have hbelow := hdirection.below entry hentry
    change _ < next.toNat
    omega
  · rw [hsend] at hkey ⊢
    simp only [releases, List.append_nil]
    exact hdirection.of_sender rfl hkey

/-- A frame with the next sequence number that opens to a sent message is the next message. -/
theorem Direction.accept {sender receiver : EncryptedChannel} {released : List Released}
    {received : List ChannelMessage} (hdirection : Direction sender receiver released received)
    {entry : Released} (hentry : entry ∈ released)
    (hsequence : entry.header.sequenceNumber = receiver.receiveSequence) :
    released[received.length]? = some entry := by
  obtain ⟨index, hindex, hget⟩ := List.getElem_of_mem hentry
  have hat : released[index]? = some entry := List.getElem?_eq_some_iff.mpr ⟨hindex, hget⟩
  have hnumber : (released.map (·.header.sequenceNumber.toNat))[index]? =
      some entry.header.sequenceNumber.toNat := by
    rw [List.getElem?_map, hat]
    rfl
  have hle := le_of_increasing hdirection.increasing hnumber
  rw [hsequence, hdirection.counted] at hle
  -- An earlier index would have been accepted under its own number.
  rcases Nat.lt_or_eq_of_le hle with hlt | rfl
  · have hgapless := hdirection.gapless index hlt entry hat
    rw [hsequence, hdirection.counted] at hgapless
    omega
  · exact hat

/-- An end accepts only the next message that the other end sent. -/
theorem Direction.receive (hparse : ext.ParsesJson) {pair : ChannelPair} {role : SessionRole}
    (hdirection : Direction (pair.channel role) (pair.channel role.other) (pair.released role)
      (pair.received role.other))
    (frame : Bytes) (hideal : IdealCipher ext pair role.other frame)
    (hwithheld : Withheld ext pair role.other frame) :
    Direction (pair.channel role)
      (EncryptedChannel.receive ext frame (pair.channel role.other)).2 (pair.released role)
      (pair.received role.other ++
        receives (EncryptedChannel.receive ext frame (pair.channel role.other)).1) := by
  have hkeeps := EncryptedChannel.receive_receivedOn ext frame (pair.channel role.other)
  rcases EncryptedChannel.receive_cases ext frame (pair.channel role.other) with
    ⟨message, final, hreceive⟩ | ⟨reason, hreceive⟩ |
    ⟨reason, header, ciphertext, plaintext, session, _, hrun, hreceive⟩
  · obtain ⟨header, ciphertext, plaintext, session, next, hframed, hrun, hdecoded, _, hnext, rfl⟩ :=
      EncryptedChannel.receive_eq_ok.mp hreceive
    obtain ⟨_, _, _, hopens, rfl⟩ := SecureSession.decrypt_eq_ok.mp hrun
    -- What was opened was sealed by the other end, and released by it.
    obtain ⟨side, hside, hsealed, hcipher⟩ := hideal _ _ _ hframed hopens
    obtain rfl : side = role := by
      by_contra hne
      obtain rfl := SessionRole.eq_other_of_ne hne
      exact hdirection.distinct hside
    obtain ⟨entry, hentry, hsealing⟩ := hwithheld _ _ hframed side _ hsealed hcipher rfl
    simp only [Released.sealing, Sealing.mk.injEq] at hsealing
    obtain ⟨_, hplaintext, hdata⟩ := hsealing
    have hmessage : entry.message = message := by
      rw [← hplaintext, ChannelMessage.fromSlice_render hparse] at hdecoded
      exact Option.some.inj hdecoded
    have hsequence : entry.header.sequenceNumber = (pair.channel side.other).receiveSequence := by
      rw [(FrameHeader.associatedData_inj hdata).2.2.2, hframed.sequence]
    have hat := hdirection.accept hentry hsequence
    rw [hreceive] at hkeeps ⊢
    refine ⟨hkeeps.receiveKey.trans hdirection.key, ?_, hdirection.increasing, hdirection.below,
      ?_, ?_, ?_⟩
    · rw [hkeeps.sendKey, hkeeps.receiveKey]
      exact hdirection.distinct
    · rw [receives, List.length_append, List.length_singleton, ← hdirection.counted]
      exact checkedSucc_eq_some.mp hnext
    · rw [receives, List.length_append, List.length_singleton, List.take_add_one,
        List.getElem?_map, hat, Option.map_some, hmessage, Option.toList_some,
        ← hdirection.taken]
    · intro index hindex other hother
      rw [receives, List.length_append, List.length_singleton] at hindex
      rcases Nat.lt_or_eq_of_le (Nat.le_of_lt_succ hindex) with hlt | rfl
      · exact hdirection.gapless index hlt other hother
      · obtain rfl : entry = other := Option.some.inj (hat.symm.trans hother)
        rw [hsequence, hdirection.counted]
  · rw [hreceive]
    simpa only [receives, List.append_nil] using hdirection
  · obtain ⟨_, _, _, _, rfl⟩ := SecureSession.decrypt_eq_ok.mp hrun
    rw [hreceive]
    simp only [receives, List.append_nil]
    exact hdirection.of_receiver rfl rfl rfl

/-- Both directions hold, and an end that saw a close is closed off. -/
structure Sound (pair : ChannelPair) : Prop where
  direction : ∀ role, Direction (pair.channel role) (pair.channel role.other) (pair.released role)
    (pair.received role.other)
  closedOff : ∀ role, ClosedOff (pair.channel role) (pair.released role) (pair.received role)

theorem ClosedOff.send {channel : EncryptedChannel} {released : List Released}
    {received : List ChannelMessage} (hclosed : ClosedOff channel released received)
    (message : ChannelMessage) :
    ClosedOff (EncryptedChannel.send ext message channel).2
      (released ++ releases channel message (EncryptedChannel.send ext message channel).1)
      received := by
  by_cases hstate : channel.state = .established
  · have hopen := mt hclosed (not_not.mpr hstate)
    rcases hrun : EncryptedChannel.send ext message channel with ⟨frame | reason | _, final⟩
    · obtain ⟨_, next, ciphertext, session, _, _, _, _, _, rfl⟩ :=
        EncryptedChannel.send_eq_ok.mp hrun
      intro hclose
      by_cases hmessage : message = .close
      · simp [EncryptedChannel.queued, hmessage]
      · refine absurd ?_ hopen
        simpa [releases, Ne.symm hmessage] using hclose
    · intro hclose
      exact absurd (by simpa [releases] using hclose) hopen
    · intro hclose
      exact absurd (by simpa [releases] using hclose) hopen
  · rw [EncryptedChannel.send_of_not_established message hstate]
    exact fun _ => hstate

theorem ClosedOff.receive {channel : EncryptedChannel} {released : List Released}
    {received : List ChannelMessage} (hclosed : ClosedOff channel released received)
    (frame : Bytes) :
    ClosedOff (EncryptedChannel.receive ext frame channel).2 released
      (received ++ receives (EncryptedChannel.receive ext frame channel).1) := by
  by_cases hstate : channel.state = .established
  · have hopen := mt hclosed (not_not.mpr hstate)
    rcases hrun : EncryptedChannel.receive ext frame channel with ⟨message | reason | _, final⟩
    · obtain ⟨_, _, _, _, next, _, _, _, _, _, rfl⟩ := EncryptedChannel.receive_eq_ok.mp hrun
      intro hclose
      by_cases hmessage : message = .close
      · simp [EncryptedChannel.accepted, hmessage]
      · refine absurd ?_ hopen
        simpa [receives, Ne.symm hmessage] using hclose
    · intro hclose
      exact absurd (by simpa [receives] using hclose) hopen
    · intro hclose
      exact absurd (by simpa [receives] using hclose) hopen
  · rw [EncryptedChannel.receive_of_not_established frame hstate]
    exact fun _ => hstate

/-- An operation that neither sends nor receives keeps the pair sound. -/
theorem Sound.idle {pair : ChannelPair} (hsound : Sound pair) (role : SessionRole)
    {channel : EncryptedChannel} (hsend : channel.sendSequence = (pair.channel role).sendSequence)
    (hreceive : channel.receiveSequence = (pair.channel role).receiveSequence)
    (hsendKey : channel.session.sendKey = (pair.channel role).session.sendKey)
    (hreceiveKey : channel.session.receiveKey = (pair.channel role).session.receiveKey)
    (hstate : channel.state = (pair.channel role).state ∨ channel.state ≠ .established) :
    Sound { pair with channel := Function.update pair.channel role channel } := by
  constructor
  · intro direction
    by_cases hrole : direction = role
    · subst hrole
      simpa using (hsound.direction direction).of_sender hsend hsendKey
    · obtain rfl := SessionRole.eq_other_of_ne hrole
      have hother := hsound.direction role.other
      rw [SessionRole.other_other] at hother
      simpa using hother.of_receiver hreceive hsendKey hreceiveKey
  · intro side
    by_cases hrole : side = role
    · subst hrole
      intro hclose
      simp only [Function.update_self]
      rcases hstate with hsame | hclosed
      · rw [hsame]
        exact hsound.closedOff side hclose
      · exact hclosed
    · simpa [hrole] using hsound.closedOff side

theorem Sound.step (hparse : ext.ParsesJson) {pair next : ChannelPair} (hsound : Sound pair)
    (hstep : Step ext pair next) : Sound next := by
  cases hstep with
  | send role message =>
      have hkeeps := EncryptedChannel.send_sentOn ext message (pair.channel role)
      constructor
      · intro direction
        by_cases hrole : direction = role
        · subst hrole
          simpa using (hsound.direction direction).send message
        · obtain rfl := SessionRole.eq_other_of_ne hrole
          have hother := hsound.direction role.other
          rw [SessionRole.other_other] at hother
          simpa using hother.of_receiver hkeeps.receiveSequence hkeeps.sendKey hkeeps.receiveKey
      · intro side
        by_cases hrole : side = role
        · subst hrole
          simpa using (hsound.closedOff side).send message
        · simpa [hrole] using hsound.closedOff side
  | deliver role frame hideal hwithheld =>
      have hkeeps := EncryptedChannel.receive_receivedOn ext frame (pair.channel role)
      constructor
      · intro direction
        by_cases hrole : direction = role
        · subst hrole
          simpa using (hsound.direction direction).of_sender hkeeps.sendSequence hkeeps.sendKey
        · obtain rfl := SessionRole.eq_other_of_ne hrole
          have hother := hsound.direction role.other
          -- What is delivered to a side belongs to the direction towards it.
          have haccepts := hother.receive hparse frame (by simpa using hideal)
            (by simpa using hwithheld)
          simp only [SessionRole.other_other] at haccepts
          simpa using haccepts
      · intro side
        by_cases hrole : side = role
        · subst hrole
          simpa using (hsound.closedOff side).receive frame
        · simpa [hrole] using hsound.closedOff side
  | takePending role => exact hsound.idle role rfl rfl rfl rfl (.inl rfl)
  | close role =>
      obtain ⟨state, sessionState, hclose, hstate⟩ :=
        EncryptedChannel.close_state (pair.channel role)
      rw [hclose]
      exact hsound.idle role rfl rfl rfl rfl (hstate.imp id (fun hclosed => by simp [hclosed]))
  | markRemoteClosed role =>
      exact hsound.idle role rfl rfl rfl rfl (.inr (by simp [EncryptedChannel.markRemoteClosed]))

theorem Opened.sound {pair : ChannelPair} (hopened : Opened ext pair) : Sound pair := by
  obtain ⟨sessionId, route, shared, protocol, peer, hsession⟩ := hopened.session
  constructor
  · intro role
    obtain ⟨_, _, _, hopen⟩ := hopened.opened role.other
    have hchannel := (EncryptedChannel.open_eq_ok.mp hopen).2
    have hreceive : (pair.channel role.other).receiveSequence = 0 := by rw [← hchannel]
    refine ⟨?_, hopened.distinct role.other, ?_, ?_, ?_, ?_, ?_⟩
    · rw [hsession, hsession]
      cases role <;> rfl
    · simp [hopened.released]
    · simp [hopened.released]
    · simp [hopened.received, hreceive]
    · simp [hopened.received]
    · simp [hopened.received]
  · intro role hclose
    simp [hopened.released, hopened.received] at hclose

/-- In every reachable state, each end has accepted a prefix of what the other end sent, and an end
that sent or accepted a close accepts nothing more. -/
theorem accepted_prefix_of_sent (hparse : ext.ParsesJson) {pair : ChannelPair}
    (hreach : (system ext).Reachable pair) (role : SessionRole) :
    pair.received role.other <+: pair.sent role ∧
      (.close ∈ pair.sent role ∨ .close ∈ pair.received role →
        ∀ frame message,
          (EncryptedChannel.receive ext frame (pair.channel role)).1 ≠ .ok message) := by
  have hsound : Sound pair :=
    hreach.invariant Sound (fun _ hopened => Opened.sound hopened)
      (fun _ _ _ hsound hstep => hsound.step hparse hstep)
  refine ⟨?_, ?_⟩
  · rw [(hsound.direction role).taken]
    exact List.take_prefix _ _
  · intro hclose frame message
    rw [EncryptedChannel.receive_of_not_established frame (hsound.closedOff role hclose)]
    simp

/-! ## A run over the reference instance -/

/-- Two ends of one session, opened with the limits that fit its frames. -/
noncomputable def reference : ChannelPair where
  channel role := ⟨deriveSession Network.reference ⟨Vector.replicate 16 7⟩ ⟨[2]⟩ (.oneHop ⟨[2]⟩)
    role (Vector.replicate 32 3) "1.0", .established, "1.0", 65536, 64, [], 0, 0⟩
  released _ := []
  received _ := []

theorem reference_opened : Opened Network.reference reference where
  session := ⟨⟨Vector.replicate 16 7⟩, .oneHop ⟨[2]⟩, Vector.replicate 32 3, "1.0",
    fun _ => ⟨[2]⟩, fun _ => rfl⟩
  opened _ := ⟨"1.0", 65536, 64, EncryptedChannel.open_eq_ok.mpr
    ⟨⟨rfl, by decide, by decide⟩, rfl⟩⟩
  distinct role := by cases role <;> decide +kernel
  released _ := rfl
  received _ := rfl

theorem send_reaches {pair : ChannelPair} (hreach : (system ext).Reachable pair)
    (role : SessionRole) (message : ChannelMessage) :
    ∃ next, (system ext).Reachable next ∧
      next.channel role = (EncryptedChannel.send ext message (pair.channel role)).2 ∧
      next.channel role.other = pair.channel role.other ∧
      next.released role = pair.released role ++ releases (pair.channel role) message
        (EncryptedChannel.send ext message (pair.channel role)).1 :=
  ⟨_, hreach.tail (.send pair role message), by simp, by simp, by simp⟩

/-- The network may deliver the first frame that the initiator of the reference pair sends. -/
theorem reference_deliverable {message : ChannelMessage} {frame : Bytes} {pair : ChannelPair}
    (hframe : (EncryptedChannel.send Network.reference message
      (reference.channel .initiator)).1 = .ok frame)
    (hsender : pair.channel .initiator =
      (EncryptedChannel.send Network.reference message (reference.channel .initiator)).2)
    (hreceiver : pair.channel .responder = reference.channel .responder)
    (hreleased : pair.released .initiator =
      releases (reference.channel .initiator) message (.ok frame)) :
    IdealCipher Network.reference pair .responder frame ∧
      Withheld Network.reference pair .responder frame := by
  rcases hsend : EncryptedChannel.send Network.reference message
    (reference.channel .initiator) with ⟨outcome, final⟩
  rw [hsend] at hframe hsender
  obtain rfl : outcome = .ok frame := hframe
  obtain ⟨_, next, output, session, _, hrun, hfits, _, hframe, rfl⟩ :=
    EncryptedChannel.send_eq_ok.mp hsend
  obtain ⟨_, nonce, ciphertext, _, hsealed, rfl, rfl⟩ := SecureSession.encrypt_eq_ok.mp hrun
  have hframed := EncryptedChannel.framed_frameBytes (reference.channel .responder)
    Network.reference.parsesJson rfl hfits (by decide) rfl rfl rfl rfl
  constructor
  · intro header body plaintext hother hopened
    rw [← hframe, hreceiver] at hother
    obtain ⟨rfl, rfl⟩ := hother.unique hframed
    rw [counterOf_append, List.drop_left' (by simp), hreceiver] at hopened
    have hopens := Network.reference.cipherOpens _ _ _ _ _ hsealed
    obtain rfl := Option.some.inj (hopens.symm.trans hopened)
    rw [counterOf_append, List.drop_left' (by simp)]
    refine ⟨.initiator, by rw [hsender, hreceiver]; rfl, ?_, by rw [hsender]; exact hsealed⟩
    rw [hsender]
    exact List.mem_singleton_self _
  · intro header body _ side sealing hsealing _ _
    cases side with
    | initiator =>
        rw [hsender] at hsealing
        obtain rfl := List.mem_singleton.mp hsealing
        rw [hreleased]
        exact ⟨_, List.mem_singleton_self _, rfl⟩
    | responder =>
        rw [hreceiver] at hsealing
        cases hsealing

/-- A ping that was sent and delivered. -/
theorem accepted_prefix_of_sent_ping :
    ∃ pair, (system Network.reference).Reachable pair ∧ pair.sent .initiator = [.ping] ∧
      pair.received .responder <+: pair.sent .initiator := by
  obtain ⟨frame, hframe⟩ : (EncryptedChannel.send Network.reference .ping
      (reference.channel .initiator)).1.IsOk := by decide +kernel
  obtain ⟨pair, hreach, hsender, hreceiver, hreleased⟩ :=
    send_reaches (.of_init reference_opened) .initiator .ping
  rw [hframe, reference_opened.released, List.nil_append] at hreleased
  obtain ⟨hideal, hwithheld⟩ := reference_deliverable hframe hsender hreceiver hreleased
  have hdelivered := hreach.tail (.deliver pair .responder frame hideal hwithheld)
  refine ⟨_, hdelivered, ?_,
    (accepted_prefix_of_sent Network.reference.parsesJson hdelivered .initiator).1⟩
  rw [sent, hreleased]
  rfl

end ChannelPair

end Network
