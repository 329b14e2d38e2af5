import GhostLayer.Network.ChannelLaws
import GhostLayer.Network.Reference
import Mathlib.Data.Nat.Digits.Lemmas

/-! # The size of frames

A payload goes into a frame as a JSON array of decimal numbers, so the size of the
frame depends on every byte of it. The limit of the data plane counts the bytes
themselves and lets through payloads whose frames a channel refuses.
-/

namespace Foundation

namespace Json

/-- The number of decimal digits. -/
def decimalWidth (value : Nat) : Nat := Nat.log 10 value + 1

theorem length_renderNat (value : Nat) : (renderNat value).length = decimalWidth value := by
  unfold renderNat decimalWidth
  split
  next hzero => simp [hzero]
  next hpos => simp [Nat.length_digits 10 value (by decide) hpos]

theorem decimalWidth_byte (byte : UInt8) : decimalWidth byte.toNat ≤ 3 := by
  have hlog : Nat.log 10 byte.toNat < 3 :=
    Nat.log_lt_of_lt_pow' (by decide) (byte.toNat_lt.trans (by decide))
  unfold decimalWidth
  omega

/-- The length of the JSON array of some bytes. -/
def arrayWidth (bytes : Bytes) : Nat :=
  2 + (bytes.map fun byte => decimalWidth byte.toNat).sum + (bytes.length - 1)

theorem length_renderItems (bytes : Bytes) :
    (renderItems (bytes.map fun byte => .num byte.toNat)).length =
      1 + (bytes.map fun byte => decimalWidth byte.toNat).sum + bytes.length := by
  induction bytes with
  | nil => rfl
  | cons byte bytes ih =>
      simp only [List.map_cons, renderItems, render, List.length_cons, List.length_append,
        length_renderNat, ih, List.sum_cons]
      omega

theorem length_render_ofBytes (bytes : Bytes) :
    (Serde.ofBytes bytes).render.length = arrayWidth bytes := by
  cases bytes with
  | nil => rfl
  | cons byte bytes =>
      simp only [Serde.ofBytes, List.map_cons, render, List.length_cons, List.length_append,
        length_renderNat, length_renderItems, arrayWidth, List.sum_cons]
      omega

theorem sum_decimalWidth_le (bytes : Bytes) :
    (bytes.map fun byte => decimalWidth byte.toNat).sum ≤ 3 * bytes.length := by
  induction bytes with
  | nil => exact Nat.le_refl 0
  | cons byte bytes ih =>
      have hbyte := decimalWidth_byte byte
      simp only [List.map_cons, List.sum_cons, List.length_cons]
      omega

theorem arrayWidth_le (bytes : Bytes) : arrayWidth bytes ≤ 2 + 4 * bytes.length := by
  have hsum := sum_decimalWidth_le bytes
  unfold arrayWidth
  omega

theorem arrayWidth_replicate (count : Nat) (byte : UInt8) :
    arrayWidth (List.replicate count byte) =
      2 + count * decimalWidth byte.toNat + (count - 1) := by
  rw [arrayWidth, List.map_replicate, List.sum_replicate_nat, List.length_replicate]

end Json

end Foundation

namespace Network

open Foundation

variable {ext : Externals}

/-- The cipher seals every message of a size that occurs and adds a tag of 16 bytes. -/
def Externals.CipherSeals (ext : Externals) : Prop :=
  ∀ key nonce message associatedData, message.length < 2 ^ 32 →
    ∃ ciphertext, ext.aeadEncrypt key nonce message associatedData = some ciphertext ∧
      ciphertext.length = message.length + 16

namespace EncryptedChannel

/-- An established channel as the loops open it, with nothing in its queue. -/
structure Ready (channel : EncryptedChannel) : Prop where
  established : channel.state = .established
  session : channel.session.state = .established
  version : channel.protocolVersion = channelProtocolVersion
  frameSize : channel.maximumFrameSize = 4096
  pending : channel.maximumPendingMessages = 8
  queue : channel.pendingOutbound = []

theorem ready_of_open {session : SecureSession} {channel : EncryptedChannel}
    (hopen : EncryptedChannel.open session channelProtocolVersion 4096 8 = .ok channel) :
    Ready channel := by
  obtain ⟨⟨hsession, _⟩, rfl⟩ := open_eq_ok.mp hopen
  exact ⟨rfl, hsession, rfl, rfl, rfl, rfl⟩

/-- What is sealed for a payload: the counter, the JSON text of the message and the tag. -/
def sealedWidth (payload : Bytes) : Nat := 8 + (14 + Json.arrayWidth payload) + 16

/-- The length of the next frame: its length field, its header and what was sealed. -/
def frameWidth (channel : EncryptedChannel) (payload : Bytes) : Nat :=
  4 + (107 + Json.arrayWidth channel.session.sessionId.bytes.toList +
    Json.decimalWidth channel.sendSequence.toNat + Json.decimalWidth (sealedWidth payload)) +
    sealedWidth payload

theorem length_render_dataPlane (payload : Bytes) :
    (ChannelMessage.dataPlane payload).toJson.render.length = 14 + Json.arrayWidth payload := by
  have hname : (Json.renderText "DataPlane").length = 11 := by decide
  simp only [ChannelMessage.toJson, Json.render, Json.renderFields, List.length_cons,
    List.length_append, hname, Json.length_render_ofBytes, List.length_nil]
  omega

theorem sealedWidth_lt {payload : Bytes} (hpayload : payload.length ≤ defaultMaximumPayloadSize) :
    sealedWidth payload < 2 ^ 32 := by
  have hwidth := Json.arrayWidth_le payload
  unfold defaultMaximumPayloadSize at hpayload
  unfold sealedWidth
  omega

theorem length_nextFrame {channel : EncryptedChannel} {payload ciphertext : Bytes}
    (hversion : channel.protocolVersion = channelProtocolVersion)
    (hpayload : payload.length ≤ defaultMaximumPayloadSize)
    (hsealed : ciphertext.length = sealedWidth payload) :
    (channel.nextFrame (.dataPlane payload) ciphertext).length = frameWidth channel payload := by
  have hlength : (UInt32.ofNat (sealedWidth payload)).toNat = sealedWidth payload :=
    UInt32.toNat_ofNat_of_lt (sealedWidth_lt hpayload)
  have hversionText : (Json.renderText "1.0").length = 5 := by decide
  have hnames : (Json.renderText "protocol_version").length = 18 ∧
      (Json.renderText "session_id").length = 12 ∧ (Json.renderText "message_type").length = 14 ∧
      (Json.renderText "DataPlane").length = 11 ∧
      (Json.renderText "sequence_number").length = 17 ∧
      (Json.renderText "ciphertext_length").length = 19 := by decide
  simp only [nextFrame, nextHeader, frameBytes, FrameHeader.toJson, FrameHeader.fieldNames,
    hversion, channelProtocolVersion, ChannelMessage.messageType, MessageType.toJson,
    SessionId.toJson, List.zip_cons_cons, List.zip_nil_right, Json.render, Json.renderFields,
    List.length_append, List.length_cons, List.length_nil, Bytes.length_bigEndian,
    Json.length_render_ofBytes, Json.length_renderNat, hlength, hversionText, hnames, hsealed,
    frameWidth]
  omega

/-- What a channel whose queue is empty needs to send a payload. -/
theorem canSend_iff_frameWidth {channel : EncryptedChannel} {payload : Bytes}
    (hcipher : ext.CipherSeals) (hready : Ready channel)
    (hpayload : payload.length ≤ defaultMaximumPayloadSize) :
    DataPlane.CanSend ext channel payload ↔
      channel.sendSequence.toNat + 1 < 2 ^ 64 ∧ channel.session.sendNonce.toNat + 1 < 2 ^ 64 ∧
        frameWidth channel payload ≤ 4096 := by
  have hsmall : (ChannelMessage.dataPlane payload).toJson.render.length < 2 ^ 32 := by
    have hwidth := sealedWidth_lt hpayload
    rw [length_render_dataPlane]
    unfold sealedWidth at hwidth
    omega
  -- The tag makes every ciphertext longer by the same amount, so the frame has one width.
  have hlength {ciphertext : Bytes} (hsealed : ext.aeadEncrypt channel.session.sendKey
      (nonceFromCounter channel.session.sendNonce) (ChannelMessage.dataPlane payload).toJson.render
      (channel.nextHeader (.dataPlane payload)).associatedData = some ciphertext) :
      (channel.nextFrame (.dataPlane payload) (Bytes.bigEndian 8 channel.session.sendNonce.toNat ++
        ciphertext)).length = frameWidth channel payload := by
    obtain ⟨_, hsealed', htag⟩ := hcipher channel.session.sendKey _ _
      (channel.nextHeader (.dataPlane payload)).associatedData hsmall
    obtain rfl := Option.some.inj (hsealed.symm.trans hsealed')
    refine length_nextFrame hready.version hpayload ?_
    rw [List.length_append, Bytes.length_bigEndian, htag, length_render_dataPlane, sealedWidth]
    omega
  constructor
  · intro hcan
    obtain ⟨ciphertext, hsealed, hfits⟩ := hcan.fits
    rw [hlength hsealed, hready.frameSize] at hfits
    exact ⟨hcan.sequence, hcan.nonce, hfits⟩
  · rintro ⟨hsequence, hnonce, hfits⟩
    obtain ⟨ciphertext, hsealed, _⟩ := hcipher channel.session.sendKey
      (nonceFromCounter channel.session.sendNonce) _
      (channel.nextHeader (.dataPlane payload)).associatedData hsmall
    refine ⟨hpayload, hready.established, hready.session, hsequence,
      hnonce, ?_, ciphertext, hsealed,
      ?_⟩
    · rw [hready.queue, hready.pending]
      decide
    · rw [hlength hsealed, hready.frameSize]
      exact hfits

/-- A payload within the limit of the data plane is sent exactly when its frame keeps to the limit
of the channel and no counter is exhausted. -/
theorem send_isOk_iff_frameWidth {channel : EncryptedChannel} {payload : Bytes}
    (hcipher : ext.CipherSeals) (hready : Ready channel)
    (hpayload : payload.length ≤ defaultMaximumPayloadSize) :
    (DataPlane.send ext defaultMaximumPayloadSize payload channel).1.IsOk ↔
      channel.sendSequence.toNat + 1 < 2 ^ 64 ∧ channel.session.sendNonce.toNat + 1 < 2 ^ 64 ∧
        frameWidth channel payload ≤ 4096 := by
  rw [DataPlane.send_isOk, canSend_iff_frameWidth hcipher hready hpayload]

/-- The reference instance with a cipher that adds a tag of 16 bytes. -/
noncomputable def taggingReference : Externals :=
  { reference with
    aeadEncrypt := fun _ _ message _ => some (message ++ List.replicate 16 0)
    aeadDecrypt := fun _ _ ciphertext _ => some (ciphertext.take (ciphertext.length - 16)) }

theorem taggingReference_cipherSeals : taggingReference.CipherSeals := by
  intro _ _ message _ _
  exact ⟨message ++ List.replicate 16 0, rfl, by simp⟩

/-- A channel on which nothing was sent. -/
noncomputable def unusedChannel : EncryptedChannel where
  session := deriveSession taggingReference ⟨Vector.replicate 16 7⟩ ⟨[2]⟩ (.oneHop ⟨[2]⟩)
    .initiator (Vector.replicate 32 1) "1.0"
  state := .established
  protocolVersion := channelProtocolVersion
  maximumFrameSize := 4096
  maximumPendingMessages := 8
  pendingOutbound := []
  sendSequence := 0
  receiveSequence := 0

theorem unusedChannel_opened :
    EncryptedChannel.open unusedChannel.session channelProtocolVersion 4096 8 =
      .ok unusedChannel := rfl

theorem send_isOk_iff_frameWidth_hello :
    (DataPlane.send taggingReference defaultMaximumPayloadSize
      (Bytes.ofText "hello ghost layer") unusedChannel).1.IsOk := by
  refine (send_isOk_iff_frameWidth taggingReference_cipherSeals
    (ready_of_open unusedChannel_opened) (by decide)).mpr ⟨by decide, by decide, ?_⟩
  decide

/-- The largest payload that the data plane lets through has a frame of more than eight thousand
bytes. -/
theorem largest_payload_refused :
    (List.replicate 2048 (255 : UInt8)).length ≤ defaultMaximumPayloadSize ∧
      EncryptedChannel.open unusedChannel.session channelProtocolVersion 4096 8 =
        .ok unusedChannel ∧
      ¬ (DataPlane.send taggingReference defaultMaximumPayloadSize
        (List.replicate 2048 255) unusedChannel).1.IsOk := by
  have hsize : (List.replicate 2048 (255 : UInt8)).length ≤ defaultMaximumPayloadSize :=
    List.length_replicate.le
  refine ⟨hsize, unusedChannel_opened, ?_⟩
  rw [DataPlane.send_isOk, canSend_iff_frameWidth taggingReference_cipherSeals
    (ready_of_open unusedChannel_opened) hsize]
  rintro ⟨-, -, hfits⟩
  have hdigits : Json.decimalWidth (255 : UInt8).toNat = 3 := by decide
  unfold frameWidth sealedWidth at hfits
  rw [Json.arrayWidth_replicate, hdigits] at hfits
  omega

end EncryptedChannel

end Network
