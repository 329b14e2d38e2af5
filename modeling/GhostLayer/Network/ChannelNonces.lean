import GhostLayer.Network.ChannelLaws
import GhostLayer.Network.Reference
import Mathlib.Data.List.Pairwise

/-! # Nonces are never reused

A send that is refused after encryption gives its sequence number back but not
its nonce. Over any run of operations on a channel and on the session inside it,
every call of the cipher under the send key takes a nonce above all earlier ones.
-/

namespace Network

open Foundation

variable {ext : Externals}

/-- An operation on a channel, or on the session inside it. -/
inductive ChannelOperation where
  | send (message : ChannelMessage)
  | receive (frame : Bytes)
  | takePending
  | close
  | markRemoteClosed
  | encrypt (plaintext associatedData : Bytes)
  | decrypt (ciphertext associatedData : Bytes)
  | closeSession

namespace ChannelOperation

def run (ext : Externals) (channel : EncryptedChannel) : ChannelOperation → EncryptedChannel
  | .send message => (EncryptedChannel.send ext message channel).2
  | .receive frame => (EncryptedChannel.receive ext frame channel).2
  | .takePending => channel.takePending.2
  | .close => (EncryptedChannel.close channel).2
  | .markRemoteClosed => channel.markRemoteClosed
  | .encrypt plaintext associatedData =>
      (EncryptedChannel.onSession (SecureSession.encrypt ext plaintext associatedData) channel).2
  | .decrypt ciphertext associatedData =>
      (EncryptedChannel.onSession (SecureSession.decrypt ext ciphertext associatedData) channel).2
  | .closeSession => (EncryptedChannel.onSession SecureSession.close channel).2

def runAll (ext : Externals) (channel : EncryptedChannel) (operations : List ChannelOperation) :
    EncryptedChannel :=
  operations.foldl (run ext) channel

end ChannelOperation

namespace SecureSession

/-- One session follows another with at most one call of the cipher between them. -/
def Continues (session final : SecureSession) : Prop :=
  final.sendKey = session.sendKey ∧
    ((final.sealings = session.sealings ∧ final.sendNonce = session.sendNonce) ∨
      ∃ sealing, sealing.nonce = session.sendNonce ∧
        checkedSucc session.sendNonce = some final.sendNonce ∧
        final.sealings = session.sealings ++ [sealing])

theorem Continues.refl (session : SecureSession) : session.Continues session :=
  ⟨rfl, .inl ⟨rfl, rfl⟩⟩

variable (ext) in
theorem encrypt_continues (plaintext associatedData : Bytes) (session : SecureSession) :
    session.Continues (encrypt ext plaintext associatedData session).2 := by
  rcases encrypt_state ext plaintext associatedData session with
    hsame | ⟨next, hnext, hsealed⟩
  · rw [hsame]
    exact .refl session
  · rw [hsealed]
    exact ⟨rfl, .inr ⟨_, rfl, hnext, rfl⟩⟩

variable (ext) in
theorem decrypt_continues (ciphertext associatedData : Bytes) (session : SecureSession) :
    session.Continues (decrypt ext ciphertext associatedData session).2 := by
  by_cases hopens : ∃ plaintext, (decrypt ext ciphertext associatedData session).1 = .ok plaintext
  · obtain ⟨plaintext, hopens⟩ := hopens
    rcases hrun : decrypt ext ciphertext associatedData session with ⟨outcome, final⟩
    rw [hrun] at hopens
    obtain rfl : outcome = .ok plaintext := hopens
    obtain ⟨_, _, _, _, rfl⟩ := decrypt_eq_ok.mp hrun
    exact ⟨rfl, .inl ⟨rfl, rfl⟩⟩
  · obtain ⟨reason, hfails⟩ := decrypt_fails (not_exists.mp hopens)
    rw [hfails]
    exact .refl session

theorem close_continues (session : SecureSession) : session.Continues (close session).2 := by
  rcases close_state session with hsame | hclosed
  · rw [hsame]
    exact .refl session
  · rw [hclosed]
    exact ⟨rfl, .inl ⟨rfl, rfl⟩⟩

end SecureSession

namespace EncryptedChannel

theorem send_continues (message : ChannelMessage) (channel : EncryptedChannel) :
    channel.session.Continues (send ext message channel).2.session := by
  rcases send_cases ext message channel with ⟨frame, final, hsend⟩ | ⟨reason, hsend⟩ |
    ⟨reason, next, _, hsend⟩ | ⟨reason, _, hsend⟩
  · obtain ⟨_, next, ciphertext, session, _, hrun, _, _, _, rfl⟩ := send_eq_ok.mp hsend
    rw [hsend]
    have hcontinues := SecureSession.encrypt_continues ext message.toJson.render
      (channel.nextHeader message).associatedData channel.session
    rw [hrun] at hcontinues
    exact hcontinues
  · rw [hsend]
    exact .refl _
  · rw [hsend]
    exact SecureSession.encrypt_continues _ _ _ _
  · rw [hsend]
    exact SecureSession.encrypt_continues _ _ _ _

theorem receive_continues (frame : Bytes) (channel : EncryptedChannel) :
    channel.session.Continues (receive ext frame channel).2.session := by
  rcases receive_cases ext frame channel with ⟨message, final, hreceive⟩ |
    ⟨reason, hreceive⟩ | ⟨reason, header, ciphertext, plaintext, session, _, hrun, hreceive⟩
  · obtain ⟨header, ciphertext, plaintext, session, next, _, hrun, _, _, _, rfl⟩ :=
      receive_eq_ok.mp hreceive
    rw [hreceive]
    have hcontinues := SecureSession.decrypt_continues ext ciphertext
      header.associatedData channel.session
    rw [hrun] at hcontinues
    exact hcontinues
  · rw [hreceive]
    exact .refl _
  · rw [hreceive]
    have hcontinues := SecureSession.decrypt_continues ext ciphertext
      header.associatedData channel.session
    rw [hrun] at hcontinues
    exact hcontinues

theorem close_continues (channel : EncryptedChannel) :
    channel.session.Continues (close channel).2.session := by
  obtain ⟨state, sessionState, hclose, _⟩ := close_state channel
  rw [hclose]
  exact ⟨rfl, .inl ⟨rfl, rfl⟩⟩

end EncryptedChannel

/-- Whatever operation is run, the cipher is called at most once and with the next nonce. -/
theorem ChannelOperation.run_continues (channel : EncryptedChannel)
    (operation : ChannelOperation) :
    channel.session.Continues (operation.run ext channel).session := by
  cases operation with
  | send message => exact EncryptedChannel.send_continues message channel
  | receive frame => exact EncryptedChannel.receive_continues frame channel
  | takePending => exact .refl _
  | close => exact EncryptedChannel.close_continues channel
  | markRemoteClosed => exact .refl _
  | encrypt plaintext associatedData =>
      rw [run, EncryptedChannel.onSession_session]
      exact SecureSession.encrypt_continues _ _ _ _
  | decrypt ciphertext associatedData =>
      rw [run, EncryptedChannel.onSession_session]
      exact SecureSession.decrypt_continues _ _ _ _
  | closeSession =>
      rw [run, EncryptedChannel.onSession_session]
      exact SecureSession.close_continues _

/-- The nonces used so far are strictly increasing and below the next one. -/
structure NoncesOrdered (key : Bytes32) (session : SecureSession) : Prop where
  sendKey : session.sendKey = key
  increasing : (session.sealings.map Sealing.nonce).Pairwise (· < ·)
  below : ∀ sealing ∈ session.sealings, sealing.nonce < session.sendNonce

theorem NoncesOrdered.step {key : Bytes32} {session final : SecureSession}
    (hordered : NoncesOrdered key session) (hcontinues : session.Continues final) :
    NoncesOrdered key final := by
  obtain ⟨hkey, ⟨hsealings, hnonce⟩ | ⟨sealing, hsealing, hnext, hsealings⟩⟩ := hcontinues
  · exact ⟨hkey.trans hordered.sendKey, hsealings ▸ hordered.increasing,
      fun sealing hmem => hnonce ▸ hordered.below sealing (hsealings ▸ hmem)⟩
  · have hlt : session.sendNonce < final.sendNonce := by
      rw [UInt64.lt_iff_toNat_lt, checkedSucc_eq_some.mp hnext]
      omega
    refine ⟨hkey.trans hordered.sendKey, ?_, ?_⟩
    · rw [hsealings, List.map_append, List.pairwise_append]
      refine ⟨hordered.increasing, List.pairwise_singleton _ _, ?_⟩
      intro nonce hnonce other hother
      obtain ⟨earlier, hearlier, rfl⟩ := List.mem_map.mp hnonce
      rw [List.map_singleton, List.mem_singleton] at hother
      rw [hother, hsealing]
      exact hordered.below earlier hearlier
    · intro other hother
      rw [hsealings, List.mem_append, List.mem_singleton] at hother
      rcases hother with hearlier | rfl
      · exact UInt64.lt_trans (hordered.below other hearlier) hlt
      · rw [hsealing]
        exact hlt

variable (ext) in
theorem NoncesOrdered.runAll {key : Bytes32} {channel : EncryptedChannel}
    (hordered : NoncesOrdered key channel.session) (operations : List ChannelOperation) :
    NoncesOrdered key (ChannelOperation.runAll ext channel operations).session := by
  induction operations generalizing channel with
  | nil => exact hordered
  | cons operation operations ih =>
      exact ih (hordered.step (ChannelOperation.run_continues channel operation))

theorem toNat_nonceFromCounter (counter : UInt64) :
    Bytes.toNat (nonceFromCounter counter) = counter.toNat := by
  have hfits : counter.toNat < 256 ^ 8 := counter.toNat_lt
  have hzeros : Bytes.toNat (nonceFromCounter counter) =
      Bytes.toNat (Bytes.bigEndian 8 counter.toNat) := by
    simp [nonceFromCounter, Bytes.toNat, List.replicate]
  rw [hzeros, Bytes.toNat_bigEndian_of_lt hfits]

/-- On a session whose cipher was not called yet, whatever its counter, every run of operations
calls the cipher under one key and with strictly increasing nonces. -/
theorem cipher_nonces_increase (channel : EncryptedChannel)
    (hunused : channel.session.sealings = []) (operations : List ChannelOperation) :
    let final := (ChannelOperation.runAll ext channel operations).session
    final.sendKey = channel.session.sendKey ∧
      (final.sealings.map
        (fun sealing => Bytes.toNat (nonceFromCounter sealing.nonce))).Pairwise (· < ·) := by
  have hstart : NoncesOrdered channel.session.sendKey channel.session :=
    ⟨rfl, by simp [hunused], by simp [hunused]⟩
  have hordered := hstart.runAll ext operations
  refine ⟨hordered.sendKey, ?_⟩
  have hincreasing := hordered.increasing
  rw [List.pairwise_map] at hincreasing ⊢
  refine hincreasing.imp ?_
  intro first second hlt
  rw [toNat_nonceFromCounter, toNat_nonceFromCounter]
  exact UInt64.lt_iff_toNat_lt.mp hlt

/-- A channel with room for one message, whose second send is refused after encryption. -/
theorem cipher_nonces_increase_refused :
    let channel : EncryptedChannel := ⟨deriveSession reference ⟨Vector.replicate 16 7⟩ ⟨[2]⟩
      (.oneHop ⟨[2]⟩) .initiator (Vector.replicate 32 3) "1.0", .established, "1.0", 4096, 1, [], 0,
      0⟩
    channel.session.sealings = [] ∧
      let final := (ChannelOperation.runAll reference channel
        [.send .ping, .send .ping, .takePending, .send .pong]).session
      final.sendKey = channel.session.sendKey ∧
        (final.sealings.map
          (fun sealing => Bytes.toNat (nonceFromCounter sealing.nonce))).Pairwise (· < ·) :=
  ⟨rfl, cipher_nonces_increase _ rfl _⟩

end Network
