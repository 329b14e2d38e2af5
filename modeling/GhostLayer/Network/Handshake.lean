import GhostLayer.Foundation.Transition
import GhostLayer.Network.SessionLaws
import GhostLayer.Network.Reference
import Mathlib.Data.List.Pairwise
import Mathlib.Logic.Function.Basic

/-! # The handshake completes

Two parties that follow the handshake end with the same keys, the directions
swapped. From then on every message that one side encrypts is decrypted by the
other, whatever the interleaving of the two directions, as long as each
direction delivers in order.
-/

namespace Network

open Foundation

variable {ext : Externals}

/-- The other end of a session. -/
def SessionRole.other : SessionRole → SessionRole
  | .initiator => .responder
  | .responder => .initiator

@[simp] theorem SessionRole.other_other (role : SessionRole) : role.other.other = role := by
  cases role <;> rfl

@[simp] theorem SessionRole.other_ne (role : SessionRole) : role.other ≠ role := by
  cases role <;> decide

@[simp] theorem SessionRole.ne_other (role : SessionRole) : role ≠ role.other := by
  cases role <;> decide

theorem SessionRole.eq_other_of_ne {role role' : SessionRole} (hne : role ≠ role') :
    role = role'.other := by
  cases role <;> cases role' <;> simp_all [SessionRole.other]

/-! ## Conversations over a session -/

/-- A message that was encrypted and is on its way. -/
structure Encrypted where
  plaintext : Bytes
  associatedData : Bytes
  ciphertext : Bytes

/-- Both ends of a session, and what each of them has in flight, oldest first. -/
structure Conversation where
  session : SessionRole → SecureSession
  inFlight : SessionRole → List Encrypted

namespace Conversation

/-- What a call of `encrypt` hands to the network. -/
def released (plaintext associatedData : Bytes) :
    Outcome SessionError Bytes → List Encrypted
  | .ok ciphertext => [⟨plaintext, associatedData, ciphertext⟩]
  | _ => []

/-- One side encrypts, or the other side decrypts the oldest message in flight. -/
inductive Step (ext : Externals) : Conversation → Conversation → Prop
  | encrypt (conversation : Conversation) (role : SessionRole) (plaintext associatedData : Bytes) :
      Step ext conversation {
        session := Function.update conversation.session role
          (SecureSession.encrypt ext plaintext associatedData (conversation.session role)).2
        inFlight := Function.update conversation.inFlight role (conversation.inFlight role ++
          released plaintext associatedData
            (SecureSession.encrypt ext plaintext associatedData (conversation.session role)).1) }
  | decrypt (conversation : Conversation) (role : SessionRole) (message : Encrypted)
      (rest : List Encrypted) (hnext : conversation.inFlight role = message :: rest) :
      Step ext conversation {
        session := Function.update conversation.session role.other
          (SecureSession.decrypt ext message.ciphertext message.associatedData
            (conversation.session role.other)).2
        inFlight := Function.update conversation.inFlight role rest }

/-- The receiver can open what the sender has in flight, in the order it was sent. -/
structure InStep (ext : Externals) (sender receiver : SecureSession) (flight : List Encrypted) :
    Prop where
  established : receiver.state = .established
  key : receiver.receiveKey = sender.sendKey
  sealing : ∀ message ∈ flight, ∃ nonce ciphertext,
    message.ciphertext = Bytes.bigEndian 8 nonce.toNat ++ ciphertext ∧
    ext.aeadEncrypt sender.sendKey (nonceFromCounter nonce) message.plaintext
      message.associatedData = some ciphertext
  below : ∀ message ∈ flight, counterOf message.ciphertext < sender.sendNonce
  ordered : (flight.map (counterOf ·.ciphertext)).Pairwise (· < ·)
  above : ∀ last ∈ receiver.lastReceivedNonce,
    last < sender.sendNonce ∧ ∀ message ∈ flight, last < counterOf message.ciphertext

theorem lt_of_checkedSucc {counter next : UInt64} (hnext : checkedSucc counter = some next) :
    counter < next := by
  rw [UInt64.lt_iff_toNat_lt, checkedSucc_eq_some.mp hnext]
  omega

/-- A nonce that is used and not released leaves a gap, which the receiver tolerates. -/
theorem InStep.skip {sender receiver : SecureSession} {flight : List Encrypted}
    (hstep : InStep ext sender receiver flight) {next : UInt64}
    (hnext : checkedSucc sender.sendNonce = some next) (plaintext associatedData : Bytes) :
    InStep ext (sender.sealed next plaintext associatedData) receiver flight := by
  have hlt := lt_of_checkedSucc hnext
  refine ⟨hstep.established, hstep.key, hstep.sealing, ?_, hstep.ordered, ?_⟩
  · intro message hmessage
    exact UInt64.lt_trans (hstep.below message hmessage) hlt
  · intro last hlast
    obtain ⟨hsend, hflight⟩ := hstep.above last hlast
    exact ⟨UInt64.lt_trans hsend hlt, hflight⟩

/-- A direction stays in step when its sender encrypts. -/
theorem InStep.encrypt {sender receiver : SecureSession} {flight : List Encrypted}
    (hstep : InStep ext sender receiver flight) (plaintext associatedData : Bytes) :
    InStep ext (SecureSession.encrypt ext plaintext associatedData sender).2 receiver
      (flight ++ released plaintext associatedData
        (SecureSession.encrypt ext plaintext associatedData sender).1) := by
  rcases hrun : SecureSession.encrypt ext plaintext associatedData sender with ⟨outcome, final⟩
  have hfinal := SecureSession.encrypt_state ext plaintext associatedData sender
  rw [hrun] at hfinal
  -- A nonce is used up also where the encryption fails, which only skips one.
  have hkept : InStep ext final receiver flight := by
    rcases hfinal with rfl | ⟨next, hnext, rfl⟩
    · exact hstep
    · exact hstep.skip hnext plaintext associatedData
  cases outcome with
  | ok output =>
      obtain ⟨_, next, ciphertext, hnext, hcipher, houtput, hsealed⟩ :=
        SecureSession.encrypt_eq_ok.mp hrun
      subst houtput hsealed
      refine ⟨hkept.established, hkept.key, ?_, ?_, ?_, ?_⟩
      · intro message hmessage
        rcases List.mem_append.mp hmessage with hold | hnew
        · exact hkept.sealing message hold
        · rw [List.mem_singleton.mp hnew]
          exact ⟨sender.sendNonce, ciphertext, rfl, hcipher⟩
      · intro message hmessage
        rcases List.mem_append.mp hmessage with hold | hnew
        · exact hkept.below message hold
        · rw [List.mem_singleton.mp hnew, counterOf_append]
          exact lt_of_checkedSucc hnext
      · simp only [released, List.map_append, List.map_cons, List.map_nil, counterOf_append,
          List.pairwise_append, List.pairwise_singleton, List.mem_singleton, forall_eq, true_and]
        refine ⟨hstep.ordered, ?_⟩
        intro counter hcounter
        obtain ⟨message, hmessage, rfl⟩ := List.mem_map.mp hcounter
        exact hstep.below message hmessage
      · intro last hlast
        refine ⟨(hkept.above last hlast).1, ?_⟩
        intro message hmessage
        rcases List.mem_append.mp hmessage with hold | hnew
        · exact (hkept.above last hlast).2 message hold
        · rw [List.mem_singleton.mp hnew, counterOf_append]
          exact (hstep.above last hlast).1
  | error reason => simpa only [released, List.append_nil] using hkept
  | panic => simpa only [released, List.append_nil] using hkept

/-- The oldest message in flight is the next one its receiver opens. -/
theorem InStep.head_decrypts (hcipher : ext.CipherOpens) {sender receiver : SecureSession}
    {message : Encrypted} {rest : List Encrypted}
    (hstep : InStep ext sender receiver (message :: rest)) :
    SecureSession.decrypt ext message.ciphertext message.associatedData receiver =
      (.ok message.plaintext,
        { receiver with lastReceivedNonce := some (counterOf message.ciphertext) }) := by
  obtain ⟨nonce, ciphertext, hbytes, hsealed⟩ := hstep.sealing message List.mem_cons_self
  have hcounter : counterOf message.ciphertext = nonce := by rw [hbytes, counterOf_append]
  refine SecureSession.decrypt_eq_ok.mpr ⟨hstep.established, ?_, ?_, ?_, rfl⟩
  · simp [hbytes]
  · intro last hlast
    exact (hstep.above last hlast).2 message List.mem_cons_self
  · have hdrop : message.ciphertext.drop 8 = ciphertext := by simp [hbytes]
    rw [hcounter, hdrop, hstep.key]
    exact hcipher _ _ _ _ _ hsealed

/-- A direction stays in step when its receiver opens the oldest message. -/
theorem InStep.deliver {sender receiver : SecureSession} {message : Encrypted}
    {rest : List Encrypted} (hstep : InStep ext sender receiver (message :: rest)) :
    InStep ext sender { receiver with lastReceivedNonce := some (counterOf message.ciphertext) }
      rest := by
  have hordered := hstep.ordered
  rw [List.map_cons, List.pairwise_cons] at hordered
  refine ⟨hstep.established, hstep.key,
    fun other hother => hstep.sealing other (List.mem_cons_of_mem _ hother),
    fun other hother => hstep.below other (List.mem_cons_of_mem _ hother), hordered.2, ?_⟩
  intro last hlast
  obtain rfl : counterOf message.ciphertext = last := Option.some.inj hlast
  exact ⟨hstep.below message List.mem_cons_self,
    fun other hother => hordered.1 _ (List.mem_map_of_mem hother)⟩

/-- What a direction needs of its sender is not touched by what the sender receives. -/
theorem InStep.sender_receives {sender receiver : SecureSession} {flight : List Encrypted}
    (hstep : InStep ext sender receiver flight) (last : Option UInt64) :
    InStep ext { sender with lastReceivedNonce := last } receiver flight :=
  ⟨hstep.established, hstep.key, hstep.sealing, hstep.below, hstep.ordered, hstep.above⟩

/-- What a direction needs of its receiver is not touched by what the receiver sends. -/
theorem InStep.receiver_encrypts {sender receiver : SecureSession} {flight : List Encrypted}
    (hstep : InStep ext sender receiver flight) (plaintext associatedData : Bytes) :
    InStep ext sender (SecureSession.encrypt ext plaintext associatedData receiver).2 flight := by
  rcases SecureSession.encrypt_state ext plaintext associatedData receiver with
    hsame | ⟨next, _, hsealed⟩
  · rw [hsame]
    exact hstep
  · rw [hsealed]
    exact ⟨hstep.established, hstep.key, hstep.sealing, hstep.below, hstep.ordered, hstep.above⟩

/-- Both directions of a conversation are in step. -/
def Synchronized (ext : Externals) (conversation : Conversation) : Prop :=
  ∀ role, InStep ext (conversation.session role) (conversation.session role.other)
    (conversation.inFlight role)

/-- A step of a conversation keeps both directions in step. -/
theorem Synchronized.step (hcipher : ext.CipherOpens) {conversation next : Conversation}
    (hsync : Synchronized ext conversation) (hstep : Step ext conversation next) :
    Synchronized ext next := by
  cases hstep with
  | encrypt role plaintext associatedData =>
      intro direction
      by_cases hrole : direction = role
      · subst hrole
        simpa using (hsync direction).encrypt plaintext associatedData
      · obtain rfl := SessionRole.eq_other_of_ne hrole
        simpa using (hsync role.other).receiver_encrypts plaintext associatedData
  | decrypt role message rest hnext =>
      have hhead := hsync role
      rw [hnext] at hhead
      rw [hhead.head_decrypts hcipher]
      intro direction
      by_cases hrole : direction = role
      · subst hrole
        simpa using hhead.deliver
      · obtain rfl := SessionRole.eq_other_of_ne hrole
        simpa using (hsync role.other).sender_receives (some (counterOf message.ciphertext))

/-- Conversations over the two sessions of a handshake. -/
def system (ext : Externals) (initiator responder : SecureSession) : System Conversation where
  init := (· = ⟨fun | .initiator => initiator | .responder => responder, fun _ => []⟩)
  step := Step ext

/-- Two established sessions with the keys swapped. -/
structure Matched (first second : SecureSession) : Prop where
  first_established : first.state = .established
  second_established : second.state = .established
  first_to_second : second.receiveKey = first.sendKey
  second_to_first : first.receiveKey = second.sendKey
  first_fresh : first.lastReceivedNonce = none
  second_fresh : second.lastReceivedNonce = none

/-- Over matched sessions, the oldest message in flight is always the next one opened. -/
theorem delivered_decrypts (hcipher : ext.CipherOpens) {initiator responder : SecureSession}
    (hmatched : Matched initiator responder) {conversation : Conversation}
    (hreach : (system ext initiator responder).Reachable conversation) {role : SessionRole}
    {message : Encrypted} {rest : List Encrypted}
    (hnext : conversation.inFlight role = message :: rest) :
    (SecureSession.decrypt ext message.ciphertext message.associatedData
      (conversation.session role.other)).1 = .ok message.plaintext := by
  have hsync : Synchronized ext conversation := by
    refine hreach.invariant _ ?_ (fun _ _ _ hsync hstep => hsync.step hcipher hstep)
    rintro _ rfl role
    cases role with
    | initiator =>
        exact ⟨hmatched.second_established, hmatched.first_to_second, by simp, by simp, by simp,
          by simp [SessionRole.other, hmatched.second_fresh]⟩
    | responder =>
        exact ⟨hmatched.first_established, hmatched.second_to_first, by simp, by simp, by simp,
          by simp [SessionRole.other, hmatched.first_fresh]⟩
  have hhead := hsync role
  rw [hnext] at hhead
  rw [hhead.head_decrypts hcipher]

end Conversation

/-! ## The two ends of a handshake -/

variable (ext) in
/-- The keys of the two roles are the same two keys, swapped. -/
theorem deriveSession_matched (sessionId : SessionId) (responderPeer initiatorPeer : PeerId)
    (route : RouteBinding) (shared : Bytes32) (protocol : String) :
    Conversation.Matched
      (deriveSession ext sessionId responderPeer route .initiator shared protocol)
      (deriveSession ext sessionId initiatorPeer route .responder shared protocol) :=
  ⟨rfl, rfl, rfl, rfl, rfl, rfl⟩

section Completeness

variable {initiatorIdentity responderIdentity : Keypair} {route : RouteBinding}
  {protocolVersion : String} {sessionId : SessionId} {initiatorSecret responderSecret : Bytes32}

variable (ext) in
/-- The initialization a new initiator sends. -/
theorem buildInit_of_new {expectedPeer : PeerId} {initiator : SessionInitiator}
    (hnew : SessionInitiator.new initiatorIdentity expectedPeer route protocolVersion sessionId
      initiatorSecret = .ok initiator) :
    ∃ init, initiator.buildInit ext = .ok init ∧
      init.protocolVersion = protocolVersion ∧ init.sessionId = sessionId ∧
      init.initiatorIdentity = ext.peerText (ext.peerOf initiatorIdentity) ∧
      init.responderIdentity = ext.peerText expectedPeer ∧
      init.initiatorPublicKey = ext.encodePublic (ext.publicKey initiatorIdentity) ∧
      init.ephemeralPublicKey = ext.ephemeralPublic initiatorSecret ∧
      init.routeContext = route ∧
      init.authentication = ext.sign initiatorIdentity (transcript ext protocolVersion sessionId
        route (ext.encodePublic (ext.publicKey initiatorIdentity))
        (ext.ephemeralPublic initiatorSecret)) := by
  obtain ⟨_, _, rfl⟩ := SessionInitiator.new_eq_ok.mp hnew
  exact ⟨_, rfl, rfl, rfl, rfl, rfl, rfl, rfl, rfl, rfl⟩

/-- An initialization that its sender built is accepted by the responder it names. -/
theorem validateInit_buildInit (hreads : ext.ReadsIdentities) (hsigns : ext.SignaturesVerify)
    {init : HandshakeInit} {initiator : SessionInitiator}
    (hnew : SessionInitiator.new initiatorIdentity (ext.peerOf responderIdentity) route
      protocolVersion sessionId initiatorSecret = .ok initiator)
    (hinit : initiator.buildInit ext = .ok init) :
    validateInit ext init (ext.peerOf initiatorIdentity) (ext.peerOf responderIdentity)
      init.routeContext protocolVersion = .ok () := by
  obtain ⟨hvalid, _, _⟩ := SessionInitiator.new_eq_ok.mp hnew
  obtain ⟨built, hbuilt, hversion, hsession, hclaimed, hresponder, hkey, hephemeral, hroute,
    hsigned⟩ := buildInit_of_new ext hnew
  obtain rfl : built = init := Except.ok.inj (hbuilt.symm.trans hinit)
  refine validateInit_eq_ok.mpr ⟨hroute ▸ hvalid, hversion, ?_, rfl,
    ext.publicKey initiatorIdentity,
    ?_, ?_, rfl, ?_⟩
  · rw [hresponder, hreads.peer]
  · rw [hkey, hreads.publicKey]
  · rw [hclaimed, hreads.peer]
    rfl
  · rw [hsigned, hsession, hroute, hkey, hephemeral]
    exact hsigns _ _

variable (initiatorIdentity responderIdentity protocolVersion responderSecret) in
/-- The answer to a handshake is accepted by the initiator that started it. -/
theorem validateResponse_handshakeResponse (hreads : ext.ReadsIdentities)
    (hsigns : ext.SignaturesVerify) {init : HandshakeInit}
    (hclaimed : init.initiatorIdentity = ext.peerText (ext.peerOf initiatorIdentity)) :
    validateResponse ext
      (handshakeResponse ext responderIdentity init responderSecret protocolVersion)
      init.sessionId (ext.peerOf initiatorIdentity) (ext.peerOf responderIdentity)
      init.routeContext protocolVersion = .ok () := by
  refine validateResponse_eq_ok.mpr ⟨rfl, rfl, rfl, ?_, ext.publicKey responderIdentity, ?_, rfl,
    hsigns _ _⟩
  · rw [handshakeResponse, hclaimed, hreads.peer]
  · rw [handshakeResponse, hreads.publicKey]

/-- Delivering the two messages of a handshake completes it on both sides, with matching sessions
over which every message is decrypted in the order it was encrypted. -/
theorem handshake_completes (hreads : ext.ReadsIdentities) (hsigns : ext.SignaturesVerify)
    (hcommutes : ext.DiffieHellmanCommutes) (hcipher : ext.CipherOpens)
    (hvalid : route.Valid) (hmember : ext.peerOf responderIdentity ∈ route.peers)
    {seenSessions : Finset SessionId} (hunseen : sessionId ∉ seenSessions)
    (hshared : allZero (ext.diffieHellman initiatorSecret (ext.ephemeralPublic responderSecret)) =
      false) :
    ∃ initiator init response initiatorSession responderSession,
      SessionInitiator.new initiatorIdentity (ext.peerOf responderIdentity) route protocolVersion
        sessionId initiatorSecret = .ok initiator ∧
      initiator.buildInit ext = .ok init ∧
      SessionResponder.acceptInit ext init (ext.peerOf initiatorIdentity) protocolVersion
        responderSecret ⟨responderIdentity, seenSessions⟩ =
          (.ok (response, responderSession),
            ⟨responderIdentity, insert sessionId seenSessions⟩) ∧
      initiator.complete ext response = .ok initiatorSession ∧
      initiatorSession.sessionId = sessionId ∧ responderSession.sessionId = sessionId ∧
      initiatorSession.route = route ∧ responderSession.route = route ∧
      initiatorSession.peerId = ext.peerOf responderIdentity ∧
      responderSession.peerId = ext.peerOf initiatorIdentity ∧
      initiatorSession.sendKey = responderSession.receiveKey ∧
      initiatorSession.receiveKey = responderSession.sendKey ∧
      ∀ conversation,
        (Conversation.system ext initiatorSession responderSession).Reachable conversation →
        ∀ role message rest, conversation.inFlight role = message :: rest →
          (SecureSession.decrypt ext message.ciphertext message.associatedData
            (conversation.session role.other)).1 = .ok message.plaintext := by
  have hnew := SessionInitiator.new_eq_ok.mpr
    ⟨hvalid, hmember, (rfl : SessionInitiator.mk initiatorIdentity (ext.peerOf responderIdentity)
      route protocolVersion sessionId initiatorSecret .negotiating = _)⟩
  obtain ⟨init, hinit, hversion, hsession, hclaimed, _, _, hephemeral, hroute, _⟩ :=
    buildInit_of_new ext hnew
  have hinitValid := validateInit_buildInit hreads hsigns hnew hinit
  subst hsession hroute
  -- Both sides compute one secret, the responder from the ephemeral key that it was sent.
  have hagree : ext.diffieHellman responderSecret init.ephemeralPublicKey =
      ext.diffieHellman initiatorSecret (ext.ephemeralPublic responderSecret) := by
    rw [hephemeral, hcommutes]
  have haccept : SessionResponder.acceptInit ext init (ext.peerOf initiatorIdentity)
      protocolVersion responderSecret ⟨responderIdentity, seenSessions⟩ =
        (.ok (handshakeResponse ext responderIdentity init responderSecret protocolVersion,
          deriveSession ext init.sessionId (ext.peerOf initiatorIdentity) init.routeContext
            .responder (ext.diffieHellman initiatorSecret (ext.ephemeralPublic responderSecret))
            protocolVersion), ⟨responderIdentity, insert init.sessionId seenSessions⟩) :=
    SessionResponder.acceptInit_eq_ok.mpr ⟨hunseen, hinitValid, hmember, hagree ▸ hshared, rfl,
      by rw [hagree], rfl⟩
  have hresponse := validateResponse_handshakeResponse _ responderIdentity protocolVersion
    responderSecret hreads hsigns hclaimed
  have hcomplete : SessionInitiator.complete ext ⟨initiatorIdentity, ext.peerOf responderIdentity,
      init.routeContext, protocolVersion, init.sessionId, initiatorSecret, .negotiating⟩
      (handshakeResponse ext responderIdentity init responderSecret protocolVersion) =
        .ok (deriveSession ext init.sessionId (ext.peerOf responderIdentity) init.routeContext
          .initiator (ext.diffieHellman initiatorSecret (ext.ephemeralPublic responderSecret))
          protocolVersion) :=
    SessionInitiator.complete_eq_ok.mpr ⟨rfl, hresponse, hshared, rfl⟩
  have hmatched := deriveSession_matched ext init.sessionId (ext.peerOf responderIdentity)
    (ext.peerOf initiatorIdentity) init.routeContext
    (ext.diffieHellman initiatorSecret (ext.ephemeralPublic responderSecret)) protocolVersion
  exact ⟨_, init, _, _, _, hnew, hinit, haccept, hcomplete, rfl, rfl, rfl, rfl, rfl, rfl,
    hmatched.first_to_second.symm, hmatched.second_to_first,
    fun conversation hreach role message rest hnext =>
      Conversation.delivered_decrypts hcipher hmatched hreach hnext⟩

/-- A client and its entry relay complete a handshake for a two-hop route. -/
theorem handshake_completes_with_entry :
    (RouteBinding.twoHop ⟨[2]⟩ ⟨[3]⟩ "").Valid ∧
    ∃ initiator init response initiatorSession responderSession,
      SessionInitiator.new ⟨[1]⟩ ⟨[2]⟩ (.twoHop ⟨[2]⟩ ⟨[3]⟩ "") "1.0" ⟨Vector.replicate 16 7⟩
        (Vector.replicate 32 1) = .ok initiator ∧
      initiator.buildInit reference = .ok init ∧
      SessionResponder.acceptInit reference init ⟨[1]⟩ "1.0" (Vector.replicate 32 2) ⟨⟨[2]⟩, ∅⟩ =
        (.ok (response, responderSession), ⟨⟨[2]⟩, insert ⟨Vector.replicate 16 7⟩ ∅⟩) ∧
      initiator.complete reference response = .ok initiatorSession ∧
      initiatorSession.sendKey = responderSession.receiveKey ∧
      initiatorSession.receiveKey = responderSession.sendKey := by
  have hvalid : (RouteBinding.twoHop ⟨[2]⟩ ⟨[3]⟩ "").Valid := by simp [RouteBinding.Valid]
  obtain ⟨initiator, init, response, initiatorSession, responderSession, hnew, hinit, haccept,
    hcomplete, _, _, _, _, _, _, hsend, hreceive, _⟩ :=
    @handshake_completes reference ⟨[1]⟩ ⟨[2]⟩ _ "1.0" ⟨Vector.replicate 16 7⟩
      (Vector.replicate 32 1) (Vector.replicate 32 2) reference.readsIdentities
      reference.signaturesVerify reference.diffieHellmanCommutes reference.cipherOpens hvalid
      (by simp [RouteBinding.peers, Externals.peerOf, reference]) ∅ (Finset.notMem_empty _)
      (by simp [reference, allZero])
  exact ⟨hvalid, initiator, init, response, initiatorSession, responderSession, hnew, hinit,
    haccept, hcomplete, hsend, hreceive⟩

end Completeness

end Network
