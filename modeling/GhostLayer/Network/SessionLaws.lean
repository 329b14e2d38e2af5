import GhostLayer.Network.Session

/-! # What the session operations do

One lemma for each operation: when it succeeds, and what is left of the session
when it does not. Later modules use these and do not unfold the operations.
-/

namespace Network

open Foundation

variable {ext : Externals}

/-! ## JSON forms are read back -/

@[simp] theorem SessionId.fromJson_toJson (sessionId : SessionId) :
    SessionId.fromJson sessionId.toJson = some sessionId := by
  simp [SessionId.fromJson, SessionId.toJson]

@[simp] theorem SessionId.readable_toJson (depth : Nat) (sessionId : SessionId) :
    Json.readable (depth + 1) sessionId.toJson = true :=
  Serde.readable_ofBytes depth sessionId.bytes.toList

theorem RouteBinding.fromJson_toJson (hreads : ext.ReadsIdentities) (route : RouteBinding) :
    RouteBinding.fromJson ext (route.toJson ext) = some route := by
  cases route with
  | oneHop relay =>
      have hrecord := @Serde.record_zip ["relay"] [.str (ext.peerText relay)] 0 (by decide) rfl
      simp only [List.zip_cons_cons, List.zip_nil_right] at hrecord
      simp [RouteBinding.fromJson, RouteBinding.toJson, Serde.variant, hrecord, hreads.peer]
  | twoHop entry exit exitAddress =>
      have hrecord := @Serde.record_zip ["entry", "exit", "exit_address"]
        [.str (ext.peerText entry), .str (ext.peerText exit), .str exitAddress] 0 (by decide) rfl
      simp only [List.zip_cons_cons, List.zip_nil_right] at hrecord
      simp [RouteBinding.fromJson, RouteBinding.toJson, Serde.variant, hrecord, hreads.peer]

@[simp] theorem RouteBinding.readable_toJson (depth : Nat) (route : RouteBinding) :
    Json.readable (depth + 2) (route.toJson ext) = true := by
  cases route <;> simp [RouteBinding.toJson, Json.readable, Json.readableFields]

theorem HandshakeInit.fromJson_toJson (hreads : ext.ReadsIdentities) (init : HandshakeInit) :
    HandshakeInit.fromJson ext (init.toJson ext) = some init := by
  rw [HandshakeInit.fromJson, HandshakeInit.toJson, Serde.record_zip 0 (by decide) rfl]
  simp [RouteBinding.fromJson_toJson hreads]

theorem HandshakeInit.readable_toJson (init : HandshakeInit) : Json.readable 127
    (init.toJson ext) = true := by
  simp [HandshakeInit.toJson, HandshakeInit.fieldNames, Json.readable, Json.readableFields]

theorem HandshakeResponse.fromJson_toJson (hreads : ext.ReadsIdentities)
    (response : HandshakeResponse) :
    HandshakeResponse.fromJson ext (response.toJson ext) = some response := by
  rw [HandshakeResponse.fromJson, HandshakeResponse.toJson, Serde.record_zip 0 (by decide) rfl]
  simp [RouteBinding.fromJson_toJson hreads]

theorem HandshakeResponse.readable_toJson (response : HandshakeResponse) : Json.readable 127
    (response.toJson ext) = true := by
  simp [HandshakeResponse.toJson, HandshakeResponse.fieldNames, Json.readable, Json.readableFields]

/-! ## Checks of the handshake -/

theorem validateInit_eq_ok {init : HandshakeInit} {transportPeer responderPeer : PeerId}
    {expectedRoute : RouteBinding} {protocol : String} {result : Unit} :
    validateInit ext init transportPeer responderPeer expectedRoute protocol = .ok result ↔
      expectedRoute.Valid ∧ init.protocolVersion = protocol ∧
      ext.parsePeer init.responderIdentity = some responderPeer ∧
      init.routeContext = expectedRoute ∧
      ∃ publicKey, ext.decodePublic init.initiatorPublicKey = some publicKey ∧
        ext.parsePeer init.initiatorIdentity = some (ext.toPeerId publicKey) ∧
        ext.toPeerId publicKey = transportPeer ∧
        ext.verify publicKey (transcript ext protocol init.sessionId expectedRoute
          init.initiatorPublicKey init.ephemeralPublicKey) init.authentication = true := by
  simp only [validateInit, Check.bind_eq_ok, Check.failWhen_eq_ok, Check.orThrow_eq_ok,
    RouteBinding.validate_eq_ok, not_not, exists_const, ne_eq]
  constructor
  · rintro ⟨hvalid, hversion, responder, hresponder, rfl, hroute, publicKey, hkey, claimed,
      hclaimed, rfl, hpeer, hverify⟩
    exact ⟨hvalid, hversion, hresponder, hroute, publicKey, hkey, hclaimed, hpeer, hverify⟩
  · rintro ⟨hvalid, hversion, hresponder, hroute, publicKey, hkey, hclaimed, hpeer, hverify⟩
    exact ⟨hvalid, hversion, _, hresponder, rfl, hroute, publicKey, hkey, _, hclaimed, rfl, hpeer,
      hverify⟩

theorem validateResponse_eq_ok {response : HandshakeResponse} {sessionId : SessionId}
    {initiatorPeer expectedPeer : PeerId} {route : RouteBinding} {protocol : String}
    {result : Unit} :
    validateResponse ext response sessionId initiatorPeer expectedPeer route protocol =
        .ok result ↔
      response.protocolVersion = protocol ∧ response.sessionId = sessionId ∧
      response.routeContext = route ∧
      ext.parsePeer response.initiatorIdentity = some initiatorPeer ∧
      ∃ publicKey, ext.decodePublic response.responderPublicKey = some publicKey ∧
        ext.toPeerId publicKey = expectedPeer ∧
        ext.verify publicKey (transcript ext protocol sessionId route response.responderPublicKey
          response.ephemeralPublicKey) response.authentication = true := by
  simp only [validateResponse, Check.bind_eq_ok, Check.failWhen_eq_ok, Check.orThrow_eq_ok,
    not_not, exists_const, ne_eq]
  constructor
  · rintro ⟨hversion, hsession, hroute, publicKey, hkey, hpeer, named, hnamed, rfl, hverify⟩
    exact ⟨hversion, hsession, hroute, hnamed, publicKey, hkey, hpeer, hverify⟩
  · rintro ⟨hversion, hsession, hroute, hnamed, publicKey, hkey, hpeer, hverify⟩
    exact ⟨hversion, hsession, hroute, publicKey, hkey, hpeer, _, hnamed, rfl, hverify⟩

namespace SessionInitiator

theorem new_eq_ok {identity : Keypair} {expectedPeer : PeerId} {route : RouteBinding}
    {protocolVersion : String} {sessionId : SessionId} {secret : Bytes32}
    {initiator : SessionInitiator} :
    SessionInitiator.new identity expectedPeer route protocolVersion sessionId secret =
        .ok initiator ↔
      route.Valid ∧ expectedPeer ∈ route.peers ∧
      ⟨identity, expectedPeer, route, protocolVersion, sessionId, secret, .negotiating⟩ =
        initiator := by
  simp [SessionInitiator.new, Check.bind_eq_ok, Check.failWhen_eq_ok,
    RouteBinding.validate_eq_ok, RouteBinding.contains, pure, Except.pure]

/-- The initialization that an initiator builds. -/
def initOf (ext : Externals) (initiator : SessionInitiator) : HandshakeInit :=
  let publicBytes := ext.encodePublic (ext.publicKey initiator.identity)
  let ephemeralPublicKey := ext.ephemeralPublic initiator.secret
  { kind := "secure_session_init"
    protocolVersion := initiator.protocolVersion
    sessionId := initiator.sessionId
    initiatorIdentity := ext.peerText (ext.peerOf initiator.identity)
    responderIdentity := ext.peerText initiator.expectedPeer
    initiatorPublicKey := publicBytes
    ephemeralPublicKey
    routeContext := initiator.route
    authentication := ext.sign initiator.identity (transcript ext initiator.protocolVersion
      initiator.sessionId initiator.route publicBytes ephemeralPublicKey) }

theorem buildInit_eq_ok {initiator : SessionInitiator} {init : HandshakeInit} :
    initiator.buildInit ext = .ok init ↔
      initiator.state = .negotiating ∧ initiator.initOf ext = init := by
  simp [buildInit, ensureState, Check.bind_eq_ok, Check.failWhen_eq_ok, initOf, pure, Except.pure]
/-- A handshake is completed by a signed response of the expected peer that repeats the terms. -/
theorem complete_eq_ok {initiator : SessionInitiator} {response : HandshakeResponse}
    {session : SecureSession} :
    initiator.complete ext response = .ok session ↔
      initiator.state = .negotiating ∧
      validateResponse ext response initiator.sessionId (ext.peerOf initiator.identity)
        initiator.expectedPeer initiator.route initiator.protocolVersion = .ok () ∧
      allZero (ext.diffieHellman initiator.secret response.ephemeralPublicKey) = false ∧
      deriveSession ext initiator.sessionId initiator.expectedPeer initiator.route .initiator
        (ext.diffieHellman initiator.secret response.ephemeralPublicKey)
        initiator.protocolVersion = session := by
  have hunit : ∀ checked : Except SessionError Unit,
      (∃ result, checked = .ok result) ↔ checked = .ok () :=
    fun checked => ⟨fun ⟨_, hchecked⟩ => hchecked, fun hchecked => ⟨(), hchecked⟩⟩
  simp [complete, Check.bind_eq_ok, Check.failWhen_eq_ok, pure, Except.pure, hunit]

end SessionInitiator

/-- A handshake is accepted when its session id is new, its checks pass and the route has the
responder in it. -/
theorem SessionResponder.acceptInit_eq_ok {init : HandshakeInit} {transportPeer : PeerId}
    {protocolVersion : String} {secret : Bytes32} {responder next : SessionResponder}
    {response : HandshakeResponse} {session : SecureSession} :
    SessionResponder.acceptInit ext init transportPeer protocolVersion secret responder =
        (.ok (response, session), next) ↔
      init.sessionId ∉ responder.seenSessions ∧
      validateInit ext init transportPeer (ext.peerOf responder.identity) init.routeContext
        protocolVersion = .ok () ∧
      ext.peerOf responder.identity ∈ init.routeContext.peers ∧
      allZero (ext.diffieHellman secret init.ephemeralPublicKey) = false ∧
      response = handshakeResponse ext responder.identity init secret protocolVersion ∧
      session = deriveSession ext init.sessionId transportPeer init.routeContext .responder
        (ext.diffieHellman secret init.ephemeralPublicKey) protocolVersion ∧
      next = { responder with seenSessions := insert init.sessionId responder.seenSessions } := by
  simp only [acceptInit, Fallible.get_bind_run, Fallible.bind_eq_ok, Fallible.failWhen_eq_ok,
    Fallible.ofExcept_eq_ok, Fallible.modify_eq_ok, Fallible.pure_eq_ok]
  constructor
  · rintro ⟨_, _, ⟨hfresh, rfl⟩, _, _, ⟨hvalid, rfl⟩, _, _, ⟨hroute, rfl⟩, _, _, rfl, _, _,
      ⟨hshared, rfl⟩, hresult, rfl⟩
    simp only [Prod.mk.injEq] at hresult
    exact ⟨hfresh, hvalid, by simpa [RouteBinding.contains] using hroute, by simpa using hshared,
      hresult.1.symm, hresult.2.symm, rfl⟩
  · rintro ⟨hfresh, hvalid, hroute, hshared, rfl, rfl, rfl⟩
    exact ⟨(), responder, ⟨hfresh, rfl⟩, (), responder, ⟨hvalid, rfl⟩, (), responder,
      ⟨by simpa [RouteBinding.contains] using hroute, rfl⟩, (), _, rfl, (), _,
      ⟨by simpa using hshared, rfl⟩, rfl, rfl⟩

variable (ext) in
/-- Whatever comes of it, an attempt keeps the identity and only adds to the seen sessions. -/
theorem SessionResponder.acceptInit_keeps (init : HandshakeInit) (transportPeer : PeerId)
    (protocolVersion : String) (secret : Bytes32) (responder : SessionResponder) :
    (SessionResponder.acceptInit ext init transportPeer protocolVersion secret responder).2 =
        responder ∨
      (SessionResponder.acceptInit ext init transportPeer protocolVersion secret responder).2 =
        { responder with seenSessions := insert init.sessionId responder.seenSessions } := by
  simp only [acceptInit, Fallible.get_bind_run]
  by_cases hseen : init.sessionId ∈ responder.seenSessions
  · simp [hseen]
  cases hvalid : validateInit ext init transportPeer (ext.peerOf responder.identity)
      init.routeContext protocolVersion with
  | error reason => simp [hseen]
  | ok _ =>
      by_cases hroute : init.routeContext.contains (ext.peerOf responder.identity)
      · by_cases hshared : allZero (ext.diffieHellman secret init.ephemeralPublicKey) <;>
          simp [hseen, hroute, hshared]
      · simp [hseen, hroute]

/-! ## Encryption -/

/-- The counter a ciphertext starts with. -/
def counterOf (ciphertext : Bytes) : UInt64 := UInt64.ofNat (Bytes.toNat (ciphertext.take 8))

theorem counterOf_append (counter : UInt64) (rest : Bytes) :
    counterOf (Bytes.bigEndian 8 counter.toNat ++ rest) = counter := by
  have hfits : counter.toNat < 256 ^ 8 := counter.toNat_lt
  simp [counterOf, Bytes.toNat_bigEndian_of_lt hfits]

namespace SecureSession

/-- The session after a call of the cipher for its next nonce. -/
def sealed (session : SecureSession) (next : UInt64) (plaintext associatedData : Bytes) :
    SecureSession :=
  { session with
    sendNonce := next
    sealings := session.sealings ++ [⟨session.sendNonce, plaintext, associatedData⟩] }

theorem encrypt_run (plaintext associatedData : Bytes) (session : SecureSession) :
    encrypt ext plaintext associatedData session =
      if session.state ≠ .established then
        (.error (.invalidState session.state "encrypt"), session)
      else match checkedSucc session.sendNonce with
        | none => (.error .encryptionFailed, session)
        | some next =>
            match ext.aeadEncrypt session.sendKey (nonceFromCounter session.sendNonce) plaintext
              associatedData with
            | none => (.error .encryptionFailed, session.sealed next plaintext associatedData)
            | some ciphertext => (.ok (Bytes.bigEndian 8 session.sendNonce.toNat ++ ciphertext),
                session.sealed next plaintext associatedData) := by
  simp only [encrypt, Fallible.get_bind_run]
  by_cases hstate : session.state = .established
  · rw [if_neg (by simpa using hstate), Fallible.failWhen_neg _ (by simpa using hstate)]
    cases checkedSucc session.sendNonce with
    | none => rfl
    | some next =>
        cases hcipher : ext.aeadEncrypt session.sendKey (nonceFromCounter session.sendNonce)
            plaintext associatedData <;> rfl
  · rw [if_pos hstate, Fallible.failWhen_pos _ hstate]
    rfl

/-- A message is encrypted under the next nonce. -/
theorem encrypt_eq_ok {plaintext associatedData output : Bytes} {session final : SecureSession} :
    encrypt ext plaintext associatedData session = (.ok output, final) ↔
      session.state = .established ∧ ∃ next ciphertext,
        checkedSucc session.sendNonce = some next ∧
        ext.aeadEncrypt session.sendKey (nonceFromCounter session.sendNonce) plaintext
          associatedData = some ciphertext ∧
        Bytes.bigEndian 8 session.sendNonce.toNat ++ ciphertext = output ∧
        session.sealed next plaintext associatedData = final := by
  rw [encrypt_run]
  by_cases hstate : session.state = .established
  · rw [if_neg (by simpa using hstate)]
    cases checkedSucc session.sendNonce with
    | none => simp
    | some next =>
        cases hcipher : ext.aeadEncrypt session.sendKey (nonceFromCounter session.sendNonce)
            plaintext associatedData <;> simp [hstate]
  · rw [if_pos hstate]
    simp [hstate]

variable (ext) in
/-- A call of `encrypt` calls the cipher with the next nonce or leaves the session alone. -/
theorem encrypt_state (plaintext associatedData : Bytes) (session : SecureSession) :
    (encrypt ext plaintext associatedData session).2 = session ∨
      ∃ next, checkedSucc session.sendNonce = some next ∧
        (encrypt ext plaintext associatedData session).2 =
          session.sealed next plaintext associatedData := by
  rw [encrypt_run]
  split_ifs with hstate
  · exact .inl rfl
  · cases checkedSucc session.sendNonce with
    | none => exact .inl rfl
    | some next =>
        refine .inr ⟨next, rfl, ?_⟩
        cases ext.aeadEncrypt session.sendKey (nonceFromCounter session.sendNonce) plaintext
          associatedData <;> rfl

variable (ext) in
theorem encrypt_ne_panic (plaintext associatedData : Bytes) (session : SecureSession) :
    (encrypt ext plaintext associatedData session).1 ≠ .panic := by
  rw [encrypt_run]
  split_ifs
  · simp
  · cases checkedSucc session.sendNonce with
    | none => simp
    | some next =>
        cases hcipher : ext.aeadEncrypt session.sendKey (nonceFromCounter session.sendNonce)
          plaintext associatedData <;> simp

theorem decrypt_run (ciphertext associatedData : Bytes) (session : SecureSession) :
    decrypt ext ciphertext associatedData session =
      if session.state ≠ .established then
        (.error (.invalidState session.state "decrypt"), session)
      else if ciphertext.length < 8 ∨
          session.lastReceivedNonce.any (fun last => counterOf ciphertext ≤ last) then
        (.error .decryptionFailed, session)
      else match ext.aeadDecrypt session.receiveKey (nonceFromCounter (counterOf ciphertext))
          (ciphertext.drop 8) associatedData with
        | none => (.error .decryptionFailed, session)
        | some plaintext => (.ok plaintext,
            { session with lastReceivedNonce := some (counterOf ciphertext) }) := by
  simp only [decrypt, Fallible.get_bind_run]
  by_cases hstate : session.state = .established
  · rw [if_neg (by simpa using hstate), Fallible.failWhen_neg _ (by simpa using hstate)]
    by_cases hlength : ciphertext.length < 8
    · simp [hlength]
    · have hslice : Bytes.slice ciphertext 0 8 = some (ciphertext.take 8) := by
        simp [Bytes.slice, Nat.le_of_not_lt hlength]
      have hrest : Bytes.sliceFrom ciphertext 8 = some (ciphertext.drop 8) := by
        simp [Bytes.sliceFrom, Nat.le_of_not_lt hlength]
      simp only [hlength, not_false_eq_true, Fallible.failWhen_neg, Fallible.pure_bind_run,
        hslice, hrest, Fallible.orPanic_some, false_or]
      change (Fallible.failWhen
        (session.lastReceivedNonce.any (fun last => counterOf ciphertext ≤ last)) _ >>= _) _ = _
      by_cases hreplay :
          session.lastReceivedNonce.any (fun last => counterOf ciphertext ≤ last) = true
      · rw [Fallible.failWhen_pos _ hreplay, if_pos hreplay]
        rfl
      · rw [Fallible.failWhen_neg _ hreplay, if_neg hreplay]
        cases hcipher : ext.aeadDecrypt session.receiveKey
            (nonceFromCounter (counterOf ciphertext)) (ciphertext.drop 8) associatedData <;>
          simp [counterOf] at hcipher ⊢ <;> simp [hcipher]
  · rw [if_pos hstate, Fallible.failWhen_pos _ hstate]
    rfl

/-- A message is decrypted when its counter is above the last one and the cipher opens it. -/
theorem decrypt_eq_ok {ciphertext associatedData plaintext : Bytes}
    {session final : SecureSession} :
    decrypt ext ciphertext associatedData session = (.ok plaintext, final) ↔
      session.state = .established ∧ 8 ≤ ciphertext.length ∧
      (∀ last ∈ session.lastReceivedNonce, last < counterOf ciphertext) ∧
      ext.aeadDecrypt session.receiveKey (nonceFromCounter (counterOf ciphertext))
        (ciphertext.drop 8) associatedData = some plaintext ∧
      { session with lastReceivedNonce := some (counterOf ciphertext) } = final := by
  rw [decrypt_run]
  by_cases hstate : session.state = .established
  · rw [if_neg (by simpa using hstate)]
    by_cases hlength : ciphertext.length < 8
    · simp [hlength, Nat.not_le.mpr hlength]
    · have hreplay : session.lastReceivedNonce.any (fun last => counterOf ciphertext ≤ last) =
          true ↔ ¬ ∀ last ∈ session.lastReceivedNonce, last < counterOf ciphertext := by
        cases session.lastReceivedNonce <;> simp
      by_cases hfresh : ∀ last ∈ session.lastReceivedNonce, last < counterOf ciphertext
      · rw [if_neg (not_or.mpr ⟨hlength, fun hany => hreplay.mp hany hfresh⟩)]
        have hlong : 8 ≤ ciphertext.length := Nat.le_of_not_lt hlength
        cases hcipher : ext.aeadDecrypt session.receiveKey
            (nonceFromCounter (counterOf ciphertext)) (ciphertext.drop 8) associatedData <;>
          simp [hstate, hlong, eq_true hfresh, -Option.mem_def]
      · rw [if_pos (.inr (hreplay.mpr hfresh))]
        simp [eq_false hfresh, -Option.mem_def]
  · rw [if_pos hstate]
    simp [hstate]

/-- A failed decryption leaves the session as it was, and none panics. -/
theorem decrypt_fails {ciphertext associatedData : Bytes} {session : SecureSession}
    (hfails : ∀ plaintext, (decrypt ext ciphertext associatedData session).1 ≠ .ok plaintext) :
    ∃ reason, decrypt ext ciphertext associatedData session = (.error reason, session) := by
  rw [decrypt_run] at hfails ⊢
  split_ifs at hfails ⊢ with hstate hbad
  · exact ⟨_, rfl⟩
  · exact ⟨_, rfl⟩
  · cases hcipher : ext.aeadDecrypt session.receiveKey (nonceFromCounter (counterOf ciphertext))
        (ciphertext.drop 8) associatedData with
    | none => exact ⟨_, rfl⟩
    | some plaintext => simp [hcipher] at hfails

theorem close_state (session : SecureSession) :
    (close session).2 = session ∨ (close session).2 = { session with state := .closed } := by
  unfold close
  rw [Fallible.get_bind_run, Fallible.failWhen_bind_run]
  split
  · exact .inl rfl
  · exact .inr rfl

end SecureSession

end Network
