import GhostLayer.Network.Externals
import Mathlib.Data.Finset.Insert

/-! # Secure sessions

The handshake between an initiator and a responder, the keys it derives, and the
encryption of messages on an established session. Key material that the code
draws at random is an argument here.
-/

namespace Network

open Foundation

def sessionProtocol : String := "ghost-layer/session/1"

inductive SessionRole where
  | initiator
  | responder
  deriving DecidableEq

inductive SessionState where
  | negotiating
  | established
  | failed
  | closed
  deriving DecidableEq

inductive RouteBinding where
  | oneHop (relay : PeerId)
  | twoHop (entry exit : PeerId) (exitAddress : String)
  deriving DecidableEq

structure HandshakeInit where
  kind : String
  protocolVersion : String
  sessionId : SessionId
  initiatorIdentity : String
  responderIdentity : String
  initiatorPublicKey : Bytes
  ephemeralPublicKey : Bytes32
  routeContext : RouteBinding
  authentication : Bytes
  deriving DecidableEq

structure HandshakeResponse where
  kind : String
  protocolVersion : String
  sessionId : SessionId
  initiatorIdentity : String
  responderIdentity : String
  responderPublicKey : Bytes
  ephemeralPublicKey : Bytes32
  routeContext : RouteBinding
  authentication : Bytes
  deriving DecidableEq

structure SessionInitiator where
  identity : Keypair
  expectedPeer : PeerId
  route : RouteBinding
  protocolVersion : String
  sessionId : SessionId
  secret : Bytes32
  state : SessionState
  deriving DecidableEq

structure SessionResponder where
  identity : Keypair
  seenSessions : Finset SessionId

/-- One call of the cipher. -/
structure Sealing where
  nonce : UInt64
  plaintext : Bytes
  associatedData : Bytes
  deriving DecidableEq

/-- A session. The last field is a history variable: the calls of the cipher under the send key. -/
structure SecureSession where
  sessionId : SessionId
  peerId : PeerId
  route : RouteBinding
  role : SessionRole
  state : SessionState
  sendKey : Bytes32
  receiveKey : Bytes32
  sendNonce : UInt64
  lastReceivedNonce : Option UInt64
  sealings : List Sealing
  deriving DecidableEq

inductive SessionError where
  | unsupportedProtocol (expected actual : String)
  | invalidIdentity (identity : String)
  | identityMismatch (expected actual : String)
  | invalidRoute (reason : String)
  | invalidKeyMaterial
  | authenticationFailed
  | duplicateSession
  | sessionIdMismatch
  | invalidState (state : SessionState) (operation : String)
  | encryptionFailed
  | decryptionFailed
  deriving DecidableEq

namespace RouteBinding

def peers : RouteBinding → List PeerId
  | .oneHop relay => [relay]
  | .twoHop entry exit _ => [entry, exit]

def contains (route : RouteBinding) (peer : PeerId) : Bool := peer ∈ route.peers

def validate : RouteBinding → Except SessionError Unit
  | .twoHop entry exit _ =>
      Check.failWhen (entry = exit) (.invalidRoute "entry and exit must differ")
  | .oneHop _ => .ok ()

/-- The hops of the route differ. -/
def Valid : RouteBinding → Prop
  | .twoHop entry exit _ => entry ≠ exit
  | .oneHop _ => True

theorem validate_eq_ok {route : RouteBinding} {result : Unit} :
    route.validate = .ok result ↔ route.Valid := by
  cases route <;> simp [validate, Valid, Check.failWhen_eq_ok]

end RouteBinding

/-! ## JSON forms -/

variable (ext : Externals)

def SessionId.toJson (sessionId : SessionId) : Json := Serde.ofBytes sessionId.bytes.toList

def SessionId.fromJson : Serde.Decoder SessionId := fun json =>
  (Serde.byteArray 16 json).map SessionId.mk

def RouteBinding.toJson : RouteBinding → Json
  | .oneHop relay => .obj [("OneHop", .obj [("relay", .str (ext.peerText relay))])]
  | .twoHop entry exit exitAddress => .obj [("TwoHop", .obj [("entry", .str (ext.peerText entry)),
      ("exit", .str (ext.peerText exit)), ("exit_address", .str exitAddress)])]

def RouteBinding.fromJson : Serde.Decoder RouteBinding := fun json => do
  match ← Serde.variant json with
  | ("OneHop", some content) =>
      match ← Serde.record ["relay"] 0 content with
      | [relay] => return .oneHop (← ext.parsePeer (← Serde.required Serde.text relay))
      | _ => none
  | ("TwoHop", some content) =>
      match ← Serde.record ["entry", "exit", "exit_address"] 0 content with
      | [entry, exit, exitAddress] =>
          let entry ← Serde.required Serde.text entry
          let exit ← Serde.required Serde.text exit
          let exitAddress ← Serde.required Serde.text exitAddress
          return .twoHop (← ext.parsePeer entry) (← ext.parsePeer exit) exitAddress
      | _ => none
  | _ => none

def HandshakeInit.fieldNames : List String :=
  ["kind", "protocol_version", "session_id", "initiator_identity", "responder_identity",
    "initiator_public_key", "ephemeral_public_key", "route_context", "authentication"]

def HandshakeInit.toJson (init : HandshakeInit) : Json := .obj (HandshakeInit.fieldNames.zip [
  .str init.kind,
  .str init.protocolVersion,
  init.sessionId.toJson,
  .str init.initiatorIdentity,
  .str init.responderIdentity,
  Serde.ofBytes init.initiatorPublicKey,
  Serde.ofBytes init.ephemeralPublicKey.toList,
  init.routeContext.toJson ext,
  Serde.ofBytes init.authentication])

def HandshakeInit.fromJson : Serde.Decoder HandshakeInit := fun json => do
  match ← Serde.record HandshakeInit.fieldNames 0 json with
  | [kind, protocolVersion, sessionId, initiatorIdentity, responderIdentity, initiatorPublicKey,
      ephemeralPublicKey, routeContext, authentication] =>
      return {
        kind := ← Serde.required Serde.text kind
        protocolVersion := ← Serde.required Serde.text protocolVersion
        sessionId := ← Serde.required SessionId.fromJson sessionId
        initiatorIdentity := ← Serde.required Serde.text initiatorIdentity
        responderIdentity := ← Serde.required Serde.text responderIdentity
        initiatorPublicKey := ← Serde.required Serde.bytes initiatorPublicKey
        ephemeralPublicKey := ← Serde.required (Serde.byteArray 32) ephemeralPublicKey
        routeContext := ← Serde.required (RouteBinding.fromJson ext) routeContext
        authentication := ← Serde.required Serde.bytes authentication }
  | _ => none

def HandshakeResponse.fieldNames : List String :=
  ["kind", "protocol_version", "session_id", "initiator_identity", "responder_identity",
    "responder_public_key", "ephemeral_public_key", "route_context", "authentication"]

def HandshakeResponse.toJson (response : HandshakeResponse) : Json :=
  .obj (HandshakeResponse.fieldNames.zip [
    .str response.kind,
    .str response.protocolVersion,
    response.sessionId.toJson,
    .str response.initiatorIdentity,
    .str response.responderIdentity,
    Serde.ofBytes response.responderPublicKey,
    Serde.ofBytes response.ephemeralPublicKey.toList,
    response.routeContext.toJson ext,
    Serde.ofBytes response.authentication])

def HandshakeResponse.fromJson : Serde.Decoder HandshakeResponse := fun json => do
  match ← Serde.record HandshakeResponse.fieldNames 0 json with
  | [kind, protocolVersion, sessionId, initiatorIdentity, responderIdentity, responderPublicKey,
      ephemeralPublicKey, routeContext, authentication] =>
      return {
        kind := ← Serde.required Serde.text kind
        protocolVersion := ← Serde.required Serde.text protocolVersion
        sessionId := ← Serde.required SessionId.fromJson sessionId
        initiatorIdentity := ← Serde.required Serde.text initiatorIdentity
        responderIdentity := ← Serde.required Serde.text responderIdentity
        responderPublicKey := ← Serde.required Serde.bytes responderPublicKey
        ephemeralPublicKey := ← Serde.required (Serde.byteArray 32) ephemeralPublicKey
        routeContext := ← Serde.required (RouteBinding.fromJson ext) routeContext
        authentication := ← Serde.required Serde.bytes authentication }
  | _ => none

/-! ## Transcripts and keys -/

/-- The bytes a party signs in the handshake. -/
def transcript (protocol : String) (sessionId : SessionId) (route : RouteBinding)
    (publicKey : Bytes) (ephemeral : Bytes32) : Bytes :=
  Bytes.ofText sessionProtocol ++ Bytes.ofText protocol ++ sessionId.bytes.toList ++
    (route.toJson ext).render ++ publicKey ++ ephemeral.toList

/-- The salt of the key derivation. -/
def sessionSalt (protocol : String) (route : RouteBinding) (sessionId : SessionId) : Bytes32 :=
  ext.sha256 (Bytes.ofText sessionProtocol ++ Bytes.ofText protocol ++
    (route.toJson ext).render ++ sessionId.bytes.toList)

def deriveSession (sessionId : SessionId) (peerId : PeerId) (route : RouteBinding)
    (role : SessionRole) (shared : Bytes32) (protocol : String) : SecureSession :=
  let (first, second) := ext.hkdf (sessionSalt ext protocol route sessionId) shared
    "ghost-layer directional session keys"
  { sessionId
    peerId
    route
    role
    state := .established
    sendKey := if role = .initiator then first else second
    receiveKey := if role = .initiator then second else first
    sendNonce := 0
    lastReceivedNonce := none
    sealings := [] }

def allZero (bytes : Bytes32) : Bool := bytes.toList.all (· == 0)

def nonceFromCounter (counter : UInt64) : Bytes :=
  List.replicate 4 0 ++ Bytes.bigEndian 8 counter.toNat

/-! ## The handshake -/

def SessionInitiator.new (identity : Keypair) (expectedPeer : PeerId) (route : RouteBinding)
    (protocolVersion : String) (sessionId : SessionId) (secret : Bytes32) :
    Except SessionError SessionInitiator := do
  route.validate
  Check.failWhen (¬ route.contains expectedPeer) (.invalidRoute "expected peer is not in route")
  return {
    identity, expectedPeer, route, protocolVersion, sessionId, secret, state := .negotiating }

def SessionInitiator.ensureState (initiator : SessionInitiator) (expected : SessionState)
    (operation : String) : Except SessionError Unit :=
  Check.failWhen (initiator.state ≠ expected) (.invalidState initiator.state operation)

def SessionInitiator.buildInit (initiator : SessionInitiator) :
    Except SessionError HandshakeInit := do
  initiator.ensureState .negotiating "build_init"
  let publicBytes := ext.encodePublic (ext.publicKey initiator.identity)
  let ephemeralPublicKey := ext.ephemeralPublic initiator.secret
  return {
    kind := "secure_session_init"
    protocolVersion := initiator.protocolVersion
    sessionId := initiator.sessionId
    initiatorIdentity := ext.peerText (ext.peerOf initiator.identity)
    responderIdentity := ext.peerText initiator.expectedPeer
    initiatorPublicKey := publicBytes
    ephemeralPublicKey
    routeContext := initiator.route
    authentication := ext.sign initiator.identity (transcript ext initiator.protocolVersion
      initiator.sessionId initiator.route publicBytes ephemeralPublicKey) }

def validateInit (init : HandshakeInit) (transportPeer responderPeer : PeerId)
    (expectedRoute : RouteBinding) (protocol : String) : Except SessionError Unit := do
  expectedRoute.validate
  Check.failWhen (init.protocolVersion ≠ protocol)
    (.unsupportedProtocol protocol init.protocolVersion)
  let responder ← Check.orThrow (ext.parsePeer init.responderIdentity)
    (.invalidIdentity init.responderIdentity)
  Check.failWhen (responder ≠ responderPeer)
    (.identityMismatch (ext.peerText responderPeer) (ext.peerText responder))
  Check.failWhen (init.routeContext ≠ expectedRoute) (.invalidRoute "route context mismatch")
  let publicKey ← Check.orThrow (ext.decodePublic init.initiatorPublicKey) .invalidKeyMaterial
  let actual := ext.toPeerId publicKey
  let claimed ← Check.orThrow (ext.parsePeer init.initiatorIdentity)
    (.invalidIdentity init.initiatorIdentity)
  Check.failWhen (claimed ≠ actual)
    (.identityMismatch (ext.peerText actual) (ext.peerText actual))
  Check.failWhen (actual ≠ transportPeer)
    (.identityMismatch (ext.peerText transportPeer) (ext.peerText actual))
  Check.failWhen (¬ ext.verify publicKey
    (transcript ext protocol init.sessionId expectedRoute init.initiatorPublicKey
      init.ephemeralPublicKey) init.authentication) .authenticationFailed

def validateResponse (response : HandshakeResponse) (sessionId : SessionId)
    (initiatorPeer expectedPeer : PeerId) (route : RouteBinding) (protocol : String) :
    Except SessionError Unit := do
  Check.failWhen (response.protocolVersion ≠ protocol)
    (.unsupportedProtocol protocol response.protocolVersion)
  Check.failWhen (response.sessionId ≠ sessionId) .sessionIdMismatch
  Check.failWhen (response.routeContext ≠ route) (.invalidRoute "route context mismatch")
  let publicKey ← Check.orThrow (ext.decodePublic response.responderPublicKey) .invalidKeyMaterial
  let actual := ext.toPeerId publicKey
  Check.failWhen (actual ≠ expectedPeer)
    (.identityMismatch (ext.peerText expectedPeer) (ext.peerText actual))
  let named ← Check.orThrow (ext.parsePeer response.initiatorIdentity)
    (.invalidIdentity response.initiatorIdentity)
  Check.failWhen (named ≠ initiatorPeer)
    (.identityMismatch (ext.peerText initiatorPeer) (ext.peerText named))
  Check.failWhen (¬ ext.verify publicKey
    (transcript ext protocol sessionId route response.responderPublicKey
      response.ephemeralPublicKey) response.authentication) .authenticationFailed

def SessionInitiator.complete (initiator : SessionInitiator) (response : HandshakeResponse) :
    Except SessionError SecureSession := do
  Check.failWhen (initiator.state ≠ .negotiating) (.invalidState initiator.state "complete")
  validateResponse ext response initiator.sessionId (ext.peerOf initiator.identity)
    initiator.expectedPeer initiator.route initiator.protocolVersion
  let shared := ext.diffieHellman initiator.secret response.ephemeralPublicKey
  Check.failWhen (allZero shared) .invalidKeyMaterial
  return deriveSession ext initiator.sessionId initiator.expectedPeer initiator.route .initiator
    shared initiator.protocolVersion

def SessionResponder.new (identity : Keypair) : SessionResponder := ⟨identity, ∅⟩

/-- The response to an accepted handshake. -/
def handshakeResponse (identity : Keypair) (init : HandshakeInit) (secret : Bytes32)
    (protocolVersion : String) : HandshakeResponse :=
  let publicBytes := ext.encodePublic (ext.publicKey identity)
  let ephemeralPublicKey := ext.ephemeralPublic secret
  { kind := "secure_session_response"
    protocolVersion
    sessionId := init.sessionId
    initiatorIdentity := init.initiatorIdentity
    responderIdentity := ext.peerText (ext.peerOf identity)
    responderPublicKey := publicBytes
    ephemeralPublicKey
    routeContext := init.routeContext
    authentication := ext.sign identity (transcript ext protocolVersion init.sessionId
      init.routeContext publicBytes ephemeralPublicKey) }

def SessionResponder.acceptInit (init : HandshakeInit) (transportPeer : PeerId)
    (protocolVersion : String) (secret : Bytes32) :
    Fallible SessionResponder SessionError (HandshakeResponse × SecureSession) := do
  let responder ← Fallible.get
  Fallible.failWhen (init.sessionId ∈ responder.seenSessions) .duplicateSession
  let expectedRoute := init.routeContext
  Fallible.ofExcept (validateInit ext init transportPeer (ext.peerOf responder.identity)
    expectedRoute protocolVersion)
  Fallible.failWhen (¬ expectedRoute.contains (ext.peerOf responder.identity))
    (.invalidRoute "route does not include responder")
  Fallible.modify (fun responder =>
    { responder with seenSessions := insert init.sessionId responder.seenSessions })
  let response := handshakeResponse ext responder.identity init secret protocolVersion
  let shared := ext.diffieHellman secret init.ephemeralPublicKey
  Fallible.failWhen (allZero shared) .invalidKeyMaterial
  return (response, deriveSession ext init.sessionId transportPeer expectedRoute .responder shared
    protocolVersion)

/-! ## Established sessions -/

namespace SecureSession

def close : Fallible SecureSession SessionError Unit := do
  let session ← Fallible.get
  Fallible.failWhen (session.state ≠ .established) (.invalidState session.state "close")
  Fallible.modify (fun session => { session with state := .closed })

def encrypt (plaintext associatedData : Bytes) : Fallible SecureSession SessionError Bytes := do
  let session ← Fallible.get
  Fallible.failWhen (session.state ≠ .established) (.invalidState session.state "encrypt")
  let nonceValue := session.sendNonce
  let next ← Fallible.orThrow (checkedSucc session.sendNonce) .encryptionFailed
  Fallible.modify (fun session => { session with sendNonce := next })
  Fallible.modify (fun session => { session with
    sealings := session.sealings ++ [⟨nonceValue, plaintext, associatedData⟩] })
  let ciphertext ← Fallible.orThrow
    (ext.aeadEncrypt session.sendKey (nonceFromCounter nonceValue) plaintext associatedData)
    .encryptionFailed
  return Bytes.bigEndian 8 nonceValue.toNat ++ ciphertext

def decrypt (ciphertext associatedData : Bytes) : Fallible SecureSession SessionError Bytes := do
  let session ← Fallible.get
  Fallible.failWhen (session.state ≠ .established) (.invalidState session.state "decrypt")
  Fallible.failWhen (ciphertext.length < 8) .decryptionFailed
  let counter ← Fallible.orPanic (Bytes.slice ciphertext 0 8)
  let counter := UInt64.ofNat (Bytes.toNat counter)
  Fallible.failWhen (session.lastReceivedNonce.any (fun last => counter ≤ last)) .decryptionFailed
  let sealedBytes ← Fallible.orPanic (Bytes.sliceFrom ciphertext 8)
  let plaintext ← Fallible.orThrow
    (ext.aeadDecrypt session.receiveKey (nonceFromCounter counter) sealedBytes associatedData)
    .decryptionFailed
  Fallible.modify (fun session => { session with lastReceivedNonce := some counter })
  return plaintext

end SecureSession

end Network
