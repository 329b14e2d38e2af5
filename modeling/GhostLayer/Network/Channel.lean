import GhostLayer.Network.Session

/-! # Encrypted channels and the data plane

A channel numbers its messages, authenticates the header of every frame and
keeps a bounded queue of outbound frames. The data plane carries payloads of
bounded size over a channel.
-/

namespace Network

open Foundation

def channelProtocolVersion : String := "1.0"

def frameOverheadLimit : Nat := 64

inductive ChannelMessage where
  | ping
  | pong
  | sessionData (data : Bytes)
  | dataPlane (payload : Bytes)
  | close
  deriving DecidableEq

inductive ChannelState where
  | opening
  | established
  | closing
  | closed
  | failed
  deriving DecidableEq

inductive MessageType where
  | ping
  | pong
  | sessionData
  | dataPlane
  | close
  deriving DecidableEq

def ChannelMessage.messageType : ChannelMessage → MessageType
  | .ping => .ping
  | .pong => .pong
  | .sessionData _ => .sessionData
  | .dataPlane _ => .dataPlane
  | .close => .close

structure FrameHeader where
  protocolVersion : String
  sessionId : SessionId
  messageType : MessageType
  sequenceNumber : UInt64
  ciphertextLength : UInt32
  deriving DecidableEq

inductive ChannelError where
  | invalidFrame
  | frameTooLarge
  | invalidSession
  | invalidPeer
  | unsupportedVersion
  | invalidMessageType
  | replayDetected
  | invalidSequence
  | authenticationFailed
  | encryptionFailed
  | decryptionFailed
  | channelClosed
  | backpressure
  | sessionInvalid
  deriving DecidableEq

def ChannelError.ofSession : SessionError → ChannelError
  | .invalidState _ _ => .sessionInvalid
  | .decryptionFailed => .decryptionFailed
  | .encryptionFailed => .encryptionFailed
  | _ => .authenticationFailed

structure EncryptedChannel where
  session : SecureSession
  state : ChannelState
  protocolVersion : String
  maximumFrameSize : Nat
  maximumPendingMessages : Nat
  pendingOutbound : List Bytes
  sendSequence : UInt64
  receiveSequence : UInt64
  deriving DecidableEq

/-! ## JSON forms -/

def MessageType.table : List (String × MessageType) :=
  [("Ping", .ping), ("Pong", .pong), ("SessionData", .sessionData), ("DataPlane", .dataPlane),
    ("Close", .close)]

def MessageType.toJson : MessageType → Json
  | .ping => .str "Ping"
  | .pong => .str "Pong"
  | .sessionData => .str "SessionData"
  | .dataPlane => .str "DataPlane"
  | .close => .str "Close"

def MessageType.fromJson : Serde.Decoder MessageType := Serde.unitVariant MessageType.table

def ChannelMessage.toJson : ChannelMessage → Json
  | .ping => .str "Ping"
  | .pong => .str "Pong"
  | .sessionData data => .obj [("SessionData", Serde.ofBytes data)]
  | .dataPlane payload => .obj [("DataPlane", Serde.ofBytes payload)]
  | .close => .str "Close"

def ChannelMessage.fromJson : Serde.Decoder ChannelMessage := fun json => do
  match ← Serde.variant json with
  | ("SessionData", some content) => return .sessionData (← Serde.bytes content)
  | ("DataPlane", some content) => return .dataPlane (← Serde.bytes content)
  | _ => Serde.unitVariant [("Ping", .ping), ("Pong", .pong), ("Close", .close)] json

def FrameHeader.fieldNames : List String :=
  ["protocol_version", "session_id", "message_type", "sequence_number", "ciphertext_length"]

def FrameHeader.toJson (header : FrameHeader) : Json := .obj (FrameHeader.fieldNames.zip [
  .str header.protocolVersion,
  header.sessionId.toJson,
  header.messageType.toJson,
  .num header.sequenceNumber.toNat,
  .num header.ciphertextLength.toNat])

def FrameHeader.fromJson : Serde.Decoder FrameHeader := fun json => do
  match ← Serde.record FrameHeader.fieldNames 0 json with
  | [protocolVersion, sessionId, messageType, sequenceNumber, ciphertextLength] =>
      return {
        protocolVersion := ← Serde.required Serde.text protocolVersion
        sessionId := ← Serde.required SessionId.fromJson sessionId
        messageType := ← Serde.required MessageType.fromJson messageType
        sequenceNumber := ← Serde.required Serde.u64 sequenceNumber
        ciphertextLength := ← Serde.required Serde.u32 ciphertextLength }
  | _ => none

/-- The part of a header that the cipher authenticates. -/
def FrameHeader.associatedData (header : FrameHeader) : Bytes :=
  ({ header with ciphertextLength := 0 } : FrameHeader).toJson.render

/-! ## Channels -/

namespace EncryptedChannel

variable (ext : Externals)

def «open» (session : SecureSession) (protocolVersion : String)
    (maximumFrameSize maximumPendingMessages : Nat) : Except ChannelError EncryptedChannel := do
  Check.failWhen (session.state ≠ .established ∨ maximumFrameSize ≤ frameOverheadLimit ∨
    maximumPendingMessages = 0) .sessionInvalid
  return {
    session
    state := .established
    protocolVersion
    maximumFrameSize
    maximumPendingMessages
    pendingOutbound := []
    sendSequence := 0
    receiveSequence := 0 }

def ensureEstablished : Fallible EncryptedChannel ChannelError Unit := do
  let channel ← Fallible.get
  Fallible.failWhen (channel.state ≠ .established) .channelClosed

/-- Run a session operation inside the channel. -/
def onSession {α : Type} (routine : Fallible SecureSession SessionError α) :
    Fallible EncryptedChannel ChannelError α :=
  Fallible.mapError ChannelError.ofSession (Fallible.zoom EncryptedChannel.session
    (fun session channel => { channel with session }) routine)

/-- The bytes of a frame. -/
def frameBytes (header : FrameHeader) (ciphertext : Bytes) : Bytes :=
  let headerBytes := header.toJson.render
  Bytes.bigEndian 4 headerBytes.length ++ headerBytes ++ ciphertext

def send (message : ChannelMessage) : Fallible EncryptedChannel ChannelError Bytes := do
  ensureEstablished
  let channel ← Fallible.get
  let sequence := channel.sendSequence
  let next ← Fallible.orThrow (checkedSucc channel.sendSequence) .invalidSequence
  Fallible.modify (fun channel => { channel with sendSequence := next })
  let messageType := message.messageType
  let plaintext := message.toJson.render
  let header : FrameHeader := {
    protocolVersion := channel.protocolVersion
    sessionId := channel.session.sessionId
    messageType
    sequenceNumber := sequence
    ciphertextLength := 0 }
  let associatedData := header.toJson.render
  let ciphertext ← onSession (SecureSession.encrypt ext plaintext associatedData)
  let header := { header with ciphertextLength := UInt32.ofNat ciphertext.length }
  let frame := frameBytes header ciphertext
  let channel ← Fallible.get
  if frame.length > channel.maximumFrameSize then
    Fallible.modify (fun channel => { channel with sendSequence := sequence })
    Fallible.throw .frameTooLarge
  if channel.pendingOutbound.length ≥ channel.maximumPendingMessages then
    Fallible.modify (fun channel => { channel with sendSequence := sequence })
    Fallible.throw .backpressure
  Fallible.modify (fun channel =>
    { channel with pendingOutbound := channel.pendingOutbound ++ [frame] })
  if messageType = .close then
    Fallible.modify (fun channel => { channel with state := .closing })
  return frame

def takePending (channel : EncryptedChannel) : Option Bytes × EncryptedChannel :=
  (channel.pendingOutbound.head?, { channel with pendingOutbound := channel.pendingOutbound.tail })

/-- The checks of `receive` before it decrypts: the header of a frame and its ciphertext. -/
def readFrame (frame : Bytes) :
    Fallible EncryptedChannel ChannelError (FrameHeader × Bytes) := do
  ensureEstablished
  let channel ← Fallible.get
  Fallible.failWhen (frame.length > channel.maximumFrameSize ∨ frame.length < 4) .frameTooLarge
  let lengthBytes ← Fallible.orPanic (Bytes.slice frame 0 4)
  let headerLength := Bytes.toNat lengthBytes
  Fallible.failWhen (headerLength = 0 ∨ headerLength > channel.maximumFrameSize ∨
    frame.length < 4 + headerLength) .invalidFrame
  let headerBytes ← Fallible.orPanic (Bytes.slice frame 4 (4 + headerLength))
  let header ← Fallible.orThrow (ext.fromSlice FrameHeader.fromJson headerBytes) .invalidFrame
  Fallible.failWhen (header.protocolVersion ≠ channel.protocolVersion) .unsupportedVersion
  Fallible.failWhen (header.sessionId ≠ channel.session.sessionId) .invalidSession
  Fallible.failWhen (header.sequenceNumber < channel.receiveSequence) .replayDetected
  Fallible.failWhen (header.sequenceNumber ≠ channel.receiveSequence) .invalidSequence
  let ciphertext ← Fallible.orPanic (Bytes.sliceFrom frame (4 + headerLength))
  Fallible.failWhen (ciphertext.length ≠ header.ciphertextLength.toNat) .invalidFrame
  return (header, ciphertext)

/-- The part of `receive` after decryption: decode the message and count it. -/
def acceptPlaintext (header : FrameHeader) (plaintext : Bytes) :
    Fallible EncryptedChannel ChannelError ChannelMessage := do
  let message ← Fallible.orThrow (ext.fromSlice ChannelMessage.fromJson plaintext)
    .invalidMessageType
  Fallible.failWhen (message.messageType ≠ header.messageType) .invalidMessageType
  let channel ← Fallible.get
  let next ← Fallible.orThrow (checkedSucc channel.receiveSequence) .invalidSequence
  Fallible.modify (fun channel => { channel with receiveSequence := next })
  if message = .close then
    Fallible.modify (fun channel => { channel with state := .closing })
  return message

def receive (frame : Bytes) : Fallible EncryptedChannel ChannelError ChannelMessage := do
  let (header, ciphertext) ← readFrame ext frame
  let plaintext ← onSession (SecureSession.decrypt ext ciphertext header.associatedData)
  acceptPlaintext ext header plaintext

def close : Fallible EncryptedChannel ChannelError Unit := do
  let channel ← Fallible.get
  match channel.state with
  | .established | .closing =>
      Fallible.modify (fun channel => { channel with state := .closed })
      onSession SecureSession.close
  | .closed | .failed => Fallible.throw .channelClosed
  | .opening => Fallible.throw .sessionInvalid

def markRemoteClosed (channel : EncryptedChannel) : EncryptedChannel :=
  { channel with state := .closed }

end EncryptedChannel

/-! ## The data plane

Its operations run on the channel it borrows; the payload limit it was opened
with is an argument.
-/

def dataPlaneKind : String := "data_plane"

def defaultMaximumPayloadSize : Nat := 2048

structure DataPlaneEnvelope where
  kind : String
  sessionId : SessionId
  frame : Bytes
  deriving DecidableEq

inductive DataPlaneMessageType where
  | data
  deriving DecidableEq

structure DataPlaneMessage where
  sessionId : SessionId
  sequenceNumber : UInt64
  messageType : DataPlaneMessageType
  payload : Bytes
  deriving DecidableEq

inductive DataPlaneError where
  | invalidSession
  | closedSession
  | oversizedPayload
  | malformedFrame
  | duplicateMessage
  | sequenceViolation
  | unavailableChannel
  | backpressure
  | unexpectedMessageType
  deriving DecidableEq

def DataPlaneError.ofChannel : ChannelError → DataPlaneError
  | .invalidSession | .invalidPeer | .sessionInvalid => .invalidSession
  | .channelClosed => .closedSession
  | .frameTooLarge => .malformedFrame
  | .replayDetected => .duplicateMessage
  | .invalidSequence => .sequenceViolation
  | .backpressure => .backpressure
  | .invalidFrame | .unsupportedVersion | .decryptionFailed | .authenticationFailed
  | .encryptionFailed | .invalidMessageType => .malformedFrame

def DataPlaneEnvelope.fieldNames : List String := ["kind", "session_id", "frame"]

def DataPlaneEnvelope.toJson (envelope : DataPlaneEnvelope) : Json :=
  .obj (DataPlaneEnvelope.fieldNames.zip
    [.str envelope.kind, envelope.sessionId.toJson, Serde.ofBytes envelope.frame])

def DataPlaneEnvelope.fromJson : Serde.Decoder DataPlaneEnvelope := fun json => do
  match ← Serde.record DataPlaneEnvelope.fieldNames 0 json with
  | [kind, sessionId, frame] =>
      return {
        kind := ← Serde.required Serde.text kind
        sessionId := ← Serde.required SessionId.fromJson sessionId
        frame := ← Serde.required Serde.bytes frame }
  | _ => none

namespace DataPlane

variable (ext : Externals)

def «open» (maximumPayloadSize : Nat) : Fallible EncryptedChannel DataPlaneError Unit := do
  let channel ← Fallible.get
  Fallible.failWhen (channel.state ≠ .established ∨ maximumPayloadSize = 0) .unavailableChannel

def send (maximumPayloadSize : Nat) (payload : Bytes) :
    Fallible EncryptedChannel DataPlaneError Bytes := do
  Fallible.failWhen (payload.length > maximumPayloadSize) .oversizedPayload
  Fallible.mapError DataPlaneError.ofChannel (EncryptedChannel.send ext (.dataPlane payload))

def receive (maximumPayloadSize : Nat) (envelope : DataPlaneEnvelope) :
    Fallible EncryptedChannel DataPlaneError DataPlaneMessage := do
  let channel ← Fallible.get
  Fallible.failWhen (envelope.kind ≠ dataPlaneKind ∨ envelope.sessionId ≠ channel.session.sessionId)
    .invalidSession
  match ← Fallible.mapError DataPlaneError.ofChannel
      (EncryptedChannel.receive ext envelope.frame) with
  | .dataPlane payload =>
      Fallible.failWhen (payload.length > maximumPayloadSize) .oversizedPayload
      let channel ← Fallible.get
      return {
        sessionId := channel.session.sessionId
        sequenceNumber := channel.receiveSequence - 1
        messageType := .data
        payload }
  | _ => Fallible.throw .unexpectedMessageType

def close : Fallible EncryptedChannel DataPlaneError Unit :=
  Fallible.mapError DataPlaneError.ofChannel EncryptedChannel.close

end DataPlane

end Network
