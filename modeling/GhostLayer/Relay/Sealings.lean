import GhostLayer.Relay.History

/-! # The calls of the cipher that a relay makes

A relay opens the frame of what comes to it, and seals the frame of what it
passes on. Each of these is a call of the cipher on a channel that it holds.
-/

namespace Relay

open Foundation Network

variable {ext : Externals}

/-- A forwarded message with this frame goes out. -/
inductive Effect.Forwards (ext : Externals) (frame : Bytes) : Effect → Prop
  | request (requestId : RequestId) (peer : PeerId) (message : ForwardingMessage)
      (carries : message.data.frame = frame) :
      Forwards ext frame (.request requestId peer (message.toJson ext).render)
  | respond (channel : ResponseChannel) (message : ForwardingMessage)
      (carries : message.data.frame = frame) :
      Forwards ext frame (.respond channel (message.toJson ext).render)

namespace Handled

/-- The envelope of what came to the relay. -/
def envelope (ext : Externals) (handled : Handled) : Option DataPlaneEnvelope :=
  match handled.event with
  | .network (.discoveryRequest _ payload _) => (Node.readRequest ext payload).data
  | .network (.discoveryResponse _ _ payload) =>
      (ext.fromSlice (ForwardingMessage.fromJson ext) payload).map ForwardingMessage.data
  | _ => none

/-- A channel that the relay has at an event, or has then when it has opened the envelope. -/
inductive Has (ext : Externals) (handled : Handled) : EncryptedChannel → Prop
  | held {sessionId : SessionId} {channel : EncryptedChannel}
      (found : handled.node.channels.lookup sessionId = some channel) : Has ext handled channel
  | opened {envelope : DataPlaneEnvelope} {message : DataPlaneMessage}
      {channel : EncryptedChannel} (data : handled.envelope ext = some envelope)
      (opens : handled.node.Opens ext envelope message channel) : Has ext handled channel

/-- The call that opens the frame that came. -/
def OpensWith (ext : Externals) (handled : Handled) (call : CipherCall) : Prop :=
  ∃ envelope channel, handled.envelope ext = some envelope ∧
    handled.node.channels.lookup envelope.sessionId = some channel ∧
    channel.OpensWith ext envelope.frame call

/-- The call that sealed a frame that goes out. -/
def SealsWith (setup : Setup ext) (handled : Handled) (call : CipherCall) : Prop :=
  ∃ channel message frame, handled.Has ext channel ∧ channel.SealsWith ext message frame call ∧
    ∃ effect ∈ handled.emitted setup, effect.Forwards ext frame

variable {handled : Handled} {envelope : DataPlaneEnvelope}

theorem envelope_of_request {peerId : PeerId} {payload : Bytes} {channel : ResponseChannel}
    (hevent : handled.event = .network (.discoveryRequest peerId payload channel)) :
    handled.envelope ext = (Node.readRequest ext payload).data := by
  rw [Handled.envelope, hevent]

theorem envelope_of_response {peerId : PeerId} {requestId : RequestId} {payload : Bytes}
    {message : ForwardingMessage}
    (hevent : handled.event = .network (.discoveryResponse peerId requestId payload))
    (hdecoded : ext.fromSlice (ForwardingMessage.fromJson ext) payload = some message) :
    handled.envelope ext = some message.data := by
  simp only [Handled.envelope, hevent, hdecoded, Option.map_some]

theorem Has.of_withChannel {message : DataPlaneMessage} {opened channel : EncryptedChannel}
    {sessionId : SessionId} (hdata : handled.envelope ext = some envelope)
    (hopens : handled.node.Opens ext envelope message opened)
    (hfound : (handled.node.withChannel envelope.sessionId opened).channels.lookup sessionId =
      some channel) : handled.Has ext channel := by
  by_cases hsame : sessionId = envelope.sessionId
  · subst hsame
    obtain rfl := Option.some.inj ((AList.lookup_insert _).symm.trans hfound)
    exact .opened hdata hopens
  · exact .held ((AList.lookup_insert_ne hsame).symm.trans hfound)

/-- An exit seals its response on the channel of the message, which the exchange left alone. -/
theorem has_of_answers {setup : Setup ext} {forwarded : ForwardingMessage}
    {peerId clientPeer : PeerId} {packet : ForwardedPacket} {response frame : Bytes}
    (hdata : handled.envelope ext = some forwarded.data)
    (hanswers : Node.AnswersWith setup handled.inputs handled.node forwarded peerId clientPeer
      packet response frame) :
    ∃ channel next, handled.Has ext channel ∧
      DataPlane.send ext defaultMaximumPayloadSize response channel = (.ok frame, next) := by
  obtain ⟨state, context, message, opened, middle, next, hreaches, hexchange,
    channel, hfound, hsend⟩ := hanswers.reaches
  obtain ⟨_, _, _, _, rfl, -⟩ := Node.exchange_ok hexchange
  exact ⟨channel, next, .of_withChannel hdata hreaches.opens hfound, hsend⟩

/-- What a relay takes out of a frame is what was sealed in it, where the cipher is ideal for both
calls. -/
theorem payload_of_opens (hparse : ext.ParsesJson) {sealed opened : CipherCall → Prop}
    {maximum : Nat} {payload : Bytes} {sender sent next : EncryptedChannel}
    {message : DataPlaneMessage} (hideal : CipherCall.Ideal sealed opened)
    (hsealed : ∀ call, sender.SealsWith ext (.dataPlane payload) envelope.frame call → sealed call)
    (hopened : ∀ call, handled.OpensWith ext call → opened call)
    (hdata : handled.envelope ext = some envelope)
    (hsend : DataPlane.send ext maximum payload sender = (.ok envelope.frame, sent))
    (hopens : handled.node.Opens ext envelope message next)
    (hlimit : ∀ channel, handled.node.channels.lookup envelope.sessionId = some channel →
      channel.maximumFrameSize < 2 ^ 32) : message.payload = payload := by
  obtain ⟨receiver, hfound, hreceive⟩ := hopens
  have hcalls := hideal.mono hsealed
    fun call (hcall : receiver.OpensWith ext envelope.frame call) =>
      hopened call ⟨envelope, receiver, hdata, hfound, hcall⟩
  exact DataPlane.receive_of_send hparse hcalls hsend hreceive rfl (hlimit receiver hfound)

end Handled

end Relay
