import GhostLayer.Network.ChannelUse
import GhostLayer.Relay.Soundness

/-! # The queues of a relay

A relay sends every frame that a channel of its table seals, and the channels
keep all of them in their queues.
-/

namespace Relay

open Foundation Network

variable {ext : Externals}

/-! ## Frames on their way -/

/-- The bytes of a message that carry a frame of a session. -/
inductive Carries (ext : Externals) (sessionId : SessionId) (frame : Bytes) : Bytes → Prop
  | forwarded (message : ForwardingMessage)
      (data : message.data = ⟨dataPlaneKind, sessionId, frame⟩) :
      Carries ext sessionId frame (message.toJson ext).render
  | bare : Carries ext sessionId frame
      (DataPlaneEnvelope.mk dataPlaneKind sessionId frame).toJson.render

/-- A channel of a session in use, all of whose frames were handed to the transport. -/
structure HandedOver (ext : Externals) (payloads : List Bytes) (sessionId : SessionId)
    (channel : EncryptedChannel) (frames : List Bytes) : Prop where
  used : channel.Used ext frames
  sent : ∀ frame ∈ frames, ∃ payload ∈ payloads, Carries ext sessionId frame payload

namespace HandedOver

variable {payloads more : List Bytes} {sessionId : SessionId} {channel next : EncryptedChannel}
  {frames : List Bytes} {payload frame bytes : Bytes}

theorem fresh {session : SecureSession} (hestablished : session.state = .established) :
    HandedOver ext payloads sessionId (Node.freshChannel session) [] where
  used := .opened session channelProtocolVersion _
    (EncryptedChannel.open_eq_ok.mpr ⟨⟨hestablished, by decide, by decide⟩, rfl⟩)
  sent := nofun

theorem mono (hhanded : HandedOver ext payloads sessionId channel frames)
    (hmore : payloads ⊆ more) : HandedOver ext more sessionId channel frames where
  used := hhanded.used
  sent frame hframe := by
    obtain ⟨payload, hpayload, hcarries⟩ := hhanded.sent frame hframe
    exact ⟨payload, hmore hpayload, hcarries⟩

theorem received (hhanded : HandedOver ext payloads sessionId channel frames)
    (envelope : DataPlaneEnvelope) :
    HandedOver ext payloads sessionId
      (DataPlane.receive ext defaultMaximumPayloadSize envelope channel).2 frames where
  used := .received channel frames envelope hhanded.used
  sent := hhanded.sent

theorem unsent (hhanded : HandedOver ext payloads sessionId channel frames)
    (hfails : next = channel ∨ ∃ reason, DataPlane.send ext defaultMaximumPayloadSize payload
      channel = (.error reason, next)) : HandedOver ext payloads sessionId next frames := by
  rcases hfails with rfl | ⟨reason, hfails⟩
  · exact hhanded
  · exact ⟨.refused channel next frames payload reason hhanded.used hfails, hhanded.sent⟩

/-- A frame is sealed and sent. -/
theorem sealed (hhanded : HandedOver ext payloads sessionId channel frames)
    (hsend : DataPlane.send ext defaultMaximumPayloadSize payload channel = (.ok frame, next))
    (hcarries : Carries ext sessionId frame bytes) :
    HandedOver ext (payloads ++ [bytes]) sessionId next (frames ++ [frame]) where
  used := .sent channel next frames payload frame hhanded.used hsend
  sent other hother := by
    rcases List.mem_append.mp hother with hbefore | hlast
    · obtain ⟨earlier, hearlier, hcarried⟩ := hhanded.sent other hbefore
      exact ⟨earlier, List.mem_append_left _ hearlier, hcarried⟩
    · obtain rfl := List.mem_singleton.mp hlast
      exact ⟨bytes, by simp, hcarries⟩

end HandedOver

/-! ## The table -/

/-- What a relay hands to the transport. -/
def transmitted (effects : List Effect) : List Bytes :=
  effects.flatMap fun effect => match effect with
    | .respond _ payload | .request _ _ payload => [payload]
    | .dial _ | .dispatch _ => []

/-- Every channel has its frames handed over. -/
def Queued (ext : Externals) (payloads : List Bytes)
    (channels : AList (fun _ : SessionId => EncryptedChannel)) : Prop :=
  EveryEntry (fun sessionId channel => ∃ frames, HandedOver ext payloads sessionId channel frames)
    channels

theorem transmitted_subset {effects : List Effect} (more : List Effect) :
    transmitted effects ⊆ transmitted (effects ++ more) := by
  rw [transmitted, transmitted, List.flatMap_append]
  exact List.subset_append_left _ _

namespace Queued

variable {node : Node} {payload frame bytes : Bytes} {sessionId : SessionId}
  {current next : EncryptedChannel} {payloads : List Bytes} {effects : List Effect}
  {channels : AList (fun _ : SessionId => EncryptedChannel)}

theorem mono (hqueued : Queued ext (transmitted effects) channels) (more : List Effect) :
    Queued ext (transmitted (effects ++ more)) channels :=
  hqueued.imp fun _ _ _ ⟨frames, hhanded⟩ => ⟨frames, hhanded.mono (transmitted_subset more)⟩

theorem fresh {session : SecureSession} (hqueued : Queued ext payloads channels)
    (hestablished : session.state = .established) :
    Queued ext payloads (channels.insert session.sessionId (Node.freshChannel session)) :=
  hqueued.insert ⟨[], .fresh hestablished⟩

theorem received {envelope : DataPlaneEnvelope} (hqueued : Queued ext payloads channels)
    (hfound : channels.lookup envelope.sessionId = some current) :
    Queued ext payloads (channels.insert envelope.sessionId
      (DataPlane.receive ext defaultMaximumPayloadSize envelope current).2) := by
  obtain ⟨frames, hhanded⟩ := hqueued _ _ hfound
  exact hqueued.insert ⟨frames, hhanded.received envelope⟩

theorem opened {envelope : DataPlaneEnvelope} {message : DataPlaneMessage}
    (hqueued : Queued ext payloads node.channels) (hopens : node.Opens ext envelope message next) :
    Queued ext payloads (node.channels.insert envelope.sessionId next) := by
  obtain ⟨current, hfound, hreceive⟩ := hopens
  have hreceived := hqueued.received hfound
  rwa [hreceive] at hreceived

/-- A channel seals a frame, and the effect that follows carries it. -/
theorem sealed {effect : Effect} (hqueued : Queued ext (transmitted effects) channels)
    (hfound : channels.lookup sessionId = some current)
    (hsend : DataPlane.send ext defaultMaximumPayloadSize payload current = (.ok frame, next))
    (heffect : transmitted [effect] = [bytes]) (hcarries : Carries ext sessionId frame bytes) :
    Queued ext (transmitted (effects ++ [effect])) (channels.insert sessionId next) := by
  obtain ⟨frames, hhanded⟩ := hqueued _ _ hfound
  refine (hqueued.mono [effect]).insert ⟨frames ++ [frame], ?_⟩
  rw [transmitted, List.flatMap_append, ← transmitted, ← transmitted, heffect]
  exact hhanded.sealed hsend hcarries

end Queued

/-! ## Steps and runs -/

namespace Node

variable {node final : Node} {setup : Setup ext} {inputs : Inputs} {payload : Bytes}
  {peerId : PeerId} {channel : ResponseChannel} {requestId : RequestId}

/-- The frames of all channels were sent. -/
def SendsAll (ext : Externals) (node : Node) : Prop :=
  Queued ext (transmitted node.effects) node.channels

theorem SendsAll.request (hsends : SendsAll ext node)
    (hstep : RequestStep ext setup inputs payload peerId channel node final) :
    SendsAll ext final := by
  cases hstep with
  | ignored | rejected | refused => exact hsends
  | metadata => exact Queued.mono hsends _
  | accepted init response session responder decoded kind accepts takes other =>
      exact (Queued.fresh hsends (acceptInit_established accepts)).mono _
  | started init response session responder exit exitAddress decoded kind accepts takes route
      entry =>
      exact (Queued.fresh hsends (acceptInit_established accepts)).mono _
  | forwarded forwarded forwarding packet message opened frame sealed decoded found entry bound
      opens shown seals =>
      obtain ⟨current, hfound, hsend⟩ := seals
      exact (Queued.opened hsends opens).sealed hfound hsend rfl (.forwarded _ rfl)
  | forwardedBare envelope forwarding message opened frame sealed destination decoded found client
      opens seals =>
      obtain ⟨current, hfound, hsend⟩ := seals
      exact (Queued.opened hsends opens).sealed hfound hsend rfl (.forwarded _ rfl)
  | received envelope current decoded found => exact Queued.received hsends found
  | acknowledged envelope current message opened frame sealed decoded found receives sends =>
      -- the channel opens the envelope and seals the answer before it is put back
      obtain ⟨frames, hhanded⟩ := hsends _ _ found
      have hopened := hhanded.received envelope
      rw [receives] at hopened
      refine (Queued.mono hsends _).insert ⟨frames ++ [frame], ?_⟩
      rw [transmitted, List.flatMap_append]
      exact hopened.sealed sends .bare
  | exited forwarded clientPeer context packet message opened answer next final decoded reaches
      exchanges answers =>
      obtain ⟨_, _, _, effects, rfl, _, _, heffects⟩ := exchange_ok exchanges
      have hnext : Queued ext (transmitted effects)
          (node.channels.insert forwarded.data.sessionId opened) := by
        rcases heffects with rfl | rfl
        · exact Queued.opened hsends reaches.opens
        · exact (Queued.opened hsends reaches.opens).mono _
      cases answer with
      | none =>
          obtain rfl := answers
          exact hnext
      | some response =>
          obtain ⟨frame, sealed, ⟨current, hfound, hsend⟩, _, rfl⟩ := answers
          exact hnext.sealed hfound hsend rfl (.forwarded _ rfl)

theorem SendsAll.response (hsends : SendsAll ext node)
    (hstep : ResponseStep ext inputs payload peerId requestId node final) :
    SendsAll ext final := by
  cases hstep with
  | ignored | dropped => exact hsends
  | established response pending session entry exit exitAddress decoded
      found completes route peer =>
      obtain ⟨_, _, _, rfl⟩ := SessionInitiator.complete_eq_ok.mp completes
      exact (Queued.fresh hsends rfl).mono _
  | returned pending response forwarding packet message opened frame sealed undecoded found decoded
      client belongs exit session opens seals =>
      obtain ⟨current, hfound, hsend⟩ := seals
      exact (Queued.opened hsends opens).sealed hfound hsend rfl (.forwarded _ rfl)

theorem SendsAll.step {event : LoopEvent} (hsends : SendsAll ext node)
    (hstep : Step ext setup inputs node event final) : SendsAll ext final := by
  cases hstep with
  | idle | listened | met | left | beat => exact hsends
  | requested payload peerId channel state _ hstep =>
      have hnoted : SendsAll ext { node with state } := hsends
      exact hnoted.request hstep
  | responded payload peerId requestId state _ hstep =>
      have hnoted : SendsAll ext { node with state } := hsends
      exact hnoted.response hstep
  | greeted => exact Queued.mono hsends _
  | unsent payload relaySessionId current next found fails =>
      obtain ⟨frames, hhanded⟩ := hsends _ _ found
      exact EveryEntry.insert hsends ⟨frames, hhanded.unsent fails⟩
  | injected payload forwardingId forwarding relaySessionId frame sealed found active seals =>
      obtain ⟨current, hfound, hsend⟩ := seals
      exact Queued.sealed hsends hfound hsend rfl (.forwarded _ rfl)

theorem sendsAll_of_reachable (hreach : (loop ext setup).Reachable node) : SendsAll ext node := by
  refine hreach.invariant (SendsAll ext) ?_ ?_
  · intro start hstarted sessionId channel hfound
    rw [hstarted.channels] at hfound
    cases hfound
  · rintro _ _ _ hsends ⟨inputs, event, hrun⟩
    exact hsends.step (handle_step hrun)

end Node

end Relay
