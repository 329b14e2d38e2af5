import GhostLayer.Client.Joining
import GhostLayer.Relay.Queues

/-! # The queues of both loops

A client sends every frame that its channel seals, like a relay. Neither empties
the queues of its channels: the ninth payload of a session is refused.
-/

namespace Client

open Foundation Network Relay

variable {ext : Externals}

/-- What a client hands to the transport. -/
def transmitted (effects : List Effect) : List Bytes :=
  effects.flatMap fun effect => match effect with
    | .request _ payload => [payload]
    | .tun _ => []

namespace Engine

variable {setup : Setup} {inputs : Inputs} {engine final : Engine}

/-- The frames of the active channel were sent. -/
def SendsAll (ext : Externals) (engine : Engine) : Prop :=
  ∀ sessionId channel, engine.currentSessionId = some sessionId →
    engine.activeChannel = some channel →
    ∃ frames, HandedOver ext (transmitted engine.effects) sessionId channel frames

theorem SendsAll.withEffect (hsends : SendsAll ext engine) (effect : Effect) :
    SendsAll ext (engine.withEffect effect) := by
  intro sessionId channel hsession hactive
  obtain ⟨frames, hhanded⟩ := hsends sessionId channel hsession hactive
  refine ⟨frames, hhanded.mono ?_⟩
  rw [Engine.withEffect, transmitted, transmitted, List.flatMap_append]
  exact List.subset_append_left _ _

/-- The channel changes, and no frame is sealed. -/
theorem SendsAll.withChannel {channel next : EncryptedChannel} (hsends : SendsAll ext engine)
    (hactive : engine.activeChannel = some channel)
    (hnext : ∀ payloads sessionId frames, HandedOver ext payloads sessionId channel frames →
      HandedOver ext payloads sessionId next frames) :
    SendsAll ext { engine with activeChannel := some next } := by
  intro sessionId current hsession hcurrent
  obtain rfl := Option.some.inj hcurrent
  obtain ⟨frames, hhanded⟩ := hsends sessionId channel hsession hactive
  exact ⟨frames, hnext _ _ _ hhanded⟩

theorem SendsAll.step {event : LoopEvent} (hsends : SendsAll ext engine)
    (hstep : Step ext setup inputs engine event final) : SendsAll ext final := by
  cases hstep with
  | idle | failed | considered => exact hsends
  | asked peerId => exact hsends.withEffect _
  | established _ _ _ response initiator session decoded pending completes =>
      obtain ⟨_, _, _, rfl⟩ := SessionInitiator.complete_eq_ok.mp completes
      intro sessionId channel _ hactive
      obtain rfl := Option.some.inj hactive
      exact ⟨[], .fresh rfl⟩
  | received _ _ _ message channel next decoded active receives =>
      refine hsends.withChannel active fun _ _ _ hhanded => ?_
      rcases receives with rfl | rfl
      · exact hhanded
      · exact hhanded.received message.data
  | delivered _ _ _ message channel next opening decoded active receives =>
      refine SendsAll.withEffect (hsends.withChannel active fun _ _ _ hhanded => ?_) _
      have hreceived := hhanded.received message.data
      rwa [receives] at hreceived
  | begun _ _ _ metadata candidate route initiator decoded accepted selected free starts =>
      have hbegun : SendsAll ext { engine with
          candidates := engine.candidates ++ [candidate]
          pendingSession := some initiator } := hsends
      exact hbegun.withEffect _
  | left =>
      intro sessionId channel hsession
      cases hsession
  -- A payload that is refused adds no frame to the queue.
  | unsent packet channel next item shown active fails =>
      exact hsends.withChannel active fun _ _ _ hhanded => hhanded.unsent fails
  | sent packet channel next route exit sessionId item frame shown active along towards current
      sends =>
      intro sessionId' channel' hsession hactive
      obtain rfl := Option.some.inj (current.symm.trans hsession)
      obtain rfl := Option.some.inj hactive
      obtain ⟨frames, hhanded⟩ := hsends _ _ current active
      refine ⟨frames ++ [frame], ?_⟩
      rw [Engine.withEffect, transmitted, List.flatMap_append]
      exact hhanded.sealed sends (.forwarded _ rfl)

theorem sendsAll_of_reachable (hreach : (loop ext setup).Reachable engine) :
    SendsAll ext engine := by
  refine hreach.invariant (SendsAll ext) ?_ ?_
  · rintro _ rfl sessionId channel hsession
    cases hsession
  · rintro _ _ _ hsends ⟨_, _, hrun⟩
    exact hsends.step (handle_step hrun)

end Engine

/-! ## Backpressure -/

/-- The frames of a channel were all sent, and it takes another payload within its limits exactly
while they are fewer than eight. -/
def TakesUpToEight (ext : Externals) (payloads : List Bytes) (sessionId : SessionId)
    (channel : EncryptedChannel) : Prop :=
  ∃ frames, HandedOver ext payloads sessionId channel frames ∧
    ∀ payload, (DataPlane.send ext defaultMaximumPayloadSize payload channel).1 ≠
      .error .backpressure ↔ (channel.Fits ext payload → frames.length < 8)

/-- Whatever was sent before, a channel of a relay or of a client refuses a payload for its full
queue from the ninth on and not before. -/
theorem takesUpToEight :
    (∀ (setup : Relay.Setup ext) (node : Node) (sessionId : SessionId)
        (channel : EncryptedChannel), (Node.loop ext setup).Reachable node →
      node.channels.lookup sessionId = some channel →
      TakesUpToEight ext (Relay.transmitted node.effects) sessionId channel) ∧
    (∀ (setup : Setup) (engine : Engine) (sessionId : SessionId) (channel : EncryptedChannel),
      (Engine.loop ext setup).Reachable engine → engine.currentSessionId = some sessionId →
      engine.activeChannel = some channel →
      TakesUpToEight ext (transmitted engine.effects) sessionId channel) := by
  constructor
  · intro setup node sessionId channel hreach hfound
    obtain ⟨frames, hhanded⟩ := Node.sendsAll_of_reachable hreach sessionId channel hfound
    exact ⟨frames, hhanded, hhanded.used.not_backpressure_iff⟩
  · intro setup engine sessionId channel hreach hsession hactive
    obtain ⟨frames, hhanded⟩ :=
      Engine.sendsAll_of_reachable hreach sessionId channel hsession hactive
    exact ⟨frames, hhanded, hhanded.used.not_backpressure_iff⟩

/-- The first query of a session is taken. -/
theorem takesUpToEight_first : ∃ engine channel,
    (Engine.loop reference (ReferenceClient.setup .oneHop)).Reachable engine ∧
      engine.activeChannel = some channel ∧
      TakesUpToEight reference (transmitted engine.effects) ReferenceClient.inputs.sessionId
        channel := by
  obtain ⟨engine, hestablished⟩ := ReferenceClient.established .oneHop
  exact ⟨engine, _, hestablished.reachable, hestablished.channel,
    takesUpToEight.2 _ engine _ _ hestablished.reachable hestablished.session
      hestablished.channel⟩

/-- The ninth query of a session is refused although the eight before it were sent. -/
theorem ninth_refused : ∃ engine channel frames,
    (Engine.loop reference (ReferenceClient.setup .oneHop)).Reachable engine ∧
      engine.activeChannel = some channel ∧
      HandedOver reference (transmitted engine.effects) ReferenceClient.inputs.sessionId channel
        frames ∧
      channel.Fits reference [] ∧
      (DataPlane.send reference defaultMaximumPayloadSize [] channel).1 = .error .backpressure := by
  obtain ⟨engine, hestablished⟩ := ReferenceClient.established_after .oneHop (Nat.le_refl 8)
  obtain ⟨frames, hhanded⟩ := Engine.sendsAll_of_reachable hestablished.reachable _ _
    hestablished.session hestablished.channel
  have hrefused : (DataPlane.send reference defaultMaximumPayloadSize []
      (ReferenceClient.channelAfter .oneHop 8)).1 = .error .backpressure := by decide +kernel
  have hlimit : 0 < (ReferenceClient.channelAfter .oneHop 8).maximumPendingMessages := by
    rw [hhanded.used.queue.2]
    decide
  exact ⟨engine, _, frames, hestablished.reachable, hestablished.channel, hhanded,
    ((EncryptedChannel.dataPlane_backpressure hlimit).mp hrefused).1, hrefused⟩

end Client
