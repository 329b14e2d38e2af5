import GhostLayer.Relay.Soundness

/-! # What events do to the reported state

The state that a relay reports changes with the network events themselves and at
heartbeats. Whatever else an event does leaves it alone.
-/

namespace Relay

open Foundation Network

variable {ext : Externals}

namespace Node

variable {node final : Node} {setup : Setup ext} {inputs : Inputs} {payload : Bytes}
  {peerId : PeerId} {channel : ResponseChannel} {event : LoopEvent}

/-- The status that a health class is written back as. -/
def statusOf : HealthClass → RelayStatus
  | .healthy => .online
  | .degraded => .degraded
  | .unhealthy => .offline

/-- The health that a heartbeat computes. -/
def healthAt (setup : Setup ext) (inputs : Inputs) (state : RelayState) : RelayHealth :=
  RelayHealth.evaluate state (thresholds ext setup) inputs.now

/-- The reported state after an event. -/
def stateAfter (setup : Setup ext) (inputs : Inputs) (event : LoopEvent) (state : RelayState) :
    RelayState :=
  match event with
  | .network event => state.applyNetworkEvent event inputs.now
  | .tun _ => state
  | .heartbeat =>
      { state.setStatus (statusOf (healthAt setup inputs state).class') with
        lastHeartbeat := some inputs.now }

theorem RequestStep.state
    (hstep : RequestStep ext setup inputs payload peerId channel node final) :
    final.state = node.state := by
  cases hstep with
  | exited message clientPeer context packet opening opened answer next _ decoded reaches exchanges
      answers =>
      obtain ⟨_, _, _, _, rfl, _⟩ := exchange_ok exchanges
      cases answer with
      | none =>
          obtain rfl := answers
          rfl
      | some response =>
          obtain ⟨_, _, _, _, rfl⟩ := answers
          rfl
  | ignored | rejected | refused | accepted | started | metadata | forwarded | forwardedBare
  | received | acknowledged => rfl

variable (ext node payload) in
theorem sendOn_state (sessionId : SessionId) (missing openText sendText : String) :
    (sendOn ext sessionId missing openText sendText payload node).2.state = node.state := by
  unfold sendOn onChannel
  cases node.channels.lookup sessionId <;> rfl

theorem handleTun_state (hrun : handleTun ext inputs payload node = (.ok (), final)) :
    final.state = node.state := by
  rw [handleTun, Fallible.get_bind_run] at hrun
  cases hhead : (node.exitForwarding.entries.rotate inputs.iteration).head? with
  | none =>
      simp only [hhead, Option.map_none] at hrun
      obtain ⟨_, rfl⟩ := Fallible.pure_eq_ok.mp hrun
      rfl
  | some entry =>
      cases hactive : node.activeExitRelaySession with
      | none =>
          simp only [hhead, hactive, Option.map_some] at hrun
          obtain ⟨_, rfl⟩ := Fallible.pure_eq_ok.mp hrun
          rfl
      | some relaySessionId =>
          simp only [hhead, hactive, Option.map_some] at hrun
          obtain ⟨outcome, next, hattempt, hrest⟩ := Fallible.bind_eq_ok.mp hrun
          have hkept : next.state = node.state := by
            have hsend := sendOn_state ext node payload relaySessionId "" "" ""
            rw [Fallible.attempt_eq_ok] at hattempt
            cases outcome <;> rw [hattempt] at hsend <;> exact hsend
          cases outcome with
          | error reason =>
              obtain ⟨_, rfl⟩ := Fallible.pure_eq_ok.mp hrest
              exact hkept
          | ok frame =>
              obtain rfl := Fallible.modify_eq_ok.mp hrest
              exact hkept

/-- What every event does to the reported state. -/
theorem handle_state (hrun : handle ext setup inputs event node = (.ok (), final)) :
    final.state = stateAfter setup inputs event node.state := by
  cases event with
  | tun payload => exact handleTun_state hrun
  | heartbeat =>
      simp only [handle, heartbeat, Fallible.modify_eq_ok] at hrun
      subst hrun
      unfold stateAfter healthAt
      cases (RelayHealth.evaluate node.state (thresholds ext setup) inputs.now).class' <;> rfl
  | network event =>
      simp only [handle, handleEvent, Fallible.modify_bind_run] at hrun
      cases event with
      | listening address =>
          obtain ⟨_, _, rfl⟩ := listening_ok hrun
          rfl
      | peerConnected peerId =>
          obtain ⟨_, rfl⟩ := Prod.mk.inj (peerConnected_run.symm.trans hrun)
          split <;> rfl
      | peerDisconnected peerId =>
          obtain rfl := Fallible.modify_eq_ok.mp hrun
          rfl
      | discoveryRequest peerId payload channel => exact (handleRequest_step hrun).state
      | discoveryResponse peerId requestId payload =>
          cases handleResponse_step hrun <;> rfl
      | peerIdentified | pingResult | networkError =>
          obtain ⟨_, rfl⟩ := Fallible.pure_eq_ok.mp hrun
          rfl

end Node

end Relay
