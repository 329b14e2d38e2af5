import GhostLayer.Relay.Circuit

/-! # Runs of a circuit, event by event

What one relay sends reaches the other. An event that a relay handles extends
the run of the circuit when it can come to the relay, and what the relay sent is
then in its history.
-/

namespace Relay.Circuit

open Foundation Network

variable {ext : Externals} {parties : Parties ext} {circuit : Circuit} {inputs : Inputs}
  {event : Node.LoopEvent} {node : Node} {sent : List Effect} {requestId : RequestId}

/-- Both relays are still in their loops. -/
structure Running (circuit : Circuit) : Prop where
  entry : circuit.entry.ended = false
  exit : circuit.exit.ended = false

/-- The entry has handled an event and is in the state `node`. -/
def atEntry (circuit : Circuit) (inputs : Inputs) (event : Node.LoopEvent) (node : Node) :
    Circuit :=
  { circuit with
    entry := ⟨node, false, circuit.entry.history ++ [⟨circuit.entry.node, inputs, event⟩]⟩ }

/-- The exit has handled an event and is in the state `node`. -/
def atExit (circuit : Circuit) (inputs : Inputs) (event : Node.LoopEvent) (node : Node) : Circuit :=
  { circuit with
    exit := ⟨node, false, circuit.exit.history ++ [⟨circuit.exit.node, inputs, event⟩]⟩ }

variable (circuit) in
theorem step_atEntry (hrunning : circuit.Running)
    (hunused : circuit.Unused parties inputs.requestId)
    (harrives : circuit.AtEntry parties event)
    (hrun : Node.handle ext parties.entry inputs event circuit.entry.node = (.ok (), node)) :
    (system parties).step circuit (circuit.atEntry inputs event node) := by
  have hstep := Step.entry inputs event hrunning.entry hunused harrives
  rwa [Process.handle, hrun] at hstep

variable (circuit) in
theorem step_atExit (hrunning : circuit.Running) (harrives : circuit.AtExit parties event)
    (hrun : Node.handle ext parties.exit inputs event circuit.exit.node = (.ok (), node)) :
    (system parties).step circuit (circuit.atExit inputs event node) := by
  have hstep := Step.exit inputs event hrunning.exit harrives
  rwa [Process.handle, hrun] at hstep

theorem emitted_of_effects {setup : Setup ext} {before : Node} (hsound : Node.Sound setup before)
    (hrun : Node.handle ext setup inputs event before = (.ok (), node))
    (heffects : node.effects = before.effects ++ sent) :
    Node.emitted setup inputs event before = sent :=
  List.append_cancel_left ((Node.emitted_of_ok hrun hsound).symm.trans heffects)

variable (node) in
/-- A number that was not given to a request of the last event is as unused as before. -/
theorem Unused.atEntry (hunused : circuit.Unused parties requestId)
    (hemitted : Node.emitted parties.entry inputs event circuit.entry.node = sent)
    (hother : ∀ peer payload, .request requestId peer payload ∉ sent) :
    (circuit.atEntry inputs event node).Unused parties requestId := by
  intro handled hhandled peer payload hrequest
  rcases List.mem_append.mp hhandled with hold | hnew
  · exact hunused handled hold peer payload hrequest
  · obtain rfl := List.mem_singleton.mp hnew
    exact hother peer payload (hemitted ▸ hrequest)

/-! ## What can come -/

theorem AtEntry.connected (peer : PeerId) :
    circuit.AtEntry parties (.network (.peerConnected peer)) := ⟨nofun, nofun⟩

theorem AtEntry.asked {client : PeerId} {payload : Bytes} {channel : ResponseChannel}
    (hchannel : channel.peer = client) (hother : client ≠ parties.entry.peerId)
    (hmade : circuit.Made ext client payload) :
    circuit.AtEntry parties (.network (.discoveryRequest client payload channel)) := by
  refine ⟨fun peer bytes other hevent => ?_, nofun⟩
  cases hevent
  exact ⟨hchannel, hother, fun _ => hmade⟩

/-- The last response of the exit comes to the entry. -/
theorem AtEntry.answered {payload : Bytes}
    (hemitted : Node.emitted parties.exit inputs event circuit.exit.node = sent)
    (hrespond : .respond ⟨parties.entry.peerId, requestId⟩ payload ∈ sent) :
    (circuit.atExit inputs event node).AtEntry parties
      (.network (.discoveryResponse parties.exit.peerId requestId payload)) := by
  refine ⟨nofun, fun number bytes hevent => ?_⟩
  cases hevent
  refine ⟨_, List.mem_append_right _ (List.mem_singleton_self _), ?_⟩
  rw [Handled.emitted, hemitted]
  exact hrespond

/-- The last request of the entry comes to the exit. -/
theorem AtExit.asked {payload : Bytes}
    (hemitted : Node.emitted parties.entry inputs event circuit.entry.node = sent)
    (hrequest : .request requestId parties.exit.peerId payload ∈ sent) :
    (circuit.atEntry inputs event node).AtExit parties (.network (.discoveryRequest
      parties.entry.peerId payload ⟨parties.entry.peerId, requestId⟩)) := by
  refine ⟨fun peer bytes channel hevent => ?_⟩
  cases hevent
  refine ⟨rfl, fun _ => ⟨_, List.mem_append_right _ (List.mem_singleton_self _), ?_⟩⟩
  rw [Handled.emitted, hemitted]
  exact hrequest

end Relay.Circuit
