import GhostLayer.Relay.Admission
import GhostLayer.Relay.StateLaws

/-! # Connections and peers

A peer can have several connections to a relay. The transport reports each of
them when it is established and when it is closed; the events that the loop sees
name the peer only. Closing one of two connections therefore makes the relay
forget a peer that is still connected.
-/

namespace Relay

open Foundation Network

variable {ext : Externals}

/-! ## Events of the swarm -/

abbrev ConnectionId := Nat

/-- What the swarm reports, as far as it is looked at. -/
inductive SwarmEvent (Channel RequestId : Type) where
  | newListenAddr (address : String)
  | connectionEstablished (peerId : PeerId) (connectionId : ConnectionId)
  | connectionClosed (peerId : PeerId) (connectionId : ConnectionId)
  | identifyReceived (peerId : PeerId) (agentVersion : String)
  | ping (peer : PeerId) (result : Except String Nat)
  | request (peer : PeerId) (request : Bytes) (channel : Channel)
  | response (peer : PeerId) (requestId : RequestId) (response : Bytes)
  | outgoingConnectionError (error : String)
  | incomingConnectionError (error : String)
  | other

def translateEvent {Channel RequestId : Type} :
    SwarmEvent Channel RequestId → Option (NetworkEvent Channel RequestId)
  | .newListenAddr address => some (.listening address)
  | .connectionEstablished peerId _ => some (.peerConnected peerId)
  | .connectionClosed peerId _ => some (.peerDisconnected peerId)
  | .identifyReceived peerId agentVersion => some (.peerIdentified peerId agentVersion)
  | .ping peer result => some (.pingResult peer result)
  | .request peer request channel => some (.discoveryRequest peer request channel)
  | .response peer requestId response => some (.discoveryResponse peer requestId response)
  | .outgoingConnectionError error => some (.networkError error)
  | .incomingConnectionError error => some (.networkError error)
  | .other => none

/-- What wakes the loop of a relay. -/
inductive WakeUp where
  | swarm (event : SwarmEvent ResponseChannel RequestId)
  | tun (payload : Bytes)
  | heartbeat

def WakeUp.loopEvent : WakeUp → Option Node.LoopEvent
  | .swarm event => (translateEvent event).map .network
  | .tun payload => some (.tun payload)
  | .heartbeat => some .heartbeat

/-! ## Runs with their connections -/

/-- A relay together with the connections of its transport. -/
structure Wired where
  node : Node
  /-- The connections that are open, with their peers. -/
  connections : Finset (PeerId × ConnectionId)
  /-- All connections that were ever established. -/
  established : Finset ConnectionId

namespace Wired

open Node

/-- Every connection is established once and closed at most once. -/
def Occurs (event : WakeUp) (wired : Wired) : Prop :=
  match event with
  | .swarm (.connectionEstablished _ connectionId) => connectionId ∉ wired.established
  | .swarm (.connectionClosed peerId connectionId) => (peerId, connectionId) ∈ wired.connections
  | .swarm _ | .tun _ | .heartbeat => True

def after (event : WakeUp) (node : Node) (wired : Wired) : Wired :=
  match event with
  | .swarm (.connectionEstablished peerId connectionId) =>
      ⟨node, insert (peerId, connectionId) wired.connections,
        insert connectionId wired.established⟩
  | .swarm (.connectionClosed peerId connectionId) =>
      { wired with node, connections := wired.connections.erase (peerId, connectionId) }
  | .swarm _ | .tun _ | .heartbeat => { wired with node }

variable (ext) (setup : Setup ext)

/-- The loop handles what an event is translated to, if it is translated at all. -/
def Handles (inputs : Inputs) (event : WakeUp) (node final : Node) : Prop :=
  match event.loopEvent with
  | some event => handle ext setup inputs event node = (.ok (), final)
  | none => final = node

/-- The runs of a relay on events that are allowed. -/
def run (allowed : WakeUp → Wired → Prop) : System Wired where
  init wired := Started ext setup wired.node ∧ wired.connections = ∅ ∧ wired.established = ∅
  step wired next := ∃ inputs event node, Occurs event wired ∧ allowed event wired ∧
    Handles ext setup inputs event wired.node node ∧ next = wired.after event node

variable {ext setup} {allowed : WakeUp → Wired → Prop} {wired : Wired}

/-- Some connection of a peer is open. -/
def IsConnected (wired : Wired) (peer : PeerId) : Prop :=
  ∃ connectionId, (peer, connectionId) ∈ wired.connections

/-- A connection is closed only when it is the last one of its peer. -/
def ClosesLast (event : WakeUp) (wired : Wired) : Prop :=
  match event with
  | .swarm (.connectionClosed peerId connectionId) =>
      ∀ other, (peerId, other) ∈ wired.connections → other = connectionId
  | .swarm _ | .tun _ | .heartbeat => True

/-- A connection is established only when the policy admits its peer: the peer counts already, or
the relay listens and is below the limit. -/
def AdmitsAll (event : WakeUp) (wired : Wired) : Prop :=
  match event with
  | .swarm (.connectionEstablished peerId _) => wired.node.core.TakesPeer peerId
  | .swarm _ | .tun _ | .heartbeat => True

/-! ## Peers that are known -/

/-- A set of peers after an event that is taken at its word. -/
def knownAfter (event : WakeUp) (known : Finset PeerId) : Finset PeerId :=
  match event with
  | .swarm (.connectionEstablished peerId _) => insert peerId known
  | .swarm (.connectionClosed peerId _) => known.erase peerId
  | .swarm _ | .tun _ | .heartbeat => known

/-- As long as only last connections are closed, the peers that are known are the connected ones. -/
theorem mem_knownAfter_iff {known : Finset PeerId} {event : WakeUp} (node : Node)
    (hknown : ∀ peer, peer ∈ known ↔ IsConnected wired peer) (hlast : ClosesLast event wired)
    (peer : PeerId) :
    peer ∈ knownAfter event known ↔ IsConnected (wired.after event node) peer := by
  cases event with
  | tun | heartbeat => exact hknown peer
  | swarm event =>
      cases event with
      | connectionEstablished peerId connectionId =>
          simp only [knownAfter, IsConnected, after, Finset.mem_insert, Prod.mk.injEq, hknown peer]
          constructor
          · rintro (rfl | ⟨other, hopen⟩)
            · exact ⟨connectionId, .inl ⟨rfl, rfl⟩⟩
            · exact ⟨other, .inr hopen⟩
          · rintro ⟨other, ⟨rfl, -⟩ | hopen⟩
            · exact .inl rfl
            · exact .inr ⟨other, hopen⟩
      | connectionClosed peerId connectionId =>
          simp only [knownAfter, IsConnected, after, Finset.mem_erase, ne_eq, Prod.mk.injEq,
            hknown peer]
          constructor
          · rintro ⟨hother, connection, hopen⟩
            exact ⟨connection, fun hclosed => hother hclosed.1, hopen⟩
          · rintro ⟨connection, hleft, hopen⟩
            refine ⟨?_, connection, hopen⟩
            rintro rfl
            exact hleft ⟨rfl, hlast connection hopen⟩
      | newListenAddr | identifyReceived | ping | request | response | outgoingConnectionError
      | incomingConnectionError | other => exact hknown peer

theorem after_node (event : WakeUp) (node : Node) : (wired.after event node).node = node := by
  unfold after
  split <;> rfl

theorem activePeers_after {inputs : Inputs} {event : WakeUp} {node final : Node}
    (hhandles : Handles ext setup inputs event node final) :
    final.state.activePeers = knownAfter event node.state.activePeers := by
  cases event with
  | tun | heartbeat =>
      rw [handle_state hhandles]
      rfl
  | swarm event =>
      cases event with
      | other =>
          obtain rfl : final = node := hhandles
          rfl
      | ping peer result =>
          rw [handle_state hhandles]
          cases result <;> rfl
      | newListenAddr | connectionEstablished | connectionClosed | identifyReceived | request
      | response | outgoingConnectionError | incomingConnectionError =>
          rw [handle_state hhandles]
          rfl

theorem core_peers_after {inputs : Inputs} {event : WakeUp} {node : Node}
    (hhandles : Handles ext setup inputs event wired.node node) (hadmits : AdmitsAll event wired) :
    node.core.peers = knownAfter event wired.node.core.peers := by
  cases event with
  | tun | heartbeat => exact (handle_policy hhandles).peers
  | swarm event =>
      cases event with
      | other =>
          obtain rfl : node = wired.node := hhandles
          rfl
      | connectionEstablished peerId connectionId =>
          refine (handle_policy hhandles).peers.trans ?_
          exact (RelayCore.noted_peers _ _).trans (if_pos hadmits)
      | newListenAddr | connectionClosed | identifyReceived | ping | request
      | response | outgoingConnectionError | incomingConnectionError =>
          exact (handle_policy hhandles).peers

/-- In a run that closes only last connections, the active peers are the connected ones; if the
policy admitted every peer as well, so are the peers it counts. -/
theorem peers_iff_connected :
    (∀ wired, (run ext setup ClosesLast).Reachable wired →
      ∀ peer, peer ∈ wired.node.state.activePeers ↔ IsConnected wired peer) ∧
    (∀ wired, (run ext setup fun event wired =>
        ClosesLast event wired ∧ AdmitsAll event wired).Reachable wired →
      ∀ peer, peer ∈ wired.node.core.peers ↔ IsConnected wired peer) := by
  constructor
  · intro wired hreach
    refine hreach.invariant (fun wired => ∀ peer, peer ∈ wired.node.state.activePeers ↔
      IsConnected wired peer) ?_ ?_
    · rintro wired ⟨hstarted, hnone, -⟩ peer
      simp [hstarted.state, RelayState.new, IsConnected, hnone]
    · rintro wired _ _ hknown ⟨inputs, event, node, _, hlast, hhandles, rfl⟩ peer
      rw [after_node, activePeers_after hhandles]
      exact mem_knownAfter_iff node hknown hlast peer
  · intro wired hreach
    refine hreach.invariant (fun wired => ∀ peer, peer ∈ wired.node.core.peers ↔
      IsConnected wired peer) ?_ ?_
    · rintro wired ⟨hstarted, hnone, -⟩ peer
      simp [hstarted.core, RelayCore.new, IsConnected, hnone]
    · rintro wired _ _ hknown ⟨inputs, event, node, _, ⟨hlast, hadmits⟩, hhandles, rfl⟩ peer
      rw [after_node, core_peers_after hhandles hadmits]
      exact mem_knownAfter_iff node hknown hlast peer

/-! ## Runs over the reference instance -/

open ReferenceRelay

section Reference

variable {role : RelayRole} {limits : RelayResourceLimits}

variable (role limits allowed) in
/-- The relay listens, and nobody is connected. -/
theorem ready_wired (hallowed : allowed (.swarm (.newListenAddr ""))
      ⟨started role limits, ∅, ∅⟩) :
    (run reference (ReferenceRelay.setup role limits) allowed).Reachable
      ⟨ready role limits, ∅, ∅⟩ := by
  have hstart : (run reference (ReferenceRelay.setup role limits) allowed).Reachable
      ⟨started role limits, ∅, ∅⟩ := .of_init ⟨isStarted role limits, rfl, rfl⟩
  exact hstart.tail ⟨inputs 0, .swarm (.newListenAddr ""),
    ready role limits, trivial, hallowed, rfl,
    rfl⟩

/-- A connection is established while no handshake is pending. -/
theorem establish (peer : PeerId) {connectionId : ConnectionId}
    (hreach : (run reference (ReferenceRelay.setup role limits) allowed).Reachable wired)
    (hpending : wired.node.pendingRelayHandshakes = ∅)
    (hnew : connectionId ∉ wired.established)
    (hallowed : allowed (.swarm (.connectionEstablished peer connectionId)) wired) : ∃ node,
    (run reference (ReferenceRelay.setup role limits) allowed).Reachable
      ⟨node, insert (peer, connectionId) wired.connections,
        insert connectionId wired.established⟩ ∧ node.pendingRelayHandshakes = ∅ := by
  have hnobody : waitingFor (inputs 0) peer wired.node = none := by simp [waitingFor, hpending]
  obtain ⟨state, hmet⟩ := handle_met reference (ReferenceRelay.setup role limits) hnobody
  exact ⟨_, hreach.tail ⟨inputs 0, .swarm (.connectionEstablished peer connectionId), _, hnew,
    hallowed, hmet, rfl⟩, hpending⟩

end Reference

theorem peers_iff_connected_one : ∃ wired : Wired,
    (run reference (ReferenceRelay.setup .both (bounds 4 4 4)) fun event wired =>
      ClosesLast event wired ∧ AdmitsAll event wired).Reachable wired ∧
      IsConnected wired ⟨[1]⟩ ∧ ⟨[1]⟩ ∈ wired.node.core.peers := by
  have hready := ready_wired (fun event wired => ClosesLast event wired ∧ AdmitsAll event wired)
    .both (bounds 4 4 4) ⟨trivial, trivial⟩
  obtain ⟨node, hreach, -⟩ := establish ⟨[1]⟩ hready rfl (Finset.notMem_empty 0)
    ⟨trivial, .inr ⟨.inl rfl, by decide⟩⟩
  have hconnected : IsConnected ⟨node, insert (⟨[1]⟩, 0) ∅, insert 0 ∅⟩ ⟨[1]⟩ :=
    ⟨0, Finset.mem_insert_self _ _⟩
  exact ⟨_, hreach, hconnected, (peers_iff_connected.2 _ hreach _).mpr hconnected⟩

/-- A peer with two connections closes one of them. -/
theorem connected_forgotten : ∃ wired : Wired,
    (run reference (ReferenceRelay.setup .both (bounds 4 4 4)) fun _ _ => True).Reachable wired ∧
      IsConnected wired ⟨[1]⟩ ∧ ⟨[1]⟩ ∉ wired.node.state.activePeers ∧
      ⟨[1]⟩ ∉ wired.node.core.peers := by
  have hready := ready_wired (fun _ _ => True) .both (bounds 4 4 4) trivial
  obtain ⟨first, hfirst, hpending⟩ := establish ⟨[1]⟩ hready rfl (Finset.notMem_empty 0) trivial
  have hunused : 1 ∉ (insert 0 ∅ : Finset ConnectionId) := by decide
  obtain ⟨second, hsecond, -⟩ := establish ⟨[1]⟩ hfirst hpending hunused trivial
  have hcloses : Handles reference (ReferenceRelay.setup .both (bounds 4 4 4)) (inputs 0)
      (.swarm (.connectionClosed ⟨[1]⟩ 0)) second _ := rfl
  refine ⟨_, hsecond.tail ⟨inputs 0, .swarm (.connectionClosed ⟨[1]⟩ 0), _,
    ?_, trivial, hcloses, rfl⟩,
    ⟨1, ?_⟩, ?_, ?_⟩
  · show (_, _) ∈ insert _ (insert _ ∅)
    simp
  · show (_, _) ∈ (insert _ (insert _ ∅) : Finset _).erase _
    simp
  · rw [after_node, activePeers_after hcloses]
    exact Finset.notMem_erase _ _
  · rw [after_node, (handle_policy hcloses).peers]
    exact Finset.notMem_erase _ _

end Wired

end Relay
