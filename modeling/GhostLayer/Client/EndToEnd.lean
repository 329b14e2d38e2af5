import GhostLayer.Client.Sessions
import GhostLayer.Relay.Deliveries

/-! # What two relays carry for a client

Whatever the other peers send, the exit hands on what a client sent, and the
entry returns what the exit answered to the same client. A run in which a packet
goes through and its answer comes back shows that both happen.
-/

namespace Relay.Circuit

open Foundation Network Client ReferenceRelay

variable {ext : Externals} {parties : Parties ext} {circuit : Circuit}

/-! ## A run that carries a packet -/

/-- A client has sent its packet over the reference relays, and the answer to it is back. -/
theorem carried_reference : ∃ (sent answered : Circuit) (client : EncryptedChannel),
    (system (referenceParties fun _ => True)).Reachable answered ∧
      Client.Carried (referenceParties fun _ => True) referenceFlow ⟨⟨[1]⟩, 1⟩ referencePacket
        testPayload client sent answered := by
  obtain ⟨circuit, hreach, hrunning, hunused, ⟨state, hentry⟩, state', hexit⟩ :=
    listening_reachable (referenceCircuit_opened fun _ => True) ⟨rfl, rfl⟩
  obtain ⟨frame, client, hsend⟩ := referenceEnds_sends
  have hpeer (number : Nat) :
      (⟨⟨[1]⟩, number⟩ : ResponseChannel).peer = reference.peerOf ⟨[1]⟩ := rfl
  obtain ⟨opened, answered, hsteps, -, hcarried⟩ :=
    (canOpen_reference hunused hentry hexit).carried reference.parsesJson reference.readsIdentities
      reference.readsSockets reference.signaturesVerify reference.diffieHellmanCommutes
      reference.cipherOpens hreach hrunning (hpeer 0) hsend
      (.bare (reference.socketText destination) destination rfl (reference.readsSockets _))
      (canCarry_reference hunused hexit) (hpeer 1)
  exact ⟨_, answered, client, hreach.steps hsteps, hcarried⟩

/-! ## What the exit hands on -/

/-- In every run, what the exit hands on for the session of an honest client is among what the
client sent on that session, in the same order and each payload as often at most. -/
theorem dispatched_sublist (hparse : ext.ParsesJson) (hreads : ext.ReadsIdentities)
    (hsockets : ext.ReadsSockets) (hideal : circuit.IdealCipher parties)
    (hreach : (system parties).Reachable circuit) {client : PeerId}
    (hhonest : parties.honest client) (sessionId : SessionId) :
    (circuit.dispatched parties client sessionId).Sublist (circuit.sentOn client sessionId) := by
  have htraced := traced_of_reachable hreach
  have hone := htraced.dispatched_length hparse hreads hsockets hideal client sessionId
  -- A session gets one payload through.
  cases hlist : circuit.dispatched parties client sessionId with
  | nil => exact List.nil_sublist _
  | cons bytes rest =>
      rw [hlist, List.length_cons] at hone
      obtain rfl : rest = [] := List.eq_nil_of_length_eq_zero (by omega)
      apply List.singleton_sublist.mpr
      apply htraced.sent_of_dispatched hparse hreads hsockets hideal hhonest
      rw [hlist]
      exact List.mem_singleton_self bytes

theorem dispatched_sublist_reference : ∃ circuit : Circuit,
    (system (referenceParties fun _ => True)).Reachable circuit ∧
      testPayload ∈ circuit.dispatched (referenceParties fun _ => True) referenceFlow.clientPeer
        referenceFlow.clientSessionId ∧
      (circuit.dispatched (referenceParties fun _ => True) referenceFlow.clientPeer
        referenceFlow.clientSessionId).Sublist
          (circuit.sentOn referenceFlow.clientPeer referenceFlow.clientSessionId) := by
  obtain ⟨sent, answered, client, hreach, hcarried⟩ := carried_reference
  obtain ⟨handled, hhandled, sealed, channel, hevent, hdispatch⟩ := hcarried.dispatches
  have hread := Node.readRequest_forwarding reference.parsesJson reference.readsIdentities
    reference.readsSockets (passedOn (referenceParties fun _ => True).exit referenceFlow sealed
      referencePacket)
  refine ⟨answered, hreach, mem_dispatched hhandled hevent hread
    ⟨reference.readsIdentities.peer _, rfl, rfl⟩ hdispatch, ?_⟩
  exact dispatched_sublist reference.parsesJson reference.readsIdentities reference.readsSockets
    (idealCipher_reference _ _) hreach True.intro _

/-! ## What the entry returns -/

/-- In every run, whatever comes back from the exit reaches the client that asked for it, and nobody
else. -/
theorem responses_isolated (hparse : ext.ParsesJson) (hreads : ext.ReadsIdentities)
    (hsockets : ext.ReadsSockets) (hideal : circuit.IdealCipher parties)
    (hreach : (system parties).Reachable circuit) : Isolated parties circuit :=
  (traced_of_reachable hreach).isolated hparse hreads hsockets hideal

theorem responses_isolated_reference : ∃ (circuit : Circuit) (handled : Handled)
    (answer : ForwardingMessage),
    (system (referenceParties fun _ => True)).Reachable circuit ∧
      handled ∈ circuit.entry.history ∧
      .respond ⟨⟨[1]⟩, 1⟩ (answer.toJson reference).render ∈
        handled.emitted (referenceParties fun _ => True).entry ∧
      Returns (referenceParties fun _ => True) circuit handled ⟨⟨[1]⟩, 1⟩ answer := by
  obtain ⟨sent, answered, client, hreach, hcarried⟩ := carried_reference
  obtain ⟨handled, hhandled, frame, hresponds⟩ := hcarried.responds
  exact ⟨answered, handled, _, hreach, hhandled, hresponds,
    responses_isolated reference.parsesJson reference.readsIdentities reference.readsSockets
      (idealCipher_reference _ _) hreach handled hhandled _ _ ReferenceClient.address hresponds rfl⟩

end Relay.Circuit
