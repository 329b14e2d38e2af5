import GhostLayer.Relay.Emissions
import GhostLayer.Relay.Queues

/-! # What a relay has done

A relay together with the events it was given so far. An event that fails ends
the relay, with whatever it had done to the outside until then. What the tables
of a relay hold goes back to events of its history.
-/

namespace Relay

open Foundation Network

variable {ext : Externals} {setup : Setup ext} {inputs : Inputs} {event : Node.LoopEvent}

/-! ## Tables and steps -/

namespace Node

variable {node final : Node} {sessionId forwardingId : SessionId} {requestId : RequestId}
  {forwarding : ClientForwarding} {pending : PendingClientForward}

/-- The same client under the same ids. -/
structure SameClient (first second : ClientForwarding) : Prop where
  clientPeer : second.clientPeer = first.clientPeer
  relaySessionId : second.relaySessionId = first.relaySessionId
  forwardingId : second.context.forwardingId = first.context.forwardingId

theorem SameClient.trans {first second third : ClientForwarding} (hfirst : SameClient first second)
    (hsecond : SameClient second third) : SameClient first third where
  clientPeer := hsecond.clientPeer.trans hfirst.clientPeer
  relaySessionId := hsecond.relaySessionId.trans hfirst.relaySessionId
  forwardingId := hsecond.forwardingId.trans hfirst.forwardingId

/-- A client that is forwarded stays under its ids. -/
theorem Step.keepsForwarding (hsound : Sound setup node)
    (hstep : Step ext setup inputs node event final)
    (hfound : node.clientForwarding.lookup sessionId = some forwarding) :
    ∃ kept, final.clientForwarding.lookup sessionId = some kept ∧ SameClient forwarding kept := by
  have hbegun : ∀ {other : SessionId} {old changed : ClientForwarding},
      node.clientForwarding.lookup other = some old →
      SameClient old changed →
      ∃ kept, (node.clientForwarding.insert other changed).lookup sessionId = some kept ∧
        SameClient forwarding kept := by
    intro other old changed hold hsame
    by_cases hkey : sessionId = other
    · subst hkey
      obtain rfl := Option.some.inj (hold.symm.trans hfound)
      exact ⟨changed, AList.lookup_insert _, hsame⟩
    · exact ⟨forwarding, (AList.lookup_insert_ne hkey).trans hfound, ⟨rfl, rfl, rfl⟩⟩
  cases hstep with
  | idle | listened | met | left | beat | greeted | unsent | injected =>
      exact ⟨forwarding, hfound, ⟨rfl, rfl, rfl⟩⟩
  | requested payload peerId channel state _ hrequest =>
      cases hrequest with
      | ignored | rejected | refused | accepted | started | metadata | received | acknowledged =>
          exact ⟨forwarding, hfound, ⟨rfl, rfl, rfl⟩⟩
      | forwarded _ _ _ _ _ _ _ _ found => exact hbegun found ⟨rfl, rfl, rfl⟩
      | forwardedBare _ _ _ _ _ _ _ _ found => exact hbegun found ⟨rfl, rfl, rfl⟩
      | exited _ _ _ _ _ _ answer _ _ _ _ exchanges answers =>
          obtain ⟨_, _, _, _, rfl, _⟩ := exchange_ok exchanges
          cases answer with
          | none =>
              obtain rfl := answers
              exact ⟨forwarding, hfound, ⟨rfl, rfl, rfl⟩⟩
          | some response =>
              obtain ⟨_, _, _, _, rfl⟩ := answers
              exact ⟨forwarding, hfound, ⟨rfl, rfl, rfl⟩⟩
  | responded payload peerId requestId state _ hresponse =>
      cases hresponse with
      | ignored | dropped => exact ⟨forwarding, hfound, ⟨rfl, rfl, rfl⟩⟩
      | established _ waiting _ _ _ _ _ found =>
          -- Whoever waits for an exit is not forwarded yet.
          have hother : sessionId ≠ waiting.clientSessionId := by
            rintro rfl
            cases (hsound.pending _ _ found).fresh.symm.trans hfound
          exact ⟨forwarding, (AList.lookup_insert_ne hother).trans hfound, ⟨rfl, rfl, rfl⟩⟩
      | returned _ _ _ _ _ _ _ _ _ _ _ client => exact hbegun client ⟨rfl, rfl, rfl⟩

/-- What is kept for a response goes back to a request of a client. -/
theorem Step.pendingFrom (hsound : Sound setup node)
    (hstep : Step ext setup inputs node event final)
    (hfound : final.pendingClientForwards.lookup requestId = some pending) :
    node.pendingClientForwards.lookup requestId = some pending ∨
      inputs.requestId = requestId ∧ ∃ payload peerId forwarding frame packet,
        event = .network (.discoveryRequest peerId payload pending.responseChannel) ∧
        Relays ext node payload peerId pending.clientSessionId forwarding frame packet ∧
        final.effects = node.effects ++ [.request inputs.requestId forwarding.context.exitPeer
          ((outboundMessage ext forwarding frame packet).toJson ext).render] := by
  cases hstep with
  | idle | listened | met | left | beat | greeted | unsent | injected => exact .inl hfound
  | requested payload peerId channel state _ hrequest =>
      cases hrequest with
      | ignored | rejected | refused | accepted | started | metadata | received | acknowledged =>
          exact .inl hfound
      -- An entry is pending under the new id, or it was pending before.
      | forwarded forwarded forwarding packet message opened frame sealed decoded found entry bound
          opens shown seals kind =>
          rcases lookup_insert_eq_some.mp hfound with ⟨rfl, rfl⟩ | ⟨_, hold⟩
          · exact .inr ⟨rfl, payload, peerId, forwarding, frame, _, rfl,
              .of_packet hsound decoded found bound opens shown seals, rfl⟩
          · exact .inl hold
      | forwardedBare envelope forwarding message opened frame sealed
          destination decoded found client
          opens seals kind =>
          rcases lookup_insert_eq_some.mp hfound with ⟨rfl, rfl⟩ | ⟨_, hold⟩
          · exact .inr ⟨rfl, payload, peerId, forwarding, frame, _, rfl,
              .of_envelope decoded found client opens seals, rfl⟩
          · exact .inl hold
      | exited _ _ _ _ _ _ answer _ _ _ _ exchanges answers =>
          obtain ⟨_, _, _, _, rfl, _⟩ := exchange_ok exchanges
          cases answer with
          | none =>
              obtain rfl := answers
              exact .inl hfound
          | some response =>
              obtain ⟨_, _, _, _, rfl⟩ := answers
              exact .inl hfound
  | responded payload peerId requestId state _ hresponse =>
      cases hresponse with
      | ignored | dropped | established => exact .inl hfound
      | returned => exact .inl (lookup_erase_eq_some.mp hfound).2

/-- A message that reached its exchange is counted when it is done. -/
theorem exitForwarding_of_answers {channel : ResponseChannel} {forwarded : ForwardingMessage}
    {peerId : PeerId} {context : ForwardingContext} {packet : ForwardedPacket}
    {opened : EncryptedChannel} {answer : Option Bytes} {next : Node}
    (hexchanges : exchange ext setup inputs forwarded peerId packet packet.payload
      (node.reached forwarded context packet opened) = (.ok answer, next))
    (hanswers : Answers ext inputs next forwarded channel answer final) :
    final.exitForwarding = node.exitForwarding.insert forwarded.forwardingId
      (counted context forwarded packet) := by
  obtain ⟨_, _, _, _, rfl, _⟩ := exchange_ok hexchanges
  cases answer with
  | none =>
      obtain rfl := hanswers
      rfl
  | some response =>
      obtain ⟨_, _, _, _, rfl⟩ := hanswers
      rfl

/-- A step counts one message or none. -/
theorem Step.exitForwarding (hsound : Sound setup node)
    (hstep : Step ext setup inputs node event final) :
    final.exitForwarding = node.exitForwarding ∨ ∃ forwarded clientPeer packet,
      final.exitForwarding = node.exitForwarding.insert forwarded.forwardingId
        (counted (exitContext forwarded clientPeer) forwarded packet) := by
  cases hstep with
  | idle | listened | met | left | beat | greeted | unsent | injected => exact .inl rfl
  | requested payload peerId channel state _ hrequest =>
      cases hrequest with
      | ignored | rejected | refused | accepted | started | metadata | forwarded | forwardedBare
      | received | acknowledged => exact .inl rfl
      | exited forwarded clientPeer context packet _ _ _ _ _ _ reaches exchanges answers =>
          obtain ⟨_, rfl⟩ := hsound.unused reaches.of_state.held reaches.admits
          have hinsert := exitForwarding_of_answers exchanges answers
          exact .inr ⟨forwarded, clientPeer, packet, hinsert⟩
  | responded payload peerId requestId state _ hresponse =>
      cases hresponse with
      | ignored | dropped | established | returned => exact .inl rfl

/-- A forwarding id that was counted stays so. -/
theorem Step.keepsCounted (hsound : Sound setup node)
    (hstep : Step ext setup inputs node event final)
    (hcounted : (node.exitForwarding.lookup forwardingId).isSome) :
    (final.exitForwarding.lookup forwardingId).isSome := by
  rcases hstep.exitForwarding hsound with hsame | ⟨_, _, _, hinsert⟩
  · rwa [hsame]
  · rw [hinsert]
    exact isSome_lookup_insert (.inr hcounted)

/-- The entries of the contexts of the exit are those that their routes name. -/
def EntersByRoute (node : Node) : Prop :=
  EveryEntry (fun _ context => context.entryPeer =
    (routeEnds context.clientPeer context.route).1) node.exitForwarding

theorem entersByRoute_of_reachable (hreach : (loop ext setup).Reachable node) :
    EntersByRoute node := by
  refine hreach.invariant EntersByRoute ?_ ?_
  · intro node hstarted
    rw [EntersByRoute, hstarted.exitForwarding]
    exact .empty
  · rintro node final hreach hentries ⟨inputs, event, hrun⟩
    rw [EntersByRoute]
    rcases (handle_step hrun).exitForwarding (sound_of_reachable hreach) with
      hsame | ⟨_, _, _, hinsert⟩
    · rwa [hsame]
    · rw [hinsert]
      exact hentries.insert rfl

/-- What a relay handed on in an event that it survived is counted. -/
theorem counted_of_dispatch {dispatch : Dispatch}
    (hrun : handle ext setup inputs event node = (.ok (), final)) (hsound : Sound setup node)
    (hdispatch : .dispatch dispatch ∈ emitted setup inputs event node) :
    (final.exitForwarding.lookup dispatch.forwardingId).isSome := by
  have heffects := emitted_of_ok hrun hsound
  cases (handle_emitted hsound).2.each _ hdispatch with
  | dispatched payload peerId channel forwarded clientPeer context packet message opened decoded
      reaches =>
      cases handle_step hrun with
      | idle _ _ quiet => cases quiet
      | requested _ _ _ state _ hrequest =>
          cases hrequest with
          | ignored =>
              rw [List.self_eq_append_right.mp heffects] at hdispatch
              cases hdispatch
          | rejected _ _ _ decoded' | refused _ _ _ _ decoded' | accepted _ _ _ _ decoded'
          | started _ _ _ _ _ _ decoded' | metadata _ _ decoded' | received _ _ decoded'
          | acknowledged _ _ _ _ _ _ decoded' | forwardedBare _ _ _ _ _ _ _ decoded' =>
              cases decoded.symm.trans decoded'
          | forwarded =>
              rw [← List.append_cancel_left heffects, List.mem_singleton] at hdispatch
              cases hdispatch
          | exited other _ _ _ _ _ _ _ _ decoded' _ exchanges answers =>
              obtain rfl := Request.forwarding.inj (decoded.symm.trans decoded')
              rw [exitForwarding_of_answers exchanges answers]
              exact isSome_lookup_insert (.inl rfl)

end Node

/-! ## A relay and its events -/

/-- An event with the relay it came to and what the platform returned meanwhile. -/
structure Handled where
  node : Node
  inputs : Inputs
  event : Node.LoopEvent

/-- What an event made the relay do to the outside. -/
def Handled.emitted (setup : Setup ext) (handled : Handled) : List Effect :=
  Node.emitted setup handled.inputs handled.event handled.node

/-- A relay with the events it has handled. An event that fails ends it. -/
structure Process where
  node : Node
  ended : Bool
  history : List Handled

namespace Process

/-- The relay is given an event. -/
def handle (setup : Setup ext) (inputs : Inputs) (event : Node.LoopEvent) (process : Process) :
    Process :=
  let history := process.history ++ [⟨process.node, inputs, event⟩]
  match Node.handle ext setup inputs event process.node with
  | (.ok (), next) => ⟨next, false, history⟩
  | (.error _, _) | (.panic, _) => ⟨process.node, true, history⟩

theorem handle_history (setup : Setup ext) (inputs : Inputs) (event : Node.LoopEvent)
    (process : Process) :
    (process.handle setup inputs event).history =
      process.history ++ [⟨process.node, inputs, event⟩] := by
  rw [handle]
  split <;> rfl

/-- What is kept for a response, with the request of the client that it goes back to. -/
structure Forwarded (setup : Setup ext) (history : List Handled) (node : Node)
    (requestId : RequestId) (pending : PendingClientForward) : Prop where
  request : ∃ handled ∈ history, ∃ payload peerId forwarding frame packet kept,
    handled.event = .network (.discoveryRequest peerId payload pending.responseChannel) ∧
    Node.Relays ext handled.node payload peerId pending.clientSessionId forwarding frame packet ∧
    .request requestId forwarding.context.exitPeer
      ((Node.outboundMessage ext forwarding frame packet).toJson ext).render ∈
        handled.emitted setup ∧
    node.clientForwarding.lookup pending.clientSessionId = some kept ∧
    Node.SameClient forwarding kept

variable {history history' : List Handled} {node next : Node} {process : Process}

theorem Forwarded.mono {requestId : RequestId} {pending : PendingClientForward}
    (hforwarded : Forwarded setup history node requestId pending) (hsub : history ⊆ history') :
    Forwarded setup history' node requestId pending := by
  obtain ⟨handled, hhandled, hrest⟩ := hforwarded.request
  exact ⟨handled, hsub hhandled, hrest⟩

/-- A relay whose tables go back to a history. -/
structure Backed (setup : Setup ext) (history : List Handled) (node : Node) : Prop where
  reachable : (Node.loop ext setup).Reachable node
  forwarded : ∀ requestId pending, node.pendingClientForwards.lookup requestId = some pending →
    Forwarded setup history node requestId pending

theorem Backed.sound (hbacked : Backed setup history node) : Node.Sound setup node :=
  Node.sound_of_reachable hbacked.reachable

/-- The channels of a relay have the limit they were opened with. -/
theorem Backed.limit (hbacked : Backed setup history node) {sessionId : SessionId}
    {channel : EncryptedChannel} (hfound : node.channels.lookup sessionId = some channel) :
    channel.maximumFrameSize < 2 ^ 32 := by
  obtain ⟨frames, hhanded⟩ := Node.sendsAll_of_reachable hbacked.reachable _ _ hfound
  rw [hhanded.used.limit]
  decide

theorem Backed.mono (hbacked : Backed setup history node) (hsub : history ⊆ history') :
    Backed setup history' node where
  reachable := hbacked.reachable
  forwarded requestId pending hfound := (hbacked.forwarded requestId pending hfound).mono hsub

theorem Backed.started (hstarted : Node.Started ext setup node) : Backed setup [] node where
  reachable := .of_init hstarted
  forwarded requestId pending hfound := by
    rw [hstarted.pendingClientForwards] at hfound
    cases hfound

/-- An event that a relay survives is added to the history. -/
theorem Backed.step (hbacked : Backed setup history node)
    (hrun : Node.handle ext setup inputs event node = (.ok (), next)) :
    Backed setup (history ++ [⟨node, inputs, event⟩]) next := by
  have hstep := Node.handle_step hrun
  refine ⟨hbacked.reachable.tail ⟨inputs, event, hrun⟩, fun requestId pending hfound => ?_⟩
  rcases hstep.pendingFrom hbacked.sound hfound with hold | ⟨rfl, payload, peerId, forwarding,
    frame, packet, hevent, hrelays, heffects⟩
  · -- The request was made before, and its client is still the same.
    obtain ⟨handled, hhandled, payload, peerId, forwarding, frame, packet, kept, hevent, hrelays,
      hrequest, hkept, hsame⟩ := (hbacked.forwarded requestId pending hold).request
    obtain ⟨kept', hkept', hsame'⟩ := hstep.keepsForwarding hbacked.sound hkept
    exact ⟨handled, List.mem_append_left _ hhandled, payload, peerId, forwarding, frame, packet,
      kept', hevent, hrelays, hrequest, hkept', hsame.trans hsame'⟩
  · obtain ⟨kept, hkept, hsame⟩ := hstep.keepsForwarding hbacked.sound hrelays.found
    have hemitted : Node.emitted setup inputs event node = [.request inputs.requestId
        forwarding.context.exitPeer
        ((Node.outboundMessage ext forwarding frame packet).toJson ext).render] :=
      List.append_cancel_left ((Node.emitted_of_ok hrun hbacked.sound).symm.trans heffects)
    refine ⟨⟨node, inputs, event⟩, by simp, payload, peerId, forwarding, frame, packet, kept,
      hevent, hrelays, ?_, hkept, hsame⟩
    rw [Handled.emitted, hemitted]
    exact List.mem_cons_self

/-- What two events have handed on was under different forwarding ids. -/
def Apart (setup : Setup ext) (first second : Handled) : Prop :=
  ∀ dispatch dispatch', .dispatch dispatch ∈ first.emitted setup →
    .dispatch dispatch' ∈ second.emitted setup → dispatch.forwardingId ≠ dispatch'.forwardingId

/-- What holds of a relay and of all that it has done. -/
structure Kept (setup : Setup ext) (process : Process) : Prop where
  now : Backed setup process.history process.node
  before : ∀ handled ∈ process.history, Backed setup process.history handled.node
  clients : ∀ handled ∈ process.history, ∀ sessionId forwarding,
    handled.node.clientForwarding.lookup sessionId = some forwarding →
    ∃ kept, process.node.clientForwarding.lookup sessionId = some kept ∧
      Node.SameClient forwarding kept
  counted : process.ended = false → ∀ handled ∈ process.history, ∀ dispatch,
    .dispatch dispatch ∈ handled.emitted setup →
    (process.node.exitForwarding.lookup dispatch.forwardingId).isSome
  apart : process.history.Pairwise (Apart setup)

theorem Kept.started (hstarted : Node.Started ext setup process.node)
    (hhistory : process.history = []) : Kept setup process := by
  refine ⟨?_, ?_, ?_, ?_, ?_⟩ <;> rw [hhistory]
  · exact .started hstarted
  · simp
  · simp
  · simp
  · exact .nil

/-- What is handed on was not counted before. -/
theorem Kept.uncounted (hkept : Kept setup process) {dispatch : Dispatch}
    (hdispatch : .dispatch dispatch ∈ Node.emitted setup inputs event process.node) :
    process.node.exitForwarding.lookup dispatch.forwardingId = none := by
  cases (Node.handle_emitted hkept.now.sound).2.each _ hdispatch with
  | dispatched payload peerId channel forwarded clientPeer context packet message opened decoded
      reaches => exact (hkept.now.sound.unused reaches.held reaches.admits).1

/-- A relay that runs is given an event. -/
theorem Kept.handle (hkept : Kept setup process) (hrunning : process.ended = false) :
    Kept setup (process.handle setup inputs event) := by
  have hsub : process.history ⊆ process.history ++ [⟨process.node, inputs, event⟩] :=
    List.subset_append_left _ _
  have hbefore : ∀ handled ∈ process.history ++ [⟨process.node, inputs, event⟩],
      Backed setup (process.history ++ [⟨process.node, inputs, event⟩]) handled.node := by
    intro handled hhandled
    rcases List.mem_append.mp hhandled with hold | hnew
    · exact (hkept.before handled hold).mono hsub
    · obtain rfl := List.mem_singleton.mp hnew
      exact hkept.now.mono hsub
  have hapart : (process.history ++ [(⟨process.node, inputs, event⟩ : Handled)]).Pairwise
      (Apart setup) := by
    refine List.pairwise_append.mpr ⟨hkept.apart, List.pairwise_singleton _ _, ?_⟩
    intro handled hhandled other hother dispatch dispatch' hfirst hsecond hids
    obtain rfl := List.mem_singleton.mp hother
    -- A dispatch needs an uncounted flow, and every earlier dispatch left its flow counted.
    have hcounted := hkept.counted hrunning handled hhandled dispatch hfirst
    rw [hids, hkept.uncounted hsecond] at hcounted
    cases hcounted
  have hended : ∀ outcome : Process, outcome = ⟨process.node, true,
      process.history ++ [⟨process.node, inputs, event⟩]⟩ → Kept setup outcome := by
    rintro _ rfl
    refine ⟨hkept.now.mono hsub, hbefore, ?_, nofun, hapart⟩
    intro handled hhandled sessionId forwarding hfound
    rcases List.mem_append.mp hhandled with hold | hnew
    · exact hkept.clients handled hold sessionId forwarding hfound
    · obtain rfl := List.mem_singleton.mp hnew
      exact ⟨forwarding, hfound, ⟨rfl, rfl, rfl⟩⟩
  rcases hrun : Node.handle ext setup inputs event process.node with ⟨⟨⟩ | reason | _, next⟩
  · have hstep := Node.handle_step hrun
    rw [Process.handle, hrun]
    refine ⟨hkept.now.step hrun, hbefore, ?_, ?_, hapart⟩
    · intro handled hhandled sessionId forwarding hfound
      rcases List.mem_append.mp hhandled with hold | hnew
      · obtain ⟨kept, hkept', hsame⟩ := hkept.clients handled hold sessionId forwarding hfound
        obtain ⟨kept', hfound', hsame'⟩ := hstep.keepsForwarding hkept.now.sound hkept'
        exact ⟨kept', hfound', hsame.trans hsame'⟩
      · obtain rfl := List.mem_singleton.mp hnew
        exact hstep.keepsForwarding hkept.now.sound hfound
    · intro _ handled hhandled dispatch hdispatch
      rcases List.mem_append.mp hhandled with hold | hnew
      · exact hstep.keepsCounted hkept.now.sound
          (hkept.counted hrunning handled hold dispatch hdispatch)
      · obtain rfl := List.mem_singleton.mp hnew
        exact Node.counted_of_dispatch hrun hkept.now.sound hdispatch
  · exact hended _ (by rw [Process.handle, hrun])
  · exact hended _ (by rw [Process.handle, hrun])

end Process

end Relay
