import GhostLayer.Relay.ExitFlow

/-! # Packets from the TUN device of an exit

A packet goes back under a context that the iteration over the table happens to
start with, sealed for the relay session that was used last. The two belong
together for every packet exactly when no context is bound to another session.
-/

namespace Relay

open Foundation Network

variable {ext : Externals}

namespace Node

variable {node final : Node} {setup : Setup ext} {inputs : Inputs} {payload : Bytes}

/-- What goes out for a packet names a context with its own relay session and goes to its entry. -/
def ReturnsTo (node : Node) (peer : PeerId) (message : ForwardingMessage) : Prop :=
  ∃ context, node.exitForwarding.lookup message.forwardingId = some context ∧
    message.clientSessionId = context.clientSessionId ∧
    context.relaySessionId = some message.data.sessionId ∧ peer = context.entryPeer

/-- Whatever the iteration over the table starts with, a packet goes back where it belongs. -/
def ReturnsPacket (ext : Externals) (setup : Setup ext) (payload : Bytes) (node : Node) : Prop :=
  ∀ inputs final requestId peer message,
    handle ext setup inputs (.tun payload) node = (.ok (), final) →
    final.effects = node.effects ++ [.request requestId peer (message.toJson ext).render] →
    node.ReturnsTo peer message

variable (setup inputs) in
theorem handleTun_sends {entry : Sigma fun _ : SessionId => ForwardingContext}
    {relaySessionId : SessionId} {frame : Bytes} {sealed : EncryptedChannel}
    (hhead : (node.exitForwarding.entries.rotate inputs.iteration).head? = some entry)
    (hactive : node.activeExitRelaySession = some relaySessionId)
    (hseals : node.Seals ext relaySessionId payload frame sealed) :
    handle ext setup inputs (.tun payload) node = (.ok (),
      (node.withChannel relaySessionId sealed).withEffect (.request inputs.requestId
        entry.2.entryPeer ((tunMessage ext entry.2 relaySessionId frame payload).toJson
          ext).render)) := by
  simp only [handle, handleTun, Fallible.get_bind_run, hhead, hactive, Option.map_some]
  refine Fallible.bind_eq_ok.mpr ⟨.ok frame, node.withChannel relaySessionId sealed,
    Fallible.attempt_eq_ok.mpr (sendOn_eq_ok.mpr ⟨sealed, hseals, rfl⟩), rfl⟩

/-- Every entry of a table is where some iteration starts. -/
theorem exists_rotation {forwardingId : SessionId} {context : ForwardingContext}
    (hfound : node.exitForwarding.lookup forwardingId = some context) :
    ∃ iteration, (node.exitForwarding.entries.rotate iteration).head? =
      some ⟨forwardingId, context⟩ := by
  obtain ⟨index, hindex, hentry⟩ := List.getElem_of_mem (AList.mem_lookup_iff.mp hfound)
  exact ⟨index, by rw [List.head?_rotate hindex, List.getElem?_eq_getElem hindex, hentry]⟩

/-- What goes back names the session of its context, so all contexts have that session. -/
theorem ReturnsPacket.bound {relaySessionId forwardingId : SessionId} {frame : Bytes}
    {sealed : EncryptedChannel} {context : ForwardingContext}
    (hreturns : ReturnsPacket ext setup payload node) (hsound : Sound setup node)
    (hactive : node.activeExitRelaySession = some relaySessionId)
    (hseals : node.Seals ext relaySessionId payload frame sealed)
    (hfound : node.exitForwarding.lookup forwardingId = some context) :
    context.relaySessionId = some relaySessionId := by
  obtain ⟨iteration, hhead⟩ := exists_rotation hfound
  have hrun := handleTun_sends setup
    ({ ReferenceRelay.inputs 0 with iteration }) hhead hactive hseals
  obtain ⟨named, hnamed, _, hbound, _⟩ := hreturns _ _ _ _ _ hrun rfl
  have hown : context.forwardingId = forwardingId := (hsound.exits _ _ hfound).own
  rw [tunMessage, hown, hfound] at hnamed
  obtain rfl := Option.some.inj hnamed
  exact hbound

/-- Packets go back where they belong exactly when no context is bound to another session than the
one that was used last, or that session cannot seal the packet. -/
theorem returnsPacket_iff (hreads : ext.ReadsIdentities) (hsockets : ext.ReadsSockets)
    (hreach : (loop ext setup).Reachable node) :
    ReturnsPacket ext setup payload node ↔
      ∀ relaySessionId frame sealed forwardingId context,
        node.activeExitRelaySession = some relaySessionId →
        node.Seals ext relaySessionId payload frame sealed →
        node.exitForwarding.lookup forwardingId = some context →
        context.relaySessionId = some relaySessionId := by
  have hsound := sound_of_reachable hreach
  constructor
  · intro hreturns relaySessionId frame sealed forwardingId context hactive hseals hfound
    exact hreturns.bound hsound hactive hseals hfound
  · intro hbound inputs final requestId peer message hrun heffects
    cases handle_step hrun with
    | idle | unsent => simp [withChannel] at heffects
    | injected _ forwardingId context relaySessionId frame sealed found active seals =>
        simp only [withEffect, withChannel, List.append_cancel_left_eq, List.cons.injEq,
          and_true, Effect.request.injEq] at heffects
        obtain ⟨_, rfl, hsame⟩ := heffects
        obtain rfl := ForwardingMessage.toJson_injective hreads hsockets hsame
        have hown : context.forwardingId = forwardingId := (hsound.exits _ _ found).own
        exact ⟨context, by rw [tunMessage, hown, found], rfl,
          hbound _ _ _ _ _ active seals found, rfl⟩

/-! ## Two clients -/

section TwoClients

open ReferenceRelay Relay.Flow

/-- A client behind the entry, over one of the relay sessions. -/
def packetFlow (index : UInt8) : Flow where
  forwardingId := ⟨Vector.replicate 16 (index + 1)⟩
  clientSessionId := ⟨Vector.replicate 16 (index + 2)⟩
  clientPeer := ⟨[3]⟩
  entryPeer := ⟨[1]⟩
  exitAddress := ""
  relaySessionId := ⟨Vector.replicate 16 index⟩

/-- The smallest IPv4 packet. -/
def rawPayload : Bytes := 69 :: List.replicate 19 0

def rawPacket (index : UInt8) : ForwardedPacket where
  protocol := .ip
  source := none
  destination := destination
  flowId := (packetFlow index).forwardingId
  sessionId := (packetFlow index).clientSessionId
  routeId := (packetFlow index).forwardingId
  sequence := 1
  payload := rawPayload

noncomputable def packetDelivery (index : UInt8) (frame : Bytes) : Delivery where
  message := {
    kind := forwardingKind
    forwardingId := (packetFlow index).forwardingId
    clientSessionId := (packetFlow index).clientSessionId
    clientPeer := reference.peerText (packetFlow index).clientPeer
    route := (packetFlow index).route exitRelay
    data := ⟨dataPlaneKind, (packetFlow index).relaySessionId, frame⟩
    packet := some (rawPacket index) }
  packet := rawPacket index
  answer := none
  channel := ⟨⟨[1]⟩, 1⟩
  inputs := ReferenceRelay.inputs 0

theorem packetFlow_endsAt (index : UInt8) : (packetFlow index).EndsAt exitRelay where
  role := by simp [exitRelay, ReferenceRelay.setup, config]
  bindable := by
    refine ⟨⟨"", rfl⟩, ?_, ?_, ?_⟩ <;>
      simp [packetFlow, exitRelay, Setup.peerId, ReferenceRelay.setup, Externals.peerOf, reference]

theorem packetFlow_sends (index : UInt8) (frame : Bytes) :
    (packetFlow index).Sends exitRelay (packetDelivery index frame) where
  belongs := by
    refine ⟨rfl, rfl, rfl, reference.readsIdentities.peer _, rfl, rfl, rfl, rfl, rfl, rfl, ?_,
      ?_, ?_, nofun⟩
    · show 20 ≤ 2048
      decide
    · show (1 : UInt64) ≠ 0
      decide
    · show destination.port ≠ 0
      decide
  session := rfl
  size := by show 20 ≤ 1500; decide
  answered := .ip ⟨rawPayload, .ipv4⟩ rfl rfl rfl

/-- The exit takes the packet of a client and keeps its context. -/
theorem takes_packet {node : Node} (index : UInt8)
    (hreach : (loop reference exitRelay).Reachable node)
    (hreceiver : node.channels.lookup ⟨Vector.replicate 16 index⟩ = some (exitChannel index))
    (hunused : node.exitForwarding.lookup ⟨Vector.replicate 16 (index + 1)⟩ = none)
    (hroom : node.core.HasRoom ⟨Vector.replicate 16 (index + 1)⟩)
    (hsend : (DataPlane.send reference defaultMaximumPayloadSize rawPayload
      (entryChannel index)).1.IsOk) :
    ∃ next frame opened, (loop reference exitRelay).Reachable next ∧
      Kept node next (packetDelivery index frame).message ((packetFlow index).context exitRelay)
        (rawPacket index) opened ∧
      (exitChannel index).ReceivedOn opened ∧ opened.state = .established := by
  obtain ⟨frame, sealed, hsend⟩ := Fallible.isOk_iff.mp hsend
  have hsound := sound_of_reachable hreach
  have hsends := packetFlow_sends index frame
  have hsealed : SealedBy reference (entryChannel index) [packetDelivery index frame] :=
    .sent _ sealed _ _ hsend (.none _)
  obtain ⟨state, hrun⟩ := handle_run node reference.parsesJson reference.readsIdentities
    reference.readsSockets (packetFlow_endsAt index) hsends
  obtain ⟨message, opened, hpayload, hafter, hreceives⟩ := hsealed.receives reference.parsesJson
    reference.cipherOpens (linked index)
  have hcan : (packetFlow index).CanAccept reference node (exitChannel index)
      (packetDelivery index frame) := ⟨hunused, hroom, nofun, nofun⟩
  have hnoted : Sound exitRelay { node with state } := { hsound with }
  obtain ⟨next, _, htaken, _⟩ := (exitForwarded_iff hnoted
    (packetFlow_endsAt index) hsends hreceiver hreceives hpayload rfl hafter).mpr { hcan with }
  obtain ⟨context, packet, opening, opened', hreaches, hkept⟩ := kept_of_exitForwarded htaken
  obtain ⟨_, rfl⟩ := hnoted.unused hreaches.held hreaches.admits
  obtain rfl := Option.some.inj (hreaches.admits.belongs.shown.symm.trans hsends.belongs.shown)
  obtain ⟨receiver, hreceiver', hreceives'⟩ := hreaches.opens
  obtain rfl := Option.some.inj (hreceiver'.symm.trans hreceiver)
  obtain ⟨_, rfl⟩ := Prod.mk.inj (hreceives.symm.trans hreceives')
  rw [exitContext_eq hsends] at hkept
  exact ⟨next, frame, opened, hreach.tail ⟨_, _, hrun.trans htaken⟩, { hkept with },
    DataPlane.receivedOn_of_receive hreceives, hafter⟩

theorem rawPayload_sends : (DataPlane.send reference defaultMaximumPayloadSize rawPayload
      (entryChannel 5)).1.IsOk ∧
    (DataPlane.send reference defaultMaximumPayloadSize rawPayload (entryChannel 8)).1.IsOk ∧
    (DataPlane.send reference defaultMaximumPayloadSize rawPayload (exitChannel 8)).1.IsOk := by
  decide +kernel

/-- The exit has taken the packet of one client. -/
theorem oneClient : ∃ node, (loop reference exitRelay).Reachable node ∧
    (∃ context, context.relaySessionId = some ⟨Vector.replicate 16 5⟩ ∧
      node.exitForwarding = (∅ : AList fun _ : SessionId => ForwardingContext).insert
        ⟨Vector.replicate 16 6⟩ context) ∧
    node.activeExitRelaySession = some ⟨Vector.replicate 16 5⟩ ∧
    node.channels.lookup ⟨Vector.replicate 16 8⟩ = some (exitChannel 8) ∧
    node.core.HasRoom ⟨Vector.replicate 16 9⟩ := by
  obtain ⟨first, hfirst, hjoined⟩ := exitRelay_joined 5
  obtain ⟨second, hsecond, hjoined'⟩ := entry_joins 8 hfirst
    (by rw [hjoined.responder]; decide)
    (by rw [hjoined.core]; exact ⟨.inl rfl, show 1 < 8 by decide⟩)
  obtain ⟨third, frame, opened, hthird, hkept, _⟩ := takes_packet 5 hsecond
    (by rw [hjoined'.channels, AList.lookup_insert_ne (by decide), hjoined.channels]
        exact AList.lookup_insert _)
    (by rw [hjoined'.exits, hjoined.exits]; rfl)
    (by rw [hjoined'.core, hjoined.core]; exact .inr (show 0 < 8 by decide)) rawPayload_sends.1
  refine ⟨third, hthird, ⟨counted ((packetFlow 5).context exitRelay)
    (packetDelivery 5 frame).message (rawPacket 5), rfl, ?_⟩, hkept.active, ?_, ?_⟩
  · rw [hkept.contexts, hjoined'.exits, hjoined.exits]
    rfl
  · rw [hkept.others _
      (show (⟨Vector.replicate 16 8⟩ : SessionId) ≠ ⟨Vector.replicate 16 5⟩ by decide),
      hjoined'.channels]
    exact AList.lookup_insert _
  · rw [hkept.core, hjoined'.core, hjoined.core]
    exact .inr (show 1 < 8 by decide)

/-- With two clients over two relay sessions a packet may go back under the context of one and the
session of the other. -/
theorem not_returnsPacket :
    ¬ ∀ (ext : Externals) (setup : Setup ext) (node : Node) (payload : Bytes),
      ext.ReadsIdentities → ext.ReadsSockets → (loop ext setup).Reachable node →
      ReturnsPacket ext setup payload node := by
  intro hclaim
  obtain ⟨node, hreach, ⟨context, hbound, hcontexts⟩, _, hchannel, hroom⟩ := oneClient
  obtain ⟨next, frame, opened, hnext, hkept, hreceived, hstate⟩ := takes_packet 8 hreach
    hchannel (by rw [hcontexts, AList.lookup_insert_ne (by decide)]; rfl) hroom rawPayload_sends.2.1
  have hcan := DataPlane.send_isOk.mp rawPayload_sends.2.2
  obtain ⟨frame', sealed, hsends⟩ := Fallible.isOk_iff.mp (DataPlane.send_isOk.mpr
    ((DataPlane.canSend_of_receivedOn hreceived rfl hstate).mpr hcan))
  have hseals : next.Seals reference ⟨Vector.replicate 16 8⟩ rawPayload frame' sealed :=
    ⟨opened, hkept.unanswered rfl, hsends⟩
  have hfound : next.exitForwarding.lookup ⟨Vector.replicate 16 6⟩ = some context := by
    have hother : ⟨Vector.replicate 16 6⟩ ≠ (packetDelivery 8 frame).message.forwardingId :=
      show (⟨Vector.replicate 16 6⟩ : SessionId) ≠ ⟨Vector.replicate 16 (8 + 1)⟩ by decide
    rw [hkept.contexts, AList.lookup_insert_ne hother, hcontexts]
    exact AList.lookup_insert _
  have hsame := (hclaim reference exitRelay next rawPayload reference.readsIdentities
    reference.readsSockets hnext).bound (sound_of_reachable hnext) hkept.active hseals hfound
  have hother : (some ⟨Vector.replicate 16 5⟩ : Option SessionId) ≠ some
    ⟨Vector.replicate 16 8⟩ := by
    decide
  exact hother (hbound.symm.trans hsame)

/-- With one client a packet goes back to it. -/
theorem returnsPacket_one : ∃ node : Node, (loop reference exitRelay).Reachable node ∧
    (node.exitForwarding.lookup ⟨Vector.replicate 16 6⟩).isSome ∧
    ReturnsPacket reference exitRelay rawPayload node := by
  obtain ⟨node, hreach, ⟨context, hbound, hcontexts⟩, hactive, _⟩ := oneClient
  refine ⟨node, hreach, by rw [hcontexts, AList.lookup_insert]; rfl,
    (returnsPacket_iff reference.readsIdentities reference.readsSockets hreach).mpr ?_⟩
  intro relaySessionId frame sealed forwardingId context' hsession _ hfound
  obtain rfl := Option.some.inj (hactive.symm.trans hsession)
  rw [hcontexts, lookup_insert_eq_some] at hfound
  rcases hfound with ⟨_, rfl⟩ | ⟨_, hempty⟩
  · exact hbound
  · simp at hempty

end TwoClients

end Node

end Relay
