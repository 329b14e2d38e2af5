import GhostLayer.Client.Joining
import GhostLayer.Relay.Sequences

/-! # The sequence numbers that a client sends

A client numbers the packet of every message with one, so that an exit takes one
message of a session and no second one.
-/

namespace Client

open Foundation Network Relay

variable {ext : Externals}

/-- The requests among the effects of a client. -/
def requests (effects : List Effect) : List (PeerId × Bytes) :=
  effects.filterMap fun effect => match effect with
    | .request peer payload => some (peer, payload)
    | .tun _ => none

theorem requests_append (effects more : List Effect) :
    requests (effects ++ more) = requests effects ++ requests more :=
  List.filterMap_append

theorem sequenceOf_metadataRequest (hparse : ext.ParsesJson) (sessionId : SessionId) (peer : PeerId)
    (request : RelayMetadataRequest) :
    sequenceOf ext sessionId (peer, request.toJson.render) = none := by
  have hother : ext.fromSlice (ForwardingMessage.fromJson ext) request.toJson.render = none := by
    rw [Externals.fromSlice, hparse _ rfl]
    exact ForwardingMessage.fromJson_missing rfl
  rw [sequenceOf, hother]
  rfl

namespace Engine

variable {setup : Setup} {inputs : Inputs} {engine final : Engine}

/-- The numbers that the client sent for a session. -/
def sequences (ext : Externals) (sessionId : SessionId) (engine : Engine) : List UInt64 :=
  sequencesOf ext sessionId (requests engine.effects)

/-- A packet that the active channel can seal finds a session for which nothing went out. -/
def Continues (ext : Externals) (engine : Engine) (event : LoopEvent) : Prop :=
  ∀ packet item sessionId channel, event = .tun packet → outgoing packet = some item →
    engine.currentSessionId = some sessionId → engine.activeChannel = some channel →
    DataPlane.CanSend ext channel item.payload → engine.sequences ext sessionId = []

/-- The runs of a client that sends at most one packet in each session. -/
def numberedLoop (ext : Externals) (setup : Setup) : System Engine where
  init engine := engine = new
  step engine next := ∃ inputs event, Continues ext engine event ∧
    handle ext setup inputs event engine = (.ok (), next)

/-! ## Steps and runs -/

theorem sequences_request {peer : PeerId} {bytes : Bytes}
    (heffects : final.effects = engine.effects ++ [.request peer bytes]) (sessionId : SessionId) :
    final.sequences ext sessionId = engine.sequences ext sessionId ++
      (sequenceOf ext sessionId (peer, bytes)).toList := by
  rw [sequences, heffects, requests_append, sequencesOf_append]
  cases hsequence : sequenceOf ext sessionId (peer, bytes) <;>
    simp [sequences, requests, sequencesOf, hsequence]

/-- The message for a packet of an active session is numbered with one. -/
theorem sequenceOf_messageFor (hparse : ext.ParsesJson) (hreads : ext.ReadsIdentities)
    (hsockets : ext.ReadsSockets) (route : RouteBinding) (sessionId sessionId' : SessionId)
    (frame : Bytes) (item : Outgoing) :
    sequenceOf ext sessionId' (exitOf route,
        ((messageFor ext setup route sessionId frame item).toJson ext).render) =
      if sessionId = sessionId' then some 1 else none := by
  have hlast : (messageFor ext setup route sessionId frame item).route.peers.getLast? =
      some (exitOf route) := by
    rw [messageFor, forwardingMessage]
    cases route <;> rfl
  rw [sequenceOf_message hparse hreads hsockets, hlast]
  simp only [and_true]
  rfl

/-- What an event adds to the numbers of the sessions: one for the session of a packet. -/
theorem Step.sequences {event : LoopEvent} (hparse : ext.ParsesJson)
    (hreads : ext.ReadsIdentities) (hsockets : ext.ReadsSockets)
    (hcoherent : Coherent ext setup engine) (hstep : Step ext setup inputs engine event final) :
    (∀ sessionId, final.sequences ext sessionId = engine.sequences ext sessionId) ∨
    ∃ packet item sessionId channel, event = .tun packet ∧ outgoing packet = some item ∧
      engine.currentSessionId = some sessionId ∧ engine.activeChannel = some channel ∧
      DataPlane.CanSend ext channel item.payload ∧
      ∀ other, final.sequences ext other = engine.sequences ext other ++
        if sessionId = other then [1] else [] := by
  cases hstep with
  | idle | failed | established | received | considered | left | unsent => exact .inl fun _ => rfl
  | asked peerId =>
      refine .inl fun sessionId => ?_
      rw [sequences_request rfl, sequenceOf_metadataRequest hparse]
      exact List.append_nil _
  | delivered =>
      refine .inl fun sessionId => ?_
      rw [Engine.sequences, withEffect, requests_append]
      exact congrArg _ (List.append_nil _)
  | begun =>
      refine .inl fun sessionId => ?_
      rw [sequences_request rfl, sequenceOf_init hparse]
      exact List.append_nil _
  | sent packet channel next route exit sessionId item frame shown active along towards current
      sends =>
      have hactive := hcoherent.active channel active
      obtain rfl := Option.some.inj (along.symm.trans hactive.route)
      obtain rfl := Option.some.inj (towards.symm.trans hactive.exit)
      refine .inr ⟨packet, item, sessionId, channel, rfl, shown, current, active,
        DataPlane.send_isOk.mp (Fallible.isOk_iff.mpr ⟨frame, next, sends⟩), fun other => ?_⟩
      rw [sequences_request rfl, sequenceOf_messageFor hparse hreads hsockets]
      split_ifs <;> rfl

/-- A packet that finds a session for which nothing went out keeps the numbers in order. -/
theorem numbered_of_step {event : LoopEvent} (hparse : ext.ParsesJson)
    (hreads : ext.ReadsIdentities) (hsockets : ext.ReadsSockets)
    (hcoherent : Coherent ext setup engine) (hcontinues : Continues ext engine event)
    (hnumbered : ∀ sessionId, Numbered (engine.sequences ext sessionId))
    (hstep : Step ext setup inputs engine event final) (sessionId : SessionId) :
    Numbered (final.sequences ext sessionId) := by
  rcases hstep.sequences hparse hreads hsockets hcoherent with hsame |
    ⟨packet, item, current, channel, hevent, hitem, hcurrent, hactive, hcan, hsent⟩
  · rw [hsame]
    exact hnumbered sessionId
  · rw [hsent]
    split_ifs with hsession
    · obtain rfl := hsession
      rw [hcontinues packet item current channel hevent hitem hcurrent hactive hcan]
      exact Numbered.nil.append (by decide) nofun
    · rw [List.append_nil]
      exact hnumbered sessionId

/-- Where the numbers are still in order after an event, its packet was the first of its session. -/
theorem continues_of_numbered {event : LoopEvent} (hparse : ext.ParsesJson)
    (hreads : ext.ReadsIdentities) (hsockets : ext.ReadsSockets)
    (hcoherent : Coherent ext setup engine)
    (hrun : handle ext setup inputs event engine = (.ok (), final))
    (hnumbered : ∀ sessionId, Numbered (final.sequences ext sessionId)) :
    Continues ext engine event := by
  rintro packet item sessionId channel rfl hitem hsession hchannel hcan
  have hactive := hcoherent.active channel hchannel
  obtain ⟨frame, next, hsends⟩ := Fallible.isOk_iff.mp (DataPlane.send_isOk.mpr hcan)
  have hopen : DataPlane.open defaultMaximumPayloadSize channel = (.ok (), channel) :=
    DataPlane.open_eq_ok.mpr ⟨⟨hcan.established, by decide⟩, rfl⟩
  have hsent := handle_sends setup inputs hitem hchannel hactive.route hactive.exit hsession hopen
    hsends
  obtain ⟨_, rfl⟩ := Prod.mk.inj (hrun.symm.trans hsent)
  have hlast := hnumbered sessionId
  rw [sequences_request rfl, sequenceOf_messageFor hparse hreads hsockets, if_pos rfl] at hlast
  exact hlast.nil_of_append_one

theorem sequences_grow {event : LoopEvent} (hparse : ext.ParsesJson)
    (hreads : ext.ReadsIdentities) (hsockets : ext.ReadsSockets)
    (hcoherent : Coherent ext setup engine)
    (hrun : handle ext setup inputs event engine = (.ok (), final)) (sessionId : SessionId) :
    engine.sequences ext sessionId <+: final.sequences ext sessionId := by
  rcases (handle_step hrun).sequences hparse hreads hsockets hcoherent with hsame |
    ⟨_, _, _, _, _, _, _, _, _, hsent⟩
  · rw [hsame]
  · rw [hsent]
    exact List.prefix_append _ _

/-- The numbers of a client are in order exactly in the states that runs reach with at most one
packet in each session. -/
theorem numberedLoop_reachable_iff (hparse : ext.ParsesJson) (hreads : ext.ReadsIdentities)
    (hsockets : ext.ReadsSockets) :
    (numberedLoop ext setup).Reachable engine ↔ (loop ext setup).Reachable engine ∧
      ∀ sessionId, InSequence (engine.sequences ext sessionId) := by
  constructor
  · intro hreach
    have hnumbered : Coherent ext setup engine ∧
        ∀ sessionId, Numbered (engine.sequences ext sessionId) := by
      refine hreach.invariant (fun engine => Coherent ext setup engine ∧
        ∀ sessionId, Numbered (engine.sequences ext sessionId)) ?_ ?_
      · rintro _ rfl
        exact ⟨new_coherent, fun _ => .nil⟩
      · rintro _ _ _ ⟨hcoherent, hnumbered⟩ ⟨inputs, event, hcontinues, hrun⟩
        have hstep := handle_step hrun
        exact ⟨hcoherent.step hstep,
          numbered_of_step hparse hreads hsockets hcoherent hcontinues hnumbered hstep⟩
    refine ⟨hreach.mono ?_ ?_, fun sessionId => Numbered.iff_inSequence.mp (hnumbered.2 sessionId)⟩
    · exact fun _ hnew => hnew
    · rintro _ _ ⟨inputs, event, _, hrun⟩
      exact ⟨inputs, event, hrun⟩
  · rintro ⟨⟨start, hstarted, hsteps⟩, hsequence⟩
    induction hsteps with
    | refl => exact .of_init hstarted
    | tail hbefore hlast ih =>
        obtain ⟨inputs, event, hrun⟩ := hlast
        have hcoherent := coherent_of_reachable ⟨start, hstarted, hbefore⟩
        have hnumbered := fun sessionId => Numbered.iff_inSequence.mpr (hsequence sessionId)
        have hearlier := fun sessionId => Numbered.iff_inSequence.mp ((hnumbered sessionId).of_begun
          (sequences_grow hparse hreads hsockets hcoherent hrun sessionId))
        exact (ih hearlier).tail ⟨inputs, event,
          continues_of_numbered hparse hreads hsockets hcoherent hrun hnumbered, hrun⟩

end Engine

/-! ## Both senders -/

/-- The numbers that a client and an entry send are in order exactly in the states that runs reach
in which every message continues them. -/
theorem inSequence_iff (hparse : ext.ParsesJson) (hreads : ext.ReadsIdentities)
    (hsockets : ext.ReadsSockets) :
    (∀ (setup : Setup) (engine : Engine), (Engine.numberedLoop ext setup).Reachable engine ↔
      (Engine.loop ext setup).Reachable engine ∧
        ∀ sessionId, InSequence (engine.sequences ext sessionId)) ∧
    (∀ (setup : Relay.Setup ext) (node : Node), (Node.numberedLoop ext setup).Reachable node ↔
      (Node.loop ext setup).Reachable node ∧
        ∀ sessionId, InSequence (node.sequences ext sessionId)) :=
  ⟨fun _ _ => Engine.numberedLoop_reachable_iff hparse hreads hsockets,
    fun _ _ => Node.numberedLoop_reachable_iff hparse hreads hsockets⟩

/-- A query of the client goes out with the number one. -/
theorem query_sequences {mode : RouteMode} {engine final : Engine} {frame : Bytes}
    (heffects : final.effects = engine.effects ++ [.request (Engine.exitOf
      (ReferenceClient.route mode)) ((ReferenceClient.message mode frame).toJson
        reference).render]) :
    final.sequences reference ReferenceClient.inputs.sessionId =
      engine.sequences reference ReferenceClient.inputs.sessionId ++ [1] := by
  rw [Engine.sequences_request heffects, ReferenceClient.message,
    Engine.sequenceOf_messageFor reference.parsesJson reference.readsIdentities
      reference.readsSockets, if_pos rfl]
  rfl

/-- A client that sent one query was reached in order. -/
theorem inSequence_one : ∃ engine, (Engine.loop reference (ReferenceClient.setup .twoHop)).Reachable
      engine ∧ engine.sequences reference ReferenceClient.inputs.sessionId = [1] ∧
    (Engine.numberedLoop reference (ReferenceClient.setup .twoHop)).Reachable engine := by
  obtain ⟨engine, hestablished, hbegun⟩ := ReferenceClient.established_begun .twoHop
  obtain ⟨frame, final, hrun, heffects, hfinal⟩ := hestablished.sends (by decide)
  have hnothing : ∀ sessionId, engine.sequences reference sessionId = [] := by
    intro sessionId
    rw [Engine.sequences, hbegun]
    show sequencesOf reference sessionId [(⟨[2]⟩, _)] = []
    rw [sequencesOf, List.filterMap_cons, sequenceOf_init reference.parsesJson]
    rfl
  have hone : ∀ sessionId, final.sequences reference sessionId =
      if ReferenceClient.inputs.sessionId = sessionId then [1] else [] := by
    intro sessionId
    rw [Engine.sequences_request heffects, hnothing, ReferenceClient.message,
      Engine.sequenceOf_messageFor reference.parsesJson reference.readsIdentities
        reference.readsSockets]
    split_ifs <;> rfl
  refine ⟨final, hfinal.reachable, by rw [hone, if_pos rfl], ?_⟩
  refine ((inSequence_iff reference.parsesJson reference.readsIdentities
    reference.readsSockets).1 _ final).mpr ⟨hfinal.reachable, fun sessionId => ?_⟩
  rw [hone, ← Numbered.iff_inSequence]
  split_ifs
  · refine Numbered.nil.append (by decide) ?_
    intro _ hmember
    cases hmember
  · exact .nil

/-- Two queries of one session go out with the same number. -/
theorem not_inSequence_two : ∃ engine,
    (Engine.loop reference (ReferenceClient.setup .twoHop)).Reachable engine ∧
      ¬ InSequence (engine.sequences reference ReferenceClient.inputs.sessionId) := by
  obtain ⟨start, hestablished⟩ := ReferenceClient.established .twoHop
  obtain ⟨_, middle, _, hfirst, hmiddle⟩ := hestablished.sends (by decide)
  obtain ⟨_, final, _, hsecond, hfinal⟩ := hmiddle.sends (by decide)
  refine ⟨final, hfinal.reachable, fun hsequence => ?_⟩
  rw [query_sequences hsecond, query_sequences hfirst] at hsequence
  have habove := (Numbered.iff_inSequence.mpr hsequence).of_append.2 1 (by simp)
  exact absurd habove (by decide)

end Client
